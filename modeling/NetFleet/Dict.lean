/-!
# Dictionaries keyed by text

A dictionary keyed by text is held as its entries in key order, each key once:
the order in which such a dictionary is written out. `Dict.put` sets the value
of a key, replacing the one it had; `Dict.ofList` sets the entries of a list one
after the other, so that a key given twice keeps its last value.
-/

namespace NetFleet.Dict

variable {α : Type}

/-- Set the value of key `k`, replacing the one it had, before the first key that
follows `k`. -/
def put (k : String) (v : α) : List (String × α) → List (String × α)
  | [] => [(k, v)]
  | (k', v') :: rest =>
    if k' = k then (k, v) :: rest
    else if k < k' then (k, v) :: (k', v') :: rest
    else (k', v') :: put k v rest

/-- The dictionary of a list of entries, set in the order of the list. -/
def ofList (entries : List (String × α)) : List (String × α) :=
  entries.foldl (fun acc e => put e.1 e.2 acc) []

end NetFleet.Dict
