/-!
# A key-value store of documents

The overlay keeps its documents in a flat key-value store. The store here holds
them in memory, and can be told to fail: reads fail with `getError` when it is
set, and updates fail with `updateError` before anything is read. An update
runs a function on the current value (and whether the key exists) and writes
what it returns; when the function fails, nothing is written.
-/

namespace NetFleet.Overlay

/-- Documents by key, with the faults reads and updates are to report. -/
structure Store where
  data : List (String × String) := []
  getError : Option String := none
  updateError : Option String := none
deriving Inhabited

/-- The value under a key, if the key exists. -/
def Store.lookup (s : Store) (key : String) : Option String :=
  (s.data.find? (·.1 = key)).map (·.2)

/-- Read a key: its value if it exists, or the read fault. -/
def Store.get (s : Store) (key : String) : Except String (Option String) :=
  match s.getError with
  | some e => .error e
  | none => .ok (s.lookup key)

/-- The store with `key` set to `value`; a new key goes last. -/
def Store.set (s : Store) (key value : String) : Store :=
  if (s.lookup key).isSome then
    { s with data := s.data.map fun (k, v) => if k = key then (k, value) else (k, v) }
  else { s with data := s.data ++ [(key, value)] }

end NetFleet.Overlay
