/-!
# JSON values

A JSON value as it was written. Numbers keep the literal text they were written
with, so that `1`, `1.0` and `1e0` stay apart, and objects keep their members in
the order written, duplicates included. A reader that wants a dictionary takes the
last member of a name (`Json.lookup?`), which is how every decoder of this library
treats repeated names.
-/

namespace NetFleet

/-- A JSON value. Numbers keep their literal text; objects keep member order and
repeated names. -/
inductive Json where
  | null
  | bool (b : Bool)
  | num (lit : String)
  | str (s : String)
  | arr (items : List Json)
  | obj (members : List (String × Json))
deriving BEq, Inhabited

namespace Json

/-- The value of the last member named `k`. -/
def lookup? (members : List (String × Json)) (k : String) : Option Json :=
  members.foldl (fun acc kv => if kv.1 = k then some kv.2 else acc) none

/-- The member `k` of an object, the last one when the name repeats. -/
def get? (j : Json) (k : String) : Option Json :=
  match j with
  | .obj ms => lookup? ms k
  | _ => none

/-- The member `k` of an object, with `null` standing for an absent member. -/
def field (j : Json) (k : String) : Json :=
  (j.get? k).getD .null

/-- The names of an object, each once, in the order of their first appearance. -/
def names (members : List (String × Json)) : List String :=
  (members.map (·.1)).eraseDups

/-- `k` put into names sorted in ascending order, before the first it does not
follow. -/
def insertName (k : String) : List String → List String
  | [] => [k]
  | n :: ns => if k ≤ n then k :: n :: ns else n :: insertName k ns

/-- Names sorted in ascending order, by insertion. -/
def sortNames (ks : List String) : List String := ks.foldr insertName []

/-- An object's members with each name once, holding its last value, sorted by name:
the dictionary the object denotes. -/
def dictOf (members : List (String × Json)) : List (String × Json) :=
  let keys := sortNames (names members)
  keys.filterMap fun k => (lookup? members k).map (k, ·)

/-- The string held by a value, if it is a string. -/
def str? : Json → Option String
  | .str s => some s
  | _ => none

/-- The boolean held by a value, if it is one. -/
def bool? : Json → Option Bool
  | .bool b => some b
  | _ => none

/-- The items of an array. -/
def arr? : Json → Option (List Json)
  | .arr xs => some xs
  | _ => none

/-- The members of an object. -/
def obj? : Json → Option (List (String × Json))
  | .obj ms => some ms
  | _ => none

/-- Whether a value is `null`. -/
def isNull : Json → Bool
  | .null => true
  | _ => false

/-- A number written from a natural number. -/
def ofNat (n : Nat) : Json := .num (toString n)

/-- A number written from an integer. -/
def ofInt (i : Int) : Json := .num (toString i)

/-- An array of strings. -/
def strs (xs : List String) : Json := .arr (xs.map .str)

/-- An array of strings, or `null` for a missing list. -/
def strs? : Option (List String) → Json
  | none => .null
  | some xs => strs xs

end Json

end NetFleet
