import NetFleet.Json.Value
import NetFleet.Decimal.Read

/-!
# Values of templates

The data a template runs on is JSON read without a schema: objects become maps
from texts to values (the last of repeated names wins, names sorted), arrays
become lists, numbers become doubles. Templates add integers of their own:
integer constants, lengths, the positions of a `range`.

A value of the engine also knows whether it is held in a slot of the dynamic
type (an element of a list, an entry of a map, an argument of a printing
function): such a value is *boxed*. A boxed value with nothing in it is a
*nil interface*; an unboxed value with nothing in it is *no value*, the result
of a missing entry or of a pipeline that ended in a nil interface. The
difference shows in messages (`interface {}` against the concrete type) and in
what the printing functions make of nothing (`<nil>` against `<no value>`).

-/

namespace NetFleet.Template

/-- The data of templates. -/
inductive Data where
  | null
  | bool (b : Bool)
  /-- an integer of the template itself; never inside a list or a map -/
  | int (i : Int)
  | float (x : Float)
  /-- a complex number, from a complex constant of the template -/
  | complex (re im : Float)
  | str (s : String)
  | list (xs : List Data)
  /-- a map with sorted keys -/
  | map (ms : List (String × Data))

/-- A value of the engine: a datum, and whether it is boxed. -/
structure Value where
  data : Data
  boxed : Bool

/-- No value. -/
def Value.invalid : Value := ⟨.null, false⟩

/-- An unboxed value. -/
def Value.of (d : Data) : Value := ⟨d, false⟩

/-- Whether a value is no value at all. -/
def Value.isInvalid (v : Value) : Bool :=
  match v.data with
  | .null => !v.boxed
  | _ => false

/-- The value taken out of its box: a nil interface becomes no value. -/
def Value.unbox (v : Value) : Value := ⟨v.data, false⟩

/-- Set a key of a sorted map, replacing an existing entry. -/
def putEntry (k : String) (v : Data) : List (String × Data) → List (String × Data)
  | [] => [(k, v)]
  | (k', v') :: rest =>
    if k' = k then (k, v) :: rest
    else if k < k' then (k, v) :: (k', v') :: rest
    else (k', v') :: putEntry k v rest

mutual

/-- A JSON value as data. -/
def Data.ofJson : Json → Data
  | .null => .null
  | .bool b => .bool b
  | .num lit => .float (match Decimal.Literal.parse? lit with
      | some l => l.toFloat
      | none => 0)
  | .str s => .str s
  | .arr xs => .list (Data.ofItems xs)
  | .obj ms => .map (Data.ofMembers [] ms)

/-- JSON items as data. -/
def Data.ofItems : List Json → List Data
  | [] => []
  | x :: xs => Data.ofJson x :: Data.ofItems xs

/-- JSON members as a sorted map, the last of repeated names winning. -/
def Data.ofMembers (acc : List (String × Data)) : List (String × Json) → List (String × Data)
  | [] => acc
  | (k, v) :: ms => Data.ofMembers (putEntry k (Data.ofJson v) acc) ms

end

/-- The name of the concrete type of a datum. -/
def Data.typeName : Data → String
  | .null => "<nil>"
  | .bool _ => "bool"
  | .int _ => "int"
  | .float _ => "float64"
  | .complex _ _ => "complex128"
  | .str _ => "string"
  | .list _ => "[]interface \x7b\x7d"
  | .map _ => "map[string]interface \x7b\x7d"

/-- The name of the type of a value: the dynamic type for a boxed one. -/
def Value.typeName (v : Value) : String :=
  if v.boxed then "interface \x7b\x7d" else v.data.typeName

/-- The number of elements of a list or map, or of bytes of a text. -/
def Data.size? : Data → Option Nat
  | .list xs => some xs.length
  | .map ms => some ms.length
  | .str s => some s.utf8ByteSize
  | _ => none

/-- Whether a value counts as true: no value, false, zero and empty collections
do not. -/
def Value.truth (v : Value) : Bool :=
  match v.data with
  | .null => false
  | .bool b => b
  | .int i => i ≠ 0
  | .float x => x != 0
  | .complex re im => re != 0 || im != 0
  | .str s => !s.isEmpty
  | .list xs => !xs.isEmpty
  | .map ms => !ms.isEmpty

end NetFleet.Template
