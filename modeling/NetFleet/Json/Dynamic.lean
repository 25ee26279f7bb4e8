import NetFleet.Json.Value
import NetFleet.Decimal.Data

/-!
# Dynamic JSON

JSON read without a schema, the way a dictionary-and-double reader holds it:
each object has its names once (the last value of a repeated name wins) and
sorted, and each number is the nearest double, written back in the data layout
(`12345678901234567890` becomes `12345678901234567000`, `1.0` becomes `1`).

`Json.dynamic?` makes a value dynamic; a number beyond the range of doubles is
refused. `Json.put` and `Json.mergeDeep` edit dynamic objects and keep them
sorted.
-/

namespace NetFleet.Json

/-- A number literal as the nearest double, written in the data layout; `none`
beyond the range of doubles. -/
def asDouble? (lit : String) : Option String := Decimal.dataText? lit

/-- Set member `k` of a sorted object, replacing an existing one. -/
def put (k : String) (v : Json) : List (String × Json) → List (String × Json)
  | [] => [(k, v)]
  | (k', v') :: rest =>
    if k' = k then (k, v) :: rest
    else if k < k' then (k, v) :: (k', v') :: rest
    else (k', v') :: put k v rest

mutual

/-- A value made dynamic; the error names the first number out of range. -/
def dynamic? : Json → Except String Json
  | .num lit => match asDouble? lit with
    | some t => .ok (.num t)
    | none => .error ("json: cannot unmarshal number " ++ lit ++ " into Go value of type float64")
  | .arr xs => do return .arr (← dynamicItems xs)
  | .obj ms => do return .obj (← dynamicMembers [] ms)
  | j => .ok j

/-- Items made dynamic. -/
def dynamicItems : List Json → Except String (List Json)
  | [] => .ok []
  | x :: xs => do return (← dynamic? x) :: (← dynamicItems xs)

/-- Members made dynamic and put into the sorted object `acc`, in order. -/
def dynamicMembers (acc : List (String × Json)) : List (String × Json) → Except String (List (String × Json))
  | [] => .ok acc
  | (k, v) :: ms => do dynamicMembers (put k (← dynamic? v) acc) ms

end

/-- Merge `patch` into the object `base`: where both hold an object under a
name, they merge in turn; otherwise the value of `patch` replaces the one of
`base`. -/
def mergeDeep (base patch : List (String × Json)) : List (String × Json) :=
  match patch with
  | [] => base
  | (k, v) :: rest =>
    let merged := match lookup? base k, v with
      | some (.obj b), .obj o => .obj (mergeDeep b o)
      | _, _ => v
    mergeDeep (put k merged base) rest

end NetFleet.Json
