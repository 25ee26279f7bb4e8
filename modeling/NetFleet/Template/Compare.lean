import NetFleet.Template.Format

/-!
# Comparing values

The comparison functions of templates (`eq`, `ne`, `lt`, `le`, `gt`, `ge`)
compare values of one basic kind: booleans, integers, doubles, complex numbers
or texts. A value held as a value of any type is compared by what it holds;
a nil interface counts as no value.

* `eq` compares a value with each of the others in turn: values of different
  kinds are incompatible unless one of them is no value (then they differ);
  two of no basic kind are equal when both are nothing, differ when one is,
  and are not comparable otherwise (lists and maps).
* `lt` wants two values of one kind with an order: booleans and complex
  numbers have none, and values of no basic kind are no valid type.
-/

namespace NetFleet.Template

/-- The kinds that comparisons tell apart. -/
inductive BasicKind where
  | invalid
  | bool
  | int
  | float
  | complex
  | string
deriving DecidableEq

/-- The comparison kind of a datum. -/
def Data.basicKind : Data → BasicKind
  | .bool _ => .bool
  | .int _ => .int
  | .float _ => .float
  | .complex _ _ => .complex
  | .str _ => .string
  | _ => .invalid

/-- The message of a comparison of values of different kinds. -/
def badComparison (a b : Data) : String :=
  "incompatible types for comparison: " ++ a.typeName ++ " and " ++ b.typeName

/-- The message of a comparison of values of a kind without order. -/
def badComparisonType : String := "invalid type for comparison"

/-- Whether two values of no basic kind are equal: both nothing, or one nothing
and the other not; values of two different sorts, or two lists or maps, do
not compare. -/
def equalsOther (a b : Value) : Except String Bool :=
  if a.isInvalid || b.isInvalid then .ok (a.isInvalid && b.isInvalid)
  else match a.data, b.data with
    | .list _, .map _ | .map _, .list _ =>
      .error ("non-comparable types " ++ a.data.showText ++ ": " ++ a.data.typeName ++ ", " ++
        b.data.typeName ++ ": " ++ b.data.show)
    | _, _ => .error ("non-comparable type " ++ b.data.showText ++ ": " ++ b.data.typeName)

/-- Whether `a` equals `b`, both taken out of their boxes. -/
def equalsOne (a b : Value) : Except String Bool :=
  let k1 := a.data.basicKind
  let k2 := b.data.basicKind
  if k1 ≠ k2 then
    if !a.isInvalid && !b.isInvalid then .error (badComparison a.data b.data) else .ok false
  else match a.data, b.data with
    | .bool x, .bool y => .ok (x == y)
    | .int x, .int y => .ok (x == y)
    | .float x, .float y => .ok (x == y)
    | .complex x1 y1, .complex x2 y2 => .ok (x1 == x2 && y1 == y2)
    | .str x, .str y => .ok (x == y)
    | _, _ => equalsOther a b

/-- Whether `a` equals one of `others`, tried in order; the first error stops
the comparison. -/
def equalsAny (a : Value) (others : List Value) : Except String Bool :=
  if others.isEmpty then .error "missing argument for comparison"
  else
    let rec go : List Value → Except String Bool
      | [] => .ok false
      | b :: rest => do
        if ← equalsOne a.unbox b.unbox then return true else go rest
    go others

/-- Whether `a` is less than `b`: both of one basic kind with an order. -/
def lessThan (a b : Value) : Except String Bool :=
  let a := a.unbox
  let b := b.unbox
  let k1 := a.data.basicKind
  let k2 := b.data.basicKind
  if k1 = .invalid || k2 = .invalid then .error badComparisonType
  else if k1 ≠ k2 then .error (badComparison a.data b.data)
  else match a.data, b.data with
    | .int x, .int y => .ok (x < y)
    | .float x, .float y => .ok (x < y)
    | .str x, .str y => .ok (x < y)
    | _, _ => .error badComparisonType

end NetFleet.Template
