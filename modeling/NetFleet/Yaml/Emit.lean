import NetFleet.Json.Value
import NetFleet.Decimal.Read
import NetFleet.Decimal.Layout
import NetFleet.Text.Category
import NetFleet.Yaml.Scalar

/-!
# YAML documents

A JSON value written as a block-style YAML document with an indentation step of
four:

* a mapping has one `key: value` line per member, keys in natural order; a
  sequence has one `- item` line per item;
* a nested collection starts on the line after its key, four columns further in,
  or on the line of its `-`, two columns further in;
* empty collections are written `{}` and `[]`, numbers in the general layout
  (`1e+21`, `2.5`), and text in the style that `Scalar.style` picks;
* a key longer than 128 bytes or spanning lines is a complex key, written after
  `?`, with its value after a `:` on the next line.

`Yaml.document` writes a document; it ends with a line break.
-/

namespace NetFleet.Yaml

open NetFleet (Json)

/-- The indentation step. -/
def step : Nat := 4

/-- The next indentation column after `n`, on the grid of the step. -/
def nextColumn (n : Nat) : Nat := step * ((n + step) / step)

/-- Where a node is written. -/
inductive Place where
  /-- the node is the document -/
  | root
  /-- after the `:` of a simple key, in a mapping at this column -/
  | value (column : Nat)
  /-- after the `-` of a sequence at this column -/
  | item (column : Nat)
  /-- after the `?` of a complex key, in a mapping at this column -/
  | question (column : Nat)
  /-- after the `:` of a complex key, in a mapping at this column -/
  | answer (column : Nat)

/-- The column of a collection written at a place. -/
def Place.inner : Place → Nat
  | .root => 0
  | .value c | .question c | .answer c => nextColumn c
  | .item c => c + 2

/-- The column of the lines of a scalar written at a place. -/
def Place.scalarColumn : Place → Nat
  | .root => step
  | p => p.inner

/-- How the first line of a collection begins at a place: `none` for a new line,
`some n` for `n` spaces on the current line. -/
def Place.lead : Place → Option Nat
  | .root => some 0
  | .value _ => none
  | .item _ => some 1
  | .question c | .answer c => some (nextColumn c - c - 1)

/-- Whether a node at a place follows other text on its line. -/
def Place.follows : Place → Bool
  | .root => false
  | _ => true

/-- Text written so far: the text, and whether it ends with a line break. -/
structure Written where
  text : String
  atLineStart : Bool

/-- `n` spaces. -/
def spaces (n : Nat) : String := String.ofList (List.replicate n ' ')

/-- The start of a line at `column`, after what was written: a line break when
the text does not already end with one. -/
def Written.newLine (w : Written) (column : Nat) : String :=
  (if w.atLineStart then "" else "\n") ++ spaces column

/-- A text scalar written at a place, as a simple key or not. -/
def textScalar (p : Place) (simpleKey : Bool) (s : String) : Written :=
  let pre := if p.follows then " " else ""
  match Scalar.style s simpleKey with
  | .plain => ⟨pre ++ s, false⟩
  | .single => ⟨pre ++ Scalar.single p.scalarColumn s, false⟩
  | .double => ⟨pre ++ Scalar.double s, false⟩
  | .literal =>
    let body := Scalar.literal step p.scalarColumn s
    ⟨pre ++ body, match s.toList.getLast? with
      | some c => Scalar.isBreak c
      | none => false⟩

/-- A scalar that is no text (a number, a boolean or null), written plain. -/
def plainScalar (p : Place) (s : String) : Written :=
  ⟨(if p.follows then " " else "") ++ s, false⟩

/-- A number in the general layout. -/
def numberText (lit : String) : String :=
  match Decimal.Literal.parse? lit with
  | some l => Decimal.Layout.general.render l.toFloat
  | none => lit

/-- A number kept as a signed 64-bit integer: its residue modulo `2 ^ 64`, taken
between `-2 ^ 63` and `2 ^ 63`. -/
def wrap64 (n : Int) : Int :=
  let m := n % Int.pow 2 64
  if m ≥ Int.pow 2 63 then m - Int.pow 2 64 else m

/-- The value of the run of digits at the start of `cs`, starting from `seed`,
and the length of the run. Each digit adds its code point's distance from `0`,
so a digit of another script weighs more than nine; the value is a signed
64-bit integer and wraps around. -/
def digitRun (seed : Int) (cs : List Char) : Int × Nat :=
  let run := cs.takeWhile Text.isDecimalDigit
  (run.foldl (fun n c => wrap64 (n * 10 + ((c.toNat : Int) - 48))) seed, run.length)

/-- The natural order of keys, after a common part: letters by code point; where a
letter meets another character, the letter comes first after a digit and last
otherwise; runs of digits by their value, a zero inside a number counting as a
digit of it. `digits` tells whether the common part ends with a digit and
`nonZero` whether its last run of digits holds one other than zero. -/
def naturalLess (a b : List Char) (digits nonZero : Bool) : Bool :=
  match a, b with
  | x :: xs, y :: ys =>
    if x = y then
      let d := Text.isDecimalDigit x
      naturalLess xs ys d (d && (nonZero || x ≠ '0'))
    else
      let xl := Text.isLetter x
      let yl := Text.isLetter y
      if xl && yl then x < y
      else if xl || yl then (if digits then xl else yl)
      else
        let seed := if (x = '0' || y = '0') && nonZero then 1 else 0
        let (av, al) := digitRun seed (x :: xs)
        let (bv, bl) := digitRun seed (y :: ys)
        if av != bv then av < bv
        else if al != bl then al < bl
        else x < y
  | [], _ :: _ => true
  | _, _ => false

/-- Keys in natural order. -/
def sortKeys (ms : List (String × Json)) : List (String × Json) :=
  ms.mergeSort fun a b => !naturalLess b.1.toList a.1.toList false false

mutual

/-- The value with the members of every object in natural order. -/
def inNaturalOrder : Json → Json
  | .arr xs => .arr (itemsInNaturalOrder xs)
  | .obj ms => .obj (sortKeys (membersInNaturalOrder ms))
  | j => j

/-- `inNaturalOrder` on each item. -/
def itemsInNaturalOrder : List Json → List Json
  | [] => []
  | x :: xs => inNaturalOrder x :: itemsInNaturalOrder xs

/-- `inNaturalOrder` on each member's value. -/
def membersInNaturalOrder : List (String × Json) → List (String × Json)
  | [] => []
  | (k, v) :: ms => (k, inNaturalOrder v) :: membersInNaturalOrder ms

end

mutual

/-- A value written at a place, members in the order given. -/
def node (p : Place) : Json → Written
  | .null => plainScalar p "null"
  | .bool b => plainScalar p (if b then "true" else "false")
  | .num lit => plainScalar p (numberText lit)
  | .str s => textScalar p false s
  | .arr [] => plainScalar p "[]"
  | .obj [] => plainScalar p "\x7b\x7d"
  | .arr (x :: xs) => items p.inner ⟨"", false⟩ p.lead (x :: xs)
  | .obj (m :: ms) => members p.inner ⟨"", false⟩ p.lead (m :: ms)

/-- The items of a sequence at `column`, after `w`; `first` tells how the first
line begins. -/
def items (column : Nat) (w : Written) (first : Option Nat) : List Json → Written
  | [] => w
  | x :: xs =>
    let open_ := match first with
      | some n => spaces n
      | none => w.newLine column
    let v := node (.item column) x
    items column ⟨w.text ++ open_ ++ "-" ++ v.text, v.atLineStart⟩ none xs

/-- The members of a mapping at `column`, after `w`. -/
def members (column : Nat) (w : Written) (first : Option Nat) :
    List (String × Json) → Written
  | [] => w
  | (k, v) :: ms =>
    let open_ := match first with
      | some n => spaces n
      | none => w.newLine column
    let simple := !(Scalar.analyze k).multiline && k.utf8ByteSize ≤ 128
    if simple then
      let key := textScalar .root true k
      let val := node (.value column) v
      members column ⟨w.text ++ open_ ++ key.text ++ ":" ++ val.text, val.atLineStart⟩ none ms
    else
      let key := textScalar (.question column) false k
      let mid := key.newLine column
      let val := node (.answer column) v
      members column
        ⟨w.text ++ open_ ++ "?" ++ key.text ++ mid ++ ":" ++ val.text, val.atLineStart⟩ none ms

end

/-- A value as a YAML document, ending with a line break. -/
def document (j : Json) : String :=
  let w := node .root (inNaturalOrder j)
  w.text ++ (if w.atLineStart then "" else "\n")

end NetFleet.Yaml
