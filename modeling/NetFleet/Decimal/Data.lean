import NetFleet.Decimal.Exact
import NetFleet.Decimal.Read
import NetFleet.Decimal.Layout

/-!
# Numbers of data documents

A number read into a free-form value of a data document becomes the nearest
double and is written back in the data layout: `1.50` is written `1.5`, and
`12345678901234567890` is written `12345678901234567000`. Everything here is
computed on natural numbers.

* `Literal.binary?` rounds the value of a literal to the nearest double, a tie
  going to the even mantissa (`Dyadic.nearest`), and takes the double apart as
  `Binary` does; `none` past the largest double. Literals whose magnitude is far
  outside the range of doubles are settled before any power of ten is formed.
* `Binary.dataText` writes a double positionally when it is zero or its
  magnitude is at least the double nearest to `1e-6` and below `1e21`, and with
  an exponent otherwise.
* `dataText?` is the two together, from the literal text.
-/

namespace NetFleet.Decimal

/-- A rounded dyadic taken apart as a double: a mantissa rounded up to `2^53`
is the first mantissa of the next binade. -/
def Binary.ofDyadic (neg : Bool) (x : Dyadic) : Binary :=
  if x.mant = Nat.pow 2 53 then ⟨neg, Nat.pow 2 52, x.exp + 1, true⟩
  else ⟨neg, x.mant, x.exp, decide (x.mant = Nat.pow 2 52 ∧ -1074 < x.exp)⟩

/-- The value of a literal as a ratio of natural numbers. -/
def Literal.ratio (l : Literal) : Nat × Nat :=
  if 0 ≤ l.exp then (l.mant * Nat.pow 10 l.exp.toNat, 1) else (l.mant, Nat.pow 10 (-l.exp).toNat)

/-- The double nearest to a literal, taken apart; `none` past the largest double. -/
def Literal.binary? (l : Literal) : Option Binary :=
  let size : Int := (Nat.toDigits 10 l.mant).length
  if l.mant = 0 ∨ l.exp + size < -400 then some ⟨l.neg, 0, -1074, false⟩
  else if 400 < l.exp + size then none
  else (Dyadic.nearest l.ratio.1 l.ratio.2).map (Binary.ofDyadic l.neg)

/-- The magnitude of a double as a ratio. -/
def Binary.magnitude (b : Binary) : Ratio :=
  ⟨b.mant * Nat.pow 2 b.exp.toNat, Nat.pow 2 (-b.exp).toNat⟩

/-- The least magnitude written positionally: the double nearest to `1e-6`. -/
def leastPositional : Ratio :=
  match Dyadic.nearest 1 (Nat.pow 10 6) with
  | some x => ⟨x.num, x.den⟩
  | none => ⟨0, 1⟩

/-- Whether a double is written positionally in data documents. -/
def Binary.dataPositional (b : Binary) : Bool :=
  b.mant = 0 || (leastPositional.le b.magnitude && b.magnitude.lt ⟨Nat.pow 10 21, 1⟩)

/-- A double written in the data layout. -/
def Binary.dataText (b : Binary) : String :=
  if b.dataPositional then b.digits.positional else b.digits.scientific 1

/-- A number literal as the nearest double, written in the data layout; `none`
past the largest double. -/
def dataText? (lit : String) : Option String := do
  let l ← Literal.parse? lit
  let b ← l.binary?
  pure b.dataText

end NetFleet.Decimal
