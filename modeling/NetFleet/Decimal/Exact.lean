/-!
# Doubles in exact arithmetic

A double that is not negative is finite, `m · 2^e` with `m < 2^53` and
`-1074 ≤ e`, or the positive infinity, or not a number. The arithmetic of
doubles rounds each exact result to the nearest double, a tie going to the even
mantissa, and gives the infinity past the largest double (IEEE 754 binary64 in
its default rounding). Here these operations are computed on natural numbers:
`Dyadic.nearest a b` is the double nearest to the ratio `a / b`, and products
and quotients round their exact ratios with it.

Only what the readers of the library need is here: doubles of natural numbers,
products, quotients, and the conversion to a 64-bit count, which cuts toward
zero, gives the largest count past the range and zero for not a number.
-/

namespace NetFleet.Decimal

/-- A number `mant · 2^exp` that is not negative. -/
structure Dyadic where
  mant : Nat
  exp : Int
deriving DecidableEq, Repr

namespace Dyadic

/-- The numerator of the value of a dyadic, over `den`. -/
def num (x : Dyadic) : Nat := x.mant * Nat.pow 2 x.exp.toNat

/-- The denominator of the value of a dyadic, a power of two. -/
def den (x : Dyadic) : Nat := Nat.pow 2 (-x.exp).toNat

/-- The exponent of the binade of `a / b`, for positive `a` and `b`: the `t`
with `2^t ≤ a / b < 2^(t+1)`. The difference of the binary logarithms is `t` or
one more. -/
def binade (a b : Nat) : Int :=
  let t : Int := (a.log2 : Int) - b.log2
  if a * Nat.pow 2 (-t).toNat < b * Nat.pow 2 t.toNat then t - 1 else t

/-- The double nearest to `a / b` for `0 < b`, a tie going to the even mantissa;
`none` past the largest double. The ratio is rounded at the last place of its
binade, or of the smallest normal binade when it is subnormal. -/
def nearest (a b : Nat) : Option Dyadic :=
  if a = 0 then some ⟨0, 0⟩
  else
    let e := max (binade a b - 52) (-1074)
    let n := a * Nat.pow 2 (-e).toNat
    let d := b * Nat.pow 2 e.toNat
    let q := n / d
    let r := n % d
    let m := if d < 2 * r ∨ (2 * r = d ∧ q % 2 = 1) then q + 1 else q
    if Nat.pow 2 1024 ≤ m * Nat.pow 2 e.toNat then none else some ⟨m, e⟩

end Dyadic

/-- A double that is not negative. -/
inductive Double where
  | finite (x : Dyadic)
  | infinity
  | nan
deriving DecidableEq, Repr

namespace Double

/-- The double nearest to the ratio `a / b`, for `0 < b`. -/
def ofRatio (a b : Nat) : Double :=
  match Dyadic.nearest a b with
  | some x => .finite x
  | none => .infinity

/-- The double nearest to a natural number. -/
def ofNat (n : Nat) : Double := ofRatio n 1

/-- The product of two doubles. -/
def mul : Double → Double → Double
  | .finite x, .finite y => ofRatio (x.num * y.num) (x.den * y.den)
  | .finite x, .infinity => if x.mant = 0 then .nan else .infinity
  | .infinity, .finite y => if y.mant = 0 then .nan else .infinity
  | .infinity, .infinity => .infinity
  | _, _ => .nan

/-- The quotient of two doubles. -/
def div : Double → Double → Double
  | .finite x, .finite y =>
    if y.mant = 0 then (if x.mant = 0 then .nan else .infinity)
    else ofRatio (x.num * y.den) (x.den * y.num)
  | .finite _, .infinity => .finite ⟨0, 0⟩
  | .infinity, .finite _ => .infinity
  | _, _ => .nan

/-- The 64-bit count of a double: cut toward zero, the largest count past the
range, zero for not a number. -/
def toUInt64 : Double → UInt64
  | .finite x => UInt64.ofNat (min (x.num / x.den) (Nat.pow 2 64 - 1))
  | .infinity => UInt64.ofNat (Nat.pow 2 64 - 1)
  | .nan => 0

end Double

end NetFleet.Decimal
