/-!
# Shortest decimal digits of a double

A finite double is `m · 2^e`. Every real strictly between the midpoints to its two
neighbouring doubles reads back as the same double, and so do the midpoints
themselves when `m` is even (a tie goes to the even mantissa). `Shortest.digits`
returns the decimal with the fewest significant digits inside that interval, and
of two such decimals the one nearer to the double; an exact tie between the two
goes to the even last digit.

The search tries 1, 2, … 17 digits. For `n` digits the decimal grid is `10^k` with
`k = ⌊log₁₀ x⌋ - n + 1`, and only the two grid points around `x` can lie in the
interval: if any point of the grid does, one of these does. Seventeen digits
always suffice; past them the search would give the exact decimal value of the
double, which lies in the interval too. All comparisons are exact, on natural
numbers.
-/

namespace NetFleet.Decimal

/-- A finite double taken apart: the value is `(-1)^neg · mant · 2^exp`, and
`lowerHalfGap` says that the neighbour below is half as far as the one above
(the mantissa is the smallest of its binade). -/
structure Binary where
  neg : Bool
  mant : Nat
  exp : Int
  lowerHalfGap : Bool
deriving Repr

/-- The parts of a double, or `none` for an infinity or a NaN. -/
def Binary.ofFloat? (x : Float) : Option Binary :=
  let bits := x.toBits.toNat
  let neg := bits / Nat.pow 2 63 % 2 = 1
  let biased := bits / Nat.pow 2 52 % Nat.pow 2 11
  let frac := bits % Nat.pow 2 52
  if biased = Nat.pow 2 11 - 1 then none
  else if biased = 0 then some ⟨neg, frac, -1074, false⟩
  else some ⟨neg, frac + Nat.pow 2 52, Int.ofNat biased - 1075, decide (frac = 0 ∧ biased > 1)⟩

/-- A positive rational `num / den` with natural parts. -/
structure Ratio where
  num : Nat
  den : Nat

/-- `q · 10^k` as a ratio. -/
def Ratio.scaled (q : Nat) (k : Int) : Ratio :=
  if 0 ≤ k then ⟨q * Nat.pow 10 k.toNat, 1⟩ else ⟨q, Nat.pow 10 (-k).toNat⟩

/-- `a < b` on ratios. -/
def Ratio.lt (a b : Ratio) : Bool := a.num * b.den < b.num * a.den

/-- `a ≤ b` on ratios. -/
def Ratio.le (a b : Ratio) : Bool := a.num * b.den ≤ b.num * a.den

/-- The interval of reals that read back as a double: its ends (scaled by four so
that they are whole), the value, and whether the ends belong to it. -/
structure Interval where
  low : Ratio
  value : Ratio
  high : Ratio
  closed : Bool

/-- The reading interval of a double with a nonzero mantissa. -/
def Binary.interval (b : Binary) : Interval :=
  let up := Nat.pow 2 b.exp.toNat
  let down := Nat.pow 2 (-b.exp).toNat * 4
  let lowGap := if b.lowerHalfGap then 1 else 2
  { low := ⟨(4 * b.mant - lowGap) * up, down⟩
    value := ⟨4 * b.mant * up, down⟩
    high := ⟨(4 * b.mant + 2) * up, down⟩
    closed := b.mant % 2 = 0 }

/-- Whether a ratio lies in an interval. -/
def Interval.contains (i : Interval) (r : Ratio) : Bool :=
  if i.closed then i.low.le r && r.le i.high else i.low.lt r && r.lt i.high

/-- The largest `t` with `10^t ≤ v`, for a positive `v`, searched below `bound`. -/
def floorLog10 (v : Ratio) : Int :=
  let q := v.num / v.den
  if q ≥ 1 then (Nat.toDigits 10 q).length - 1
  else
    let rec below : Nat → Nat → Int
      | 0, s => -(s : Int)
      | fuel + 1, s => if v.num * Nat.pow 10 s ≥ v.den then -(s : Int) else below fuel (s + 1)
    below 400 1

/-- `⌊v / 10^k⌋` for a positive ratio. -/
def floorScaled (v : Ratio) (k : Int) : Nat :=
  if 0 ≤ k then v.num / (v.den * Nat.pow 10 k.toNat) else v.num * Nat.pow 10 (-k).toNat / v.den

/-- The decimal `q · 10^k` nearest to the value among the two grid points around it
that lie in the interval, if any does. -/
def pickOnGrid (i : Interval) (k : Int) : Option Nat :=
  let lo := floorScaled i.value k
  let hi := lo + 1
  let loIn := i.contains (Ratio.scaled lo k)
  let hiIn := i.contains (Ratio.scaled hi k)
  match loIn, hiIn with
  | false, false => none
  | true, false => some lo
  | false, true => some hi
  | true, true =>
    let vl := Ratio.scaled lo k
    let vh := Ratio.scaled hi k
    -- distances to the value, over the common denominator
    let dLo := i.value.num * vl.den - vl.num * i.value.den
    let dHi := vh.num * i.value.den - i.value.num * vh.den
    if dLo * vh.den < dHi * vl.den then some lo
    else if dHi * vl.den < dLo * vh.den then some hi
    else if lo % 2 = 0 then some lo else some hi

/-- Strip trailing zeros of `q · 10^k`, raising `k`. -/
def normalize : Nat → Nat → Int → Nat × Int
  | 0, q, k => (q, k)
  | fuel + 1, q, k => if q ≠ 0 ∧ q % 10 = 0 then normalize fuel (q / 10) (k + 1) else (q, k)

/-- The exact value of the double with parts `b` as a decimal `q · 10^k`:
`m · 2^e` is `m · 5^-e · 10^e` when `e` is negative. -/
def Binary.exactDecimal (b : Binary) : Nat × Int :=
  if 0 ≤ b.exp then (b.mant * Nat.pow 2 b.exp.toNat, 0) else (b.mant * Nat.pow 5 (-b.exp).toNat, b.exp)

/-- The shortest decimal `q · 10^k` that reads back as the double with parts `b`
(nonzero mantissa), trailing zeros of `q` removed. -/
def Binary.shortest (b : Binary) : Nat × Int :=
  let i := b.interval
  let e10 := floorLog10 i.value
  let rec search : Nat → Nat → Nat × Int
    | 0, _ => b.exactDecimal
    | fuel + 1, n =>
      let k := e10 - n + 1
      match pickOnGrid i k with
      | some q => normalize 20 q k
      | none => search fuel (n + 1)
  search 17 1

/-- The digits of a finite double and the position of its decimal point: the value
is `0.d₁d₂… × 10^point`. Zero has the single digit `0` and point 1. -/
structure Digits where
  neg : Bool
  digits : List Char
  point : Int
deriving Repr, BEq

/-- The shortest digits of the double with parts `b`. -/
def Binary.digits (b : Binary) : Digits :=
  if b.mant = 0 then ⟨b.neg, ['0'], 1⟩
  else
    let (q, k) := b.shortest
    let ds := Nat.toDigits 10 q
    ⟨b.neg, ds, k + ds.length⟩

/-- The shortest digits of a finite double, or `none` for an infinity or a NaN. -/
def digits? (x : Float) : Option Digits := (Binary.ofFloat? x).map Binary.digits

end NetFleet.Decimal
