/-!
# Reading decimal literals

A JSON number literal is `-? int (. frac)? ([eE] [+-]? exp)?`. `Literal.parse?`
takes it apart into sign, digits and a power of ten; `Literal.toFloat` rounds it
to the nearest double (an infinity when it is too large), and `Literal.toInt?`
gives its value when it is written as a whole number without fraction or exponent.
-/

namespace NetFleet.Decimal

/-- A decimal literal taken apart: the value is `(-1)^neg · mant · 10^exp`. -/
structure Literal where
  neg : Bool
  mant : Nat
  exp : Int
  /-- Whether the literal is a plain integer: no fraction and no exponent. -/
  plain : Bool
deriving Repr

/-- The value of a run of decimal digits. -/
def digitsValue (ds : List Char) : Nat :=
  ds.foldl (fun acc c => acc * 10 + (c.toNat - '0'.toNat)) 0

/-- Take apart a literal of the JSON grammar; other text gives `none`. -/
def Literal.parse? (s : String) : Option Literal :=
  let cs := s.toList
  let (neg, cs) := match cs with
    | '-' :: r => (true, r)
    | r => (false, r)
  let isD := fun (c : Char) => '0' ≤ c && c ≤ '9'
  let intPart := cs.takeWhile isD
  let cs := cs.dropWhile isD
  let (frac, cs) := match cs with
    | '.' :: r => (r.takeWhile isD, r.dropWhile isD)
    | r => ([], r)
  let (ex, ok, hasExp) := match cs with
    | e :: r =>
      if e = 'e' || e = 'E' then
        let (eneg, r) := match r with
          | '-' :: r' => (true, r')
          | '+' :: r' => (false, r')
          | r' => (false, r')
        let ds := r.takeWhile isD
        let v : Int := digitsValue ds
        ((if eneg then -v else v), !ds.isEmpty && (r.dropWhile isD).isEmpty, true)
      else (0, false, false)
    | [] => (0, true, false)
  if intPart.isEmpty || !ok then none
  else some ⟨neg, digitsValue (intPart ++ frac), ex - frac.length, frac.isEmpty && !hasExp⟩

/-- The nearest double to a literal. Magnitudes beyond the range of doubles are
settled before any power of ten is formed. -/
def Literal.toFloat (l : Literal) : Float :=
  let size : Int := (Nat.toDigits 10 l.mant).length
  let mag : Float :=
    if l.mant = 0 then 0
    else if l.exp + size > 400 then 1e400
    else if l.exp + size < -400 then 0
    else if 0 ≤ l.exp then Float.ofScientific l.mant false l.exp.toNat
    else Float.ofScientific l.mant true (-l.exp).toNat
  if l.neg then -mag else mag

/-- The nearest double to `mant · 2^e`, a tie going to the even mantissa, and
an infinity beyond the range of doubles. Only the bits that a double keeps are
rounded, below the smallest exponent too. -/
def floatOfBinary (mant : Nat) (e : Int) : Float :=
  if mant = 0 then 0
  else
    let top : Int := e + (Nat.log2 mant : Int)
    let q : Int := max (top - 52) (-1074)
    let shift := q - e
    if shift ≤ 0 then Float.scaleB (Float.ofNat mant) e
    else
      let s := shift.toNat
      let kept := mant / Nat.pow 2 s
      let rest := mant % Nat.pow 2 s
      let half := Nat.pow 2 (s - 1)
      let kept := if rest > half || (rest = half && kept % 2 = 1) then kept + 1 else kept
      Float.scaleB (Float.ofNat kept) q

/-- The integer a plain literal denotes. -/
def Literal.toInt? (l : Literal) : Option Int :=
  if l.plain then some (if l.neg then -(l.mant : Int) else l.mant) else none

end NetFleet.Decimal
