import NetFleet.Decimal.Shortest
import NetFleet.Decimal.Read

/-!
# Notations of doubles

`Decimal.written x form prec` writes a double in one of the notations of the
formatting verbs:

* `e` and `E`: one digit, a point and `prec` digits, then the exponent of ten
  with a sign and at least two digits (`1.500000e+00`);
* `f`: the whole part and `prec` digits after the point (`1.500000`);
* `g` and `G`: the exponent notation when the exponent is below -4 or not
  below the precision, else the fixed one, both without trailing zeros;
* `b`: the binary mantissa and exponent (`6755399441055744p-52`);
* `x` and `X`: the hexadecimal mantissa `1.h…` and the exponent of two
  (`0x1.8p+00`), rounded to `prec` hexadecimal digits.

A negative precision asks for the fewest digits that read back as the same
double (`Shortest.digits`); otherwise the exact binary value is rounded to the
digits asked for, a tie going to the even digit. Infinities are `+Inf` and
`-Inf`, a NaN is `NaN`, and a negative sign is kept on zero.
-/

namespace NetFleet.Decimal

/-- A decimal `0.d₁d₂… × 10^point` with no trailing zero digits; zero has no
digits and point 0. -/
structure Expansion where
  digits : List Char
  point : Int

/-- Digits with trailing zeros removed; no digits leave the point at 0. -/
def Expansion.trim (d : Expansion) : Expansion :=
  match (d.digits.reverse.dropWhile (· = '0')).reverse with
  | [] => ⟨[], 0⟩
  | ds => ⟨ds, d.point⟩

/-- The exact decimal value of a finite double, without its sign. -/
def Expansion.exact (b : Binary) : Expansion :=
  if b.mant = 0 then ⟨[], 0⟩
  else if 0 ≤ b.exp then
    let ds := Nat.toDigits 10 (b.mant * Nat.pow 2 b.exp.toNat)
    Expansion.trim ⟨ds, ds.length⟩
  else
    let k := (-b.exp).toNat
    let ds := Nat.toDigits 10 (b.mant * Nat.pow 5 k)
    Expansion.trim ⟨ds, (ds.length : Int) - k⟩

/-- The shortest decimal that reads back as a finite double, without its sign. -/
def Expansion.shortest (b : Binary) : Expansion :=
  if b.mant = 0 then ⟨[], 0⟩
  else
    let (q, k) := b.shortest
    let ds := Nat.toDigits 10 q
    Expansion.trim ⟨ds, k + ds.length⟩

/-- Digits raised by one unit in their last place; a run of nines carries into
a new leading one. -/
def raiseLast (ds : List Char) (point : Int) : Expansion :=
  let v := digitsValue ds + 1
  let ds' := Nat.toDigits 10 v
  if ds'.length > ds.length then Expansion.trim ⟨['1'], point + 1⟩ else Expansion.trim ⟨ds', point⟩

/-- Round to `n` digits, a tie going to the even digit. Asking for no fewer
digits than there are, or for a negative number of them, changes nothing. -/
def Expansion.round (d : Expansion) (n : Int) : Expansion :=
  if n < 0 || n ≥ d.digits.length then d
  else
    let n := n.toNat
    let kept := d.digits.take n
    let up : Bool := match d.digits.drop n with
      | c :: rest =>
        if c = '5' && rest.isEmpty then
          match kept.getLast? with
          | some l => (l.toNat - 48) % 2 == 1
          | none => false
        else decide (c ≥ '5')
      | [] => false
    if up then raiseLast kept d.point else Expansion.trim ⟨kept, d.point⟩

/-- `ds` padded with zeros on the right to `n` of them. -/
def padZeros (ds : List Char) (n : Nat) : List Char := ds ++ List.replicate (n - ds.length) '0'

/-- Exponent notation with `prec` digits after the point. -/
def Expansion.expForm (d : Expansion) (neg : Bool) (prec : Nat) (mark : Char) : String :=
  let first := d.digits.headD '0'
  let frac := if prec > 0 then "." ++ String.ofList (padZeros ((d.digits.drop 1).take prec) prec) else ""
  let e : Int := if d.digits.isEmpty then 0 else d.point - 1
  let ed := Nat.toDigits 10 e.natAbs
  (if neg then "-" else "") ++ first.toString ++ frac ++ mark.toString ++ (if e < 0 then "-" else "+") ++
    String.ofList (padZeros [] (2 - ed.length) ++ ed)

/-- Fixed notation with `prec` digits after the point. -/
def Expansion.fixedForm (d : Expansion) (neg : Bool) (prec : Nat) : String :=
  let whole :=
    if d.point > 0 then padZeros (d.digits.take d.point.toNat) d.point.toNat else ['0']
  let frac := (List.range prec).map fun (i : Nat) =>
    let j : Int := d.point + (i : Int)
    if 0 ≤ j then d.digits.getD j.toNat '0' else '0'
  (if neg then "-" else "") ++ String.ofList whole ++ (if prec > 0 then "." ++ String.ofList frac else "")

/-- The decimal notations: `e`, `E` and `f` with `prec` digits after the point,
`g` and `G` with `prec` significant digits (the shortest ones when `shortest`). -/
def Expansion.form (d : Expansion) (neg shortest : Bool) (prec : Int) (form : Char) : String :=
  let nd : Int := d.digits.length
  if form = 'e' || form = 'E' then d.expForm neg prec.toNat form
  else if form = 'f' then d.fixedForm neg prec.toNat
  else
    let eprec := if shortest then 6 else if prec > nd && nd ≥ d.point then nd else prec
    let e := d.point - 1
    if e < -4 || e ≥ eprec then
      d.expForm neg ((if prec > nd then nd else prec) - 1).toNat (if form = 'g' then 'e' else 'E')
    else
      d.fixedForm neg (max ((if prec > d.point then nd else prec) - d.point) 0).toNat

/-- The binary notation: the mantissa, `p`, and the exponent of two. -/
def binaryForm (b : Binary) : String :=
  (if b.neg then "-" else "") ++ toString b.mant ++ "p" ++ (if b.exp ≥ 0 then "+" else "") ++ toString b.exp

/-- A mantissa shifted left until its leading one stands at bit 60, the
exponent lowered as much. -/
def alignHex : Nat → Nat → Int → Nat × Int
  | 0, m, e => (m, e)
  | fuel + 1, m, e => if m = 0 || m / Nat.pow 2 60 % 2 = 1 then (m, e) else alignHex fuel (m * 2) (e - 1)

/-- The hexadecimal digits of the fraction of an aligned mantissa, as many as
`count` asks for, or all up to the last nonzero one. -/
def hexFraction (hex : List Char) : Nat → Option Nat → Nat → List Char
  | 0, _, _ => []
  | fuel + 1, count, m =>
    match count with
    | some 0 => []
    | none => if m = 0 then [] else hex.getD (m / Nat.pow 2 60 % 16) '0' :: hexFraction hex fuel none (m * 16 % Nat.pow 2 64)
    | some (k + 1) => hex.getD (m / Nat.pow 2 60 % 16) '0' :: hexFraction hex fuel (some k) (m * 16 % Nat.pow 2 64)

/-- The hexadecimal notation: `0x`, the leading digit, the fraction rounded to
`prec` digits when `prec` is below 15 and not negative, `p` and the exponent of
two with at least two digits. -/
def hexForm (b : Binary) (prec : Int) (upper : Bool) : String :=
  let exp : Int := if b.mant = 0 then 0 else b.exp + 52
  let (m, exp) := alignHex 64 (b.mant * Nat.pow 2 8) exp
  let (m, exp) :=
    if 0 ≤ prec && prec < 15 then
      let shift := (prec * 4).toNat
      let extra := m * Nat.pow 2 shift % Nat.pow 2 60
      let kept := m / Nat.pow 2 (60 - shift)
      let kept := if (extra ||| kept % 2) > Nat.pow 2 59 then kept + 1 else kept
      let m := kept * Nat.pow 2 (60 - shift)
      if m / Nat.pow 2 61 % 2 = 1 then (m / 2, exp + 1) else (m, exp)
    else (m, exp)
  let hex := (if upper then "0123456789ABCDEF" else "0123456789abcdef").toList
  let lead := if m / Nat.pow 2 60 % 2 = 1 then '1' else '0'
  let rest := m * 16 % Nat.pow 2 64
  let frac :=
    if prec < 0 then (if rest = 0 then "" else "." ++ String.ofList (hexFraction hex 16 none rest))
    else if prec > 0 then "." ++ String.ofList (hexFraction hex prec.toNat (some prec.toNat) rest)
    else ""
  let ed := Nat.toDigits 10 exp.natAbs
  (if b.neg then "-" else "") ++ "0" ++ (if upper then "X" else "x") ++ lead.toString ++ frac ++
    (if upper then "P" else "p") ++ (if exp < 0 then "-" else "+") ++ String.ofList (padZeros [] (2 - ed.length) ++ ed)

/-- A double in the notation `form` (`b e E f g G x X`) with precision `prec`,
the fewest digits that read back when `prec` is negative. -/
def written (x : Float) (form : Char) (prec : Int) : String :=
  match Binary.ofFloat? x with
  | none => if x.isNaN then "NaN" else if x > 0 then "+Inf" else "-Inf"
  | some b =>
    if form = 'b' then binaryForm b
    else if form = 'x' || form = 'X' then hexForm b prec (form = 'X')
    else if prec < 0 then
      let d := Expansion.shortest b
      let nd : Int := d.digits.length
      let prec : Int :=
        if form = 'e' || form = 'E' then max (nd - 1) 0
        else if form = 'f' then max (nd - d.point) 0
        else nd
      d.form b.neg true prec form
    else
      let d := Expansion.exact b
      let (prec, n) : Int × Int :=
        if form = 'e' || form = 'E' then (prec, prec + 1)
        else if form = 'f' then (prec, d.point + prec)
        else
          let p := if prec = 0 then 1 else prec
          (p, p)
      (d.round n).form b.neg false prec form

end NetFleet.Decimal
