import NetFleet.Decimal.Shortest

/-!
# Writing a double in decimal

The shortest digits of `Decimal.Shortest` are laid out in one of two ways:
positionally (`0.000123`, `1500`) or with an exponent (`1.5e+21`). A `Layout`
says which values take which form and how the exponent is written; the library
uses two of them.

* `Layout.data`: numbers in data documents. Positional for `1e-6 ≤ |x| < 1e21`,
  otherwise an exponent of at least one digit with an explicit sign (`1e+21`,
  `1e-7`).
* `Layout.general`: numbers in text shown to people. Positional when the decimal
  exponent lies in `[-4, 6)`, otherwise an exponent of at least two digits
  (`1e+06`, `1.5e-05`).
-/

namespace NetFleet.Decimal

/-- How the digits of a double are written. -/
structure Layout where
  /-- Whether a value of this magnitude is written positionally. -/
  positional : Float → Digits → Bool
  /-- The fewest digits of an exponent. -/
  expWidth : Nat

/-- Digits in positional form. -/
def Digits.positional (d : Digits) : String :=
  let n := d.digits.length
  let body :=
    if d.point ≤ 0 then "0." ++ String.ofList (List.replicate (-d.point).toNat '0' ++ d.digits)
    else if d.point.toNat ≥ n then String.ofList (d.digits ++ List.replicate (d.point.toNat - n) '0')
    else String.ofList (d.digits.take d.point.toNat) ++ "." ++ String.ofList (d.digits.drop d.point.toNat)
  (if d.neg then "-" else "") ++ body

/-- Digits with an exponent of at least `width` digits. -/
def Digits.scientific (d : Digits) (width : Nat) : String :=
  let e := d.point - 1
  let mant := match d.digits with
    | [] => "0"
    | [c] => c.toString
    | c :: rest => c.toString ++ "." ++ String.ofList rest
  let ed := Nat.toDigits 10 e.natAbs
  let expText := String.ofList (List.replicate (width - ed.length) '0' ++ ed)
  (if d.neg then "-" else "") ++ mant ++ "e" ++ (if e < 0 then "-" else "+") ++ expText

/-- The numbers of data documents. -/
def Layout.data : Layout :=
  { positional := fun x _ => x == 0 || (1e-6 ≤ x.abs && x.abs < 1e21)
    expWidth := 1 }

/-- The numbers of text shown to people. -/
def Layout.general : Layout :=
  { positional := fun _ d => -4 ≤ d.point - 1 && d.point - 1 < 6
    expWidth := 2 }

/-- A finite double written in a layout; an infinity or a NaN gets the text of
its kind (`+Inf`, `-Inf`, `NaN`). -/
def Layout.render (l : Layout) (x : Float) : String :=
  match digits? x with
  | some d => if l.positional x d then d.positional else d.scientific l.expWidth
  | none => if x.isNaN then "NaN" else if x > 0 then "+Inf" else "-Inf"

end NetFleet.Decimal
