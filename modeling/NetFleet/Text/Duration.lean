import NetFleet.Text.Numeral
import NetFleet.Decimal.Exact

/-!
# Durations

A duration is a signed count of nanoseconds within 64 bits. It is written as
hours, minutes and seconds (`1h2m3.5s`, `1m30s`, `-5s`), or below a second in
milliseconds, microseconds or nanoseconds (`1.5ms`, `1.5µs`, `20ns`), with
`0s` for zero; fractions are written without trailing zeros.

`Duration.read` reads a sequence of numbers, each with a unit among `ns`, `us`,
`µs`, `μs`, `ms`, `s`, `m` and `h`, after an optional sign; a lone `0` is zero.
A number may have a fraction, which is scaled into the unit in doubles: the
power of ten of its digits is built by multiplying by ten, and the unit is
divided by it before the product with the fraction's digits. The
errors quote the text with every byte outside printable ASCII written as
`\xNN`: `time: invalid duration "x"`, `time: missing unit in duration "1"`,
`time: unknown unit "d" in duration "1d"`.
-/

namespace NetFleet.Text

/-- A duration in nanoseconds. -/
abbrev Duration := Int

/-- Text in quotes for duration messages: quotes and backslashes escaped, each
byte outside printable ASCII as `\xNN`. -/
def durationQuote (s : String) : String :=
  let hex := "0123456789abcdef".toList
  let byte (b : UInt8) : String :=
    "\\x" ++ (hex.getD (b.toNat / 16) '0').toString ++ (hex.getD (b.toNat % 16) '0').toString
  "\"" ++ String.join (s.toList.map fun c =>
    if c.toNat ≥ 0x80 || c.toNat < 0x20 then String.join ((bytesOf c.toString).map byte)
    else if c = '"' || c = '\\' then "\\" ++ c.toString
    else c.toString) ++ "\""

/-- The nanoseconds of a unit. -/
def unitNanos : String → Option Nat
  | "ns" => some 1
  | "us" => some 1000
  | "µs" => some 1000
  | "μs" => some 1000
  | "ms" => some 1000000
  | "s" => some 1000000000
  | "m" => some 60000000000
  | "h" => some 3600000000000
  | _ => none

/-- Whether a character may stand in a number of a duration. -/
def isNumberChar (c : Char) : Bool := c = '.' || ('0' ≤ c && c ≤ '9')

/-- One more digit of a leading number; `none` once the number passes `2^63`. -/
def intStep (x : Nat) (c : Char) : Option Nat :=
  if x > Nat.pow 2 63 / 10 then none
  else
    let y := x * 10 + (c.toNat - 48)
    if y > Nat.pow 2 63 then none else some y

/-- The leading digits as a number, `none` when it passes `2^63`. -/
def leadingInt (cs : List Char) : Option Nat × List Char :=
  let ds := cs.takeWhile Char.isDigit
  (ds.foldlM intStep 0, cs.drop ds.length)

/-- One more digit of a fraction: its value, its count of digits, and whether
the precision of 63 bits has been passed, after which digits are skipped. -/
def fractionStep (acc : Nat × Nat × Bool) (c : Char) : Nat × Nat × Bool :=
  let (x, digits, overflow) := acc
  if overflow then acc
  else if x > (Nat.pow 2 63 - 1) / 10 then (x, digits, true)
  else
    let y := x * 10 + (c.toNat - 48)
    if y > Nat.pow 2 63 then (x, digits, true) else (y, digits + 1, false)

/-- The leading digits of a fraction, how many of them it holds, and the rest;
digits past the precision of 63 bits are skipped. -/
def leadingFraction (cs : List Char) : Nat × Nat × List Char :=
  let ds := cs.takeWhile Char.isDigit
  let (x, digits, _) := ds.foldl fractionStep (0, 0, false)
  (x, digits, cs.drop ds.length)

open Decimal in
/-- The power of ten of a fraction of `digits` digits, as doubles compute it:
one multiplication by ten a digit, each rounded. -/
def fractionScale : Nat → Double
  | 0 => .ofNat 1
  | digits + 1 => (fractionScale digits).mul (.ofNat 10)

open Decimal in
/-- The nanoseconds of a fraction `f / 10^digits` of a unit, as doubles compute
them: the unit divided by the power of ten, times `f`, cut to a count. -/
def fractionNanos (f digits unit : Nat) : Nat :=
  ((Double.ofNat f).mul ((Double.ofNat unit).div (fractionScale digits))).toUInt64.toNat

/-- The fraction after a whole number, when a point follows it: the value of
its digits, how many there are, the rest of the text, and whether a digit was
read. -/
def fractionPart : List Char → Nat × Nat × List Char × Bool
  | '.' :: r =>
    let (f, digits, r') := leadingFraction r
    (f, digits, r', r'.length != r.length)
  | r => (0, 0, r, false)

/-- Reads the number-and-unit piece at the head `c :: tail` of a duration: its
nanoseconds, and the text after it. -/
def readPiece (orig : String) (c : Char) (tail : List Char) : Except String (Nat × List Char) :=
  let invalid := Except.error ("time: invalid duration " ++ durationQuote orig)
  if !isNumberChar c then invalid
  else
    let cs := c :: tail
    let (v?, rest) := leadingInt cs
    match v? with
    | none => invalid
    | some v =>
      let pre := rest.length != cs.length
      let (f, digits, rest, post) := fractionPart rest
      if !pre && !post then invalid
      else
        let unitChars := rest.takeWhile fun c => !isNumberChar c
        let rest := rest.drop unitChars.length
        if unitChars.isEmpty then .error ("time: missing unit in duration " ++ durationQuote orig)
        else
          let u := String.ofList unitChars
          match unitNanos u with
          | none =>
            .error ("time: unknown unit " ++ durationQuote u ++ " in duration " ++ durationQuote orig)
          | some unit =>
            if v > Nat.pow 2 63 / unit then invalid
            else
              let v := v * unit
              let v := if f > 0 then v + fractionNanos f digits unit else v
              if v > Nat.pow 2 63 then invalid else .ok (v, rest)

/-- Reads the number-and-unit pieces of a duration, adding to `total` in 64 bits:
the sum wraps around at `2^64`, so that two pieces of `2^63` make zero. -/
def readPieces (orig : String) : Nat → Nat → List Char → Except String Nat
  | 0, total, _ => .ok total
  | _, total, [] => .ok total
  | fuel + 1, total, c :: tail => do
    let (v, rest) ← readPiece orig c tail
    let total := (total + v) % Nat.pow 2 64
    if total > Nat.pow 2 63 then .error ("time: invalid duration " ++ durationQuote orig)
    else readPieces orig fuel total rest

/-- Read a duration. -/
def Duration.read (s : String) : Except String Duration :=
  let (neg, rest) := splitSign s.toList
  if rest = ['0'] then .ok 0
  else if rest.isEmpty then .error ("time: invalid duration " ++ durationQuote s)
  else do
    let d ← readPieces s (rest.length + 1) 0 rest
    if neg then return -(d : Int)
    else if d > Nat.pow 2 63 - 1 then .error ("time: invalid duration " ++ durationQuote s)
    else return d

/-- `v / 10^prec` with its fraction written after a point, trailing zeros (and
a point with nothing after it) left out. -/
def fractionText (v prec : Nat) : String × Nat :=
  let whole := v / Nat.pow 10 prec
  let frac := v % Nat.pow 10 prec
  if frac = 0 then ("", whole)
  else
    let ds := Nat.toDigits 10 frac
    let ds := List.replicate (prec - ds.length) '0' ++ ds
    ("." ++ String.ofList (ds.reverse.dropWhile (· = '0')).reverse, whole)

/-- A duration written as text. -/
def Duration.show (d : Duration) : String :=
  let u := d.natAbs
  let sign := if d < 0 then "-" else ""
  if u = 0 then "0s"
  else if u < 1000000000 then
    let (prec, unit) :=
      if u < 1000 then (0, "ns") else if u < 1000000 then (3, "µs") else (6, "ms")
    let (frac, whole) := fractionText u prec
    sign ++ toString whole ++ frac ++ unit
  else
    let (frac, secs) := fractionText u 9
    let s := toString (secs % 60) ++ frac ++ "s"
    let mins := secs / 60
    if mins = 0 then sign ++ s
    else
      let m := toString (mins % 60) ++ "m" ++ s
      let hours := mins / 60
      if hours = 0 then sign ++ m else sign ++ toString hours ++ "h" ++ m

end NetFleet.Text
