import NetFleet.Template.Tree
import NetFleet.Decimal.Read
import NetFleet.Text.Quoted

/-!
# Constants of templates

Quoted texts, character constants and numbers are read as in the source
language of the template engine:

* a quoted text may hold the escapes `\a \b \f \n \r \t \v \\ \"`, a byte as
  `\xHH` or as three octal digits, and a code point as `\uHHHH` or
  `\UHHHHHHHH`; a raw text between back quotes is taken as it is, less its
  carriage returns. Bytes that form no character become the replacement
  character;
* a character constant is one character or escape between single quotes;
* a number is an integer in base 2, 8, 10 or 16 (by its prefix, a bare leading
  `0` meaning base 8), or a decimal or hexadecimal fraction, with `_` allowed
  between digits. It is kept with its readings as an integer of 64 bits, as an
  unsigned integer of 64 bits and as a double, whichever exist.

The errors are the messages of the reader: `invalid syntax` for a bad quoted
text, and so on.
-/

namespace NetFleet.Template

/-- The value of a hexadecimal digit. -/
def hexDigitValue (c : Char) : Option Nat :=
  if '0' ≤ c && c ≤ '9' then some (c.toNat - 48)
  else if 'a' ≤ c && c ≤ 'f' then some (c.toNat - 87)
  else if 'A' ≤ c && c ≤ 'F' then some (c.toNat - 55)
  else none

/-- The value of `n` hexadecimal digits at the start of `cs`, and the rest. -/
def hexRun (n : Nat) (cs : List Char) : Option (Nat × List Char) :=
  if cs.length < n then none
  else
    ((cs.take n).foldlM (fun acc c => (hexDigitValue c).map (acc * 16 + ·)) 0).map
      fun v => (v, cs.drop n)

/-- The UTF-8 bytes of a code point. -/
def utf8Bytes (n : Nat) : List UInt8 := Text.bytesOf (Char.ofNat n).toString

/-- Whether `n` is a code point that a character may hold. -/
def validRune (n : Nat) : Bool := n < 0xD800 || (0xE000 ≤ n && n ≤ 0x10FFFF)

/-- What one character or escape of a literal quoted by `q` stands for. -/
inductive Piece where
  /-- a code point, written as its UTF-8 bytes -/
  | rune (n : Nat)
  /-- a single byte, from `\x` or an octal escape -/
  | byte (n : Nat)

/-- The code point or byte value of a piece. -/
def Piece.value : Piece → Nat
  | .rune n | .byte n => n

/-- The bytes a piece adds to a text. -/
def Piece.bytes : Piece → List UInt8
  | .rune n => if n < 0x80 then [n.toUInt8] else utf8Bytes n
  | .byte n => [n.toUInt8]

/-- Reads one character or escape of a literal quoted by `q`, and the rest. -/
def unquoteOne (q : Char) : List Char → Option (Piece × List Char)
  | [] => none
  | c :: rest =>
    if c = q && (q = '\'' || q = '"') then none
    else if c ≠ '\\' then some (.rune c.toNat, rest)
    else match rest with
      | [] => none
      | e :: more =>
        let simple : Option Nat := match e with
          | 'a' => some 7
          | 'b' => some 8
          | 'f' => some 12
          | 'n' => some 10
          | 'r' => some 13
          | 't' => some 9
          | 'v' => some 11
          | '\\' => some 92
          | _ => none
        match simple with
        | some v => some (.rune v, more)
        | none =>
          if e = 'x' then (hexRun 2 more).map fun (v, r) => (.byte v, r)
          else if e = 'u' || e = 'U' then
            match hexRun (if e = 'u' then 4 else 8) more with
            | some (v, r) => if validRune v then some (.rune v, r) else none
            | none => none
          else if '0' ≤ e && e ≤ '7' then
            match more with
            | a :: b :: r =>
              if '0' ≤ a && a ≤ '7' && '0' ≤ b && b ≤ '7' then
                let v := (e.toNat - 48) * 64 + (a.toNat - 48) * 8 + (b.toNat - 48)
                if v > 255 then none else some (.byte v, r)
              else none
            | _ => none
          else if e = '\'' || e = '"' then
            if e = q then some (.rune e.toNat, more) else none
          else none

/-- The pieces of the body of a double-quoted literal, up to its closing quote,
which must end it. -/
def unquoteBody : Nat → List Char → Option (List UInt8)
  | 0, _ => none
  | _, ['"'] => some []
  | fuel + 1, cs =>
    match cs with
    | '\n' :: _ => none
    | _ => match unquoteOne '"' cs with
      | some (p, rest) => (unquoteBody fuel rest).map (p.bytes ++ ·)
      | none => none

/-- The text of a quoted or raw quoted literal, as written with its quotes. -/
def unquote (lit : String) : Except String String :=
  match lit.toList with
  | '\x60' :: rest =>
    match rest.reverse with
    | '\x60' :: body => .ok (String.ofList (body.reverse.filter (· ≠ '\r')))
    | _ => .error "invalid syntax"
  | '"' :: rest =>
    match unquoteBody (rest.length + 1) rest with
    | some bs => .ok (String.ofList (Text.textOfBytes bs))
    | none => .error "invalid syntax"
  | _ => .error "invalid syntax"

/-- Whether the underscores of a number stand only between digits, or between a
base prefix and a digit. -/
def underscoresFit (cs : List Char) : Bool :=
  let cs := match cs with
    | '+' :: r | '-' :: r => r
    | r => r
  let (hex, start, cs) := match cs with
    | '0' :: p :: r =>
      let l := p.toLower
      if l = 'b' || l = 'o' || l = 'x' then (l == 'x', '0', r) else (false, '^', cs)
    | _ => (false, '^', cs)
  let step (saw : Char) (c : Char) : Option Char :=
    if ('0' ≤ c && c ≤ '9') || (hex && 'a' ≤ c.toLower && c.toLower ≤ 'f') then some '0'
    else if c = '_' then (if saw = '0' then some '_' else none)
    else if saw = '_' then none
    else some '!'
  match cs.foldlM step start with
  | some saw => saw ≠ '_'
  | none => false

/-- An unsigned integer whose base is told by its prefix; `none` when it is no
such integer or is `2^64` or more. -/
def readUnsigned (cs : List Char) : Option Nat :=
  if cs.isEmpty then none
  else
    let (base, digits) : Nat × List Char := match cs with
      | '0' :: p :: d :: r =>
        let l := p.toLower
        if l = 'b' then (2, d :: r)
        else if l = 'o' then (8, d :: r)
        else if l = 'x' then (16, d :: r)
        else (8, p :: d :: r)
      | '0' :: r => (8, r)
      | r => (10, r)
    let digit (c : Char) : Option Nat :=
      if '0' ≤ c && c ≤ '9' then some (c.toNat - 48)
      else if 'a' ≤ c.toLower && c.toLower ≤ 'z' then some (c.toLower.toNat - 87)
      else none
    let value := digits.foldlM (fun acc c =>
      if c = '_' then some acc
      else match digit c with
        | some d => if d < base then some (acc * base + d) else none
        | none => none) 0
    match value with
    | some v =>
      if v ≥ Nat.pow 2 64 then none
      else if cs.contains '_' && !underscoresFit cs then none
      else some v
    | none => none

/-- A signed integer of 64 bits whose base is told by its prefix. -/
def readSigned (cs : List Char) : Option Int :=
  match cs with
  | '+' :: r => (readUnsigned r).bind fun v => if v < Nat.pow 2 63 then some (v : Int) else none
  | '-' :: r => (readUnsigned r).bind fun v => if v ≤ Nat.pow 2 63 then some (-(v : Int)) else none
  | r => (readUnsigned r).bind fun v => if v < Nat.pow 2 63 then some (v : Int) else none

/-- A decimal fraction `[+-]? digits? (. digits?)? ([eE] [+-]? digits)?` with at
least one digit before the exponent, underscores taken out. -/
def readDecimalFraction (cs : List Char) : Option Float :=
  let (neg, cs) := match cs with
    | '-' :: r => (true, r)
    | '+' :: r => (false, r)
    | r => (false, r)
  let isD (c : Char) : Bool := '0' ≤ c && c ≤ '9'
  let whole := cs.takeWhile isD
  let cs := cs.dropWhile isD
  let (frac, cs) := match cs with
    | '.' :: r => (r.takeWhile isD, r.dropWhile isD)
    | r => ([], r)
  let expo : Option Int := match cs with
    | [] => some 0
    | e :: r =>
      if e = 'e' || e = 'E' then
        let (eneg, ds) := match r with
          | '-' :: ds => (true, ds)
          | '+' :: ds => (false, ds)
          | ds => (false, ds)
        if !ds.isEmpty && ds.all isD then
          let v : Int := Decimal.digitsValue ds
          some (if eneg then -v else v)
        else none
      else none
  if whole.isEmpty && frac.isEmpty then none
  else expo.map fun e =>
    Decimal.Literal.toFloat ⟨neg, Decimal.digitsValue (whole ++ frac), e - frac.length, false⟩

/-- A hexadecimal fraction `0x digits (. digits)? p [+-]? digits`, whose
exponent is a power of two. -/
def readHexFraction (cs : List Char) : Option Float :=
  let (neg, cs) := match cs with
    | '-' :: r => (true, r)
    | '+' :: r => (false, r)
    | r => (false, r)
  match cs with
  | '0' :: x :: rest =>
    if x ≠ 'x' && x ≠ 'X' then none
    else
      let isH (c : Char) : Bool := (hexDigitValue c).isSome
      let whole := rest.takeWhile isH
      let rest := rest.dropWhile isH
      let (frac, rest) := match rest with
        | '.' :: r => (r.takeWhile isH, r.dropWhile isH)
        | r => ([], r)
      let mant := (whole ++ frac).foldl (fun acc c => acc * 16 + (hexDigitValue c).getD 0) 0
      match rest with
      | p :: r =>
        if (p = 'p' || p = 'P') && !(whole.isEmpty && frac.isEmpty) then
          let (eneg, ds) := match r with
            | '-' :: ds => (true, ds)
            | '+' :: ds => (false, ds)
            | ds => (false, ds)
          if !ds.isEmpty && ds.all (fun c => '0' ≤ c && c ≤ '9') then
            let e : Int := (if eneg then -(Decimal.digitsValue ds : Int) else Decimal.digitsValue ds) -
              4 * frac.length
            let v := Decimal.floatOfBinary mant e
            some (if neg then -v else v)
          else none
        else none
      | [] => none
  | _ => none

/-- A double read from text in either base, underscores allowed between digits:
`invalid syntax` for text that is none, `value out of range` for a magnitude
beyond the doubles. -/
def parseDouble (cs : List Char) : Except String Float :=
  if cs.contains '_' && !underscoresFit cs then .error "invalid syntax"
  else
    let bare := cs.filter (· ≠ '_')
    match (readHexFraction bare).orElse fun _ => readDecimalFraction bare with
    | some v => if v.isInf then .error "value out of range" else .ok v
    | none => .error "invalid syntax"

/-- A fraction in either base within the range of doubles. -/
def readFraction (cs : List Char) : Option Float := (parseDouble cs).toOption

/-- Whether a number is a hexadecimal integer: `0x` without a `p` exponent. -/
def isHexInt (cs : List Char) : Bool :=
  match cs with
  | '0' :: x :: _ :: _ => (x = 'x' || x = 'X') && !cs.contains 'p' && !cs.contains 'P'
  | _ => false

/-- One part of a complex constant as a double, as the reader of complex numbers
takes it: a part with a lower-case `p` is refused whole. -/
def complexPart (part : List Char) : Except String Float :=
  let fail := fun (why : String) =>
    Except.error ("strconv.ParseFloat: parsing " ++ Text.quote (String.ofList part) ++ ": " ++ why)
  if part.contains 'p' then fail "invalid syntax"
  else match parseDouble part with
    | .ok v => .ok v
    | .error why => fail why

/-- The longest front of a text that a reader of complex numbers takes as one
double: `nan`, or a sign and `inf`, or digits (hexadecimal after `0x`), a point
and digits, and an exponent with a sign and digits. -/
def floatToken (cs : List Char) : List Char × List Char :=
  let accept (set : String) : List Char → Option (Char × List Char)
    | c :: r => if set.toList.contains c then some (c, r) else none
    | [] => none
  let rec run (set : String) (acc : List Char) : Nat → List Char → List Char × List Char
    | 0, r => (acc, r)
    | fuel + 1, r => match accept set r with
      | some (c, r) => run set (acc ++ [c]) fuel r
      | none => (acc, r)
  let opt (set : String) (acc : List Char) (r : List Char) : List Char × List Char :=
    match accept set r with
    | some (c, r) => (acc ++ [c], r)
    | none => (acc, r)
  -- a NaN
  match accept "nN" cs with
  | some (n1, r1) =>
    match accept "aA" r1 with
    | some (a1, r2) => opt "nN" [n1, a1] r2
    | none => ([n1], r1)
  | none =>
    let (acc, r) := opt "+-" [] cs
    match accept "iI" r with
    | some (i1, r1) =>
      match accept "nN" r1 with
      | some (n1, r2) => opt "fF" (acc ++ [i1, n1]) r2
      | none => (acc ++ [i1], r1)
    | none =>
      let (acc, r, digits, expo) := match accept "0" r with
        | some (z, r1) =>
          match accept "xX" r1 with
          | some (x, r2) => (acc ++ [z, x], r2, "0123456789aAbBcCdDeEfF_", "pP")
          | none => (acc ++ [z], r1, "0123456789_", "eEpP")
        | none => (acc, r, "0123456789_", "eEpP")
      let (acc, r) := run digits acc r.length r
      let (acc, r) := match accept "." r with
        | some (d, r1) => run digits (acc ++ [d]) r1.length r1
        | none => (acc, r)
      match accept expo r with
      | some (e, r1) =>
        let (acc, r2) := opt "+-" (acc ++ [e]) r1
        run "0123456789_" acc r2.length r2
      | none => (acc, r)

/-- The real and imaginary parts of a complex constant `re±imi`. -/
def complexParts (cs : List Char) : Except String (Float × Float) := do
  let bad : Except String (Float × Float) := .error "syntax error scanning complex number"
  let (re, rest) := floatToken cs
  match rest with
  | s :: more =>
    if s ≠ '+' && s ≠ '-' then bad
    else
      let (im, after) := floatToken more
      match after with
      | 'i' :: _ => return (← complexPart re, ← complexPart (s :: im))
      | _ => bad
  | [] => bad

/-- A number with its readings, once it is known to be no complex number. -/
def realNumber (text : String) (cs : List Char) : Except String Number :=
  let fractional := !isHexInt cs && [ '.', 'e', 'E', 'p', 'P'].any cs.contains
  let u := readUnsigned cs
  let i := readSigned cs
  let u := if i = some 0 then some (u.getD 0) else u
  match i, u with
  | some v, _ => .ok ⟨text, some v, u, some (Float.ofInt v), fractional, none⟩
  | none, some v => .ok ⟨text, none, some v, some (Float.ofNat v), fractional, none⟩
  | none, none =>
    match readFraction cs with
    | some f =>
      if !fractional then .error ("integer overflow: " ++ text)
      else
        let whole := f.floor == f && !f.isInf
        let int? : Option Int :=
          if whole && -9223372036854775808.0 ≤ f && f < 9223372036854775808.0 then
            some (if f < 0 then -((-f).toUInt64.toNat : Int) else (f.toUInt64.toNat : Int))
          else none
        let uint? : Option Nat :=
          if whole && 0 ≤ f && f < 18446744073709551616.0 then some f.toUInt64.toNat else none
        .ok ⟨text, int?, uint?, some f, fractional, none⟩
    | none => .error ("illegal number syntax: " ++ Text.quote text)

/-- A complex constant with its other readings: when its imaginary part is zero
it is also read as its real part. -/
def complexNumber (text : String) (re im : Float) : Number :=
  if im != 0 then ⟨text, none, none, none, false, some (re, im)⟩
  else
    let whole := re.floor == re && !re.isInf && !re.isNaN
    let int? : Option Int :=
      if whole && -9223372036854775808.0 ≤ re && re < 9223372036854775808.0 then
        some (if re < 0 then -((-re).toUInt64.toNat : Int) else (re.toUInt64.toNat : Int))
      else none
    let uint? : Option Nat :=
      if whole && 0 ≤ re && re < 18446744073709551616.0 then some re.toUInt64.toNat else none
    ⟨text, int?, uint?, some re, false, some (re, im)⟩

/-- A number constant read from its text; `charConst` tells that it is a
character constant and `complexConst` that it is written `re±imi`. A number
ending in `i` is imaginary when what comes before reads as a double. -/
def readNumber (text : String) (charConst complexConst : Bool) : Except String Number :=
  let cs := text.toList
  if charConst then
    match unquoteOne '\'' (cs.drop 1) with
    | some (p, rest) =>
      if rest = ['\''] then
        let v := p.value
        .ok ⟨text, some v, some v, some (Float.ofNat v), false, none⟩
      else .error ("malformed character constant: " ++ text)
    | none => .error "invalid syntax"
  else if complexConst then
    (complexParts cs).map fun (re, im) => complexNumber text re im
  else if cs.getLast? = some 'i' then
    match parseDouble cs.dropLast with
    | .ok im => .ok (complexNumber text 0 im)
    | .error _ => realNumber text cs
  else realNumber text cs

end NetFleet.Template
