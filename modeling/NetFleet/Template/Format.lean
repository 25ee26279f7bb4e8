import NetFleet.Template.Value
import NetFleet.Decimal.Notation
import NetFleet.Text.Quoted

/-!
# Formatting with verbs

`sprintf` fills a format such as `%-8s|%5.2f` with values, as the `printf`
function of templates does. A directive is `%`, flags among `+-# 0`, a width,
a precision after `.`, and a verb. The width and the precision may be `*`,
taken from the next argument, which must then be an integer; an index `[n]`
before the width, the precision or the verb picks the `n`-th argument (from
one) for what follows.

* `v` is the default format of every value; `#v` is the syntax of the value in
  the source language of the engine (`[]interface {}{1, "a"}`), `T` its type.
* Texts take `s`, `q` (quoted; `#q` in back quotes when it can), `x` and `X`
  (the bytes in hexadecimal; with a blank, separated).
* Integers take `d`, `b`, `o`, `O`, `x`, `X`, `c` (the character), `q` (the
  quoted character) and `U` (`U+0041`); booleans take `t`.
* Doubles take `e`, `E`, `f`, `F`, `g`, `G`, `x`, `X` and `b`
  (`Decimal.written`); `#` keeps the point and the trailing zeros. Complex
  numbers are written `(re+imi)` with a double verb for each part.
* Lists and maps are written element by element with the same verb: `[a b]`,
  `map[k:v]`; an element that is a nil interface is `<nil>`.

A verb that does not fit its value is written `%!d(string=abc)`, the value
in the default format under the directive's flags; a missing value is
`%!d(MISSING)`, a bad index `%!d(BADINDEX)`, a `*` that is no integer
`%!(BADWIDTH)` or `%!(BADPREC)`, a format that ends inside a directive
`%!(NOVERB)`, and values left over `%!(EXTRA type=value, …)` unless an index
was used.
-/

namespace NetFleet.Template

/-- The flags, width and precision of a directive. -/
structure Spec where
  plus : Bool := false
  minus : Bool := false
  sharp : Bool := false
  space : Bool := false
  zero : Bool := false
  /-- `+` given with the verb `v` -/
  plusV : Bool := false
  /-- `#` given with the verb `v`: the syntax of the source language -/
  sharpV : Bool := false
  width : Option Nat := none
  prec : Option Nat := none

namespace Spec

/-- `n` characters of padding: zeros under the `0` flag, else blanks. -/
def fill (sp : Spec) (n : Nat) : String :=
  String.ofList (List.replicate n (if sp.zero then '0' else ' '))

/-- A text padded to the width, on the left, or on the right under `-`. -/
def pad (sp : Spec) (s : String) : String :=
  match sp.width with
  | none => s
  | some w =>
    let n := w - s.length
    if sp.minus then s ++ sp.fill n else sp.fill n ++ s

/-- The spec without the `0` flag. -/
def noZero (sp : Spec) : Spec := { sp with zero := false }

/-- A text cut to the precision, in characters. -/
def truncate (sp : Spec) (s : String) : String :=
  match sp.prec with
  | some p => String.ofList (s.toList.take p)
  | none => s

/-- A text as it is, cut and padded. -/
def text (sp : Spec) (s : String) : String := sp.pad (sp.truncate s)

end Spec

/-- The digits of `n` in `base`, upper-case when asked. -/
def digitsIn (base : Nat) (upper : Bool) (n : Nat) : String :=
  let ds := Nat.toDigits base n
  String.ofList (if upper then ds.map Char.toUpper else ds)

/-- Whether a text can stand between back quotes: no control characters but
tabs, no back quote, no delete, no byte order mark. -/
def canBackquote (s : String) : Bool :=
  s.toList.all fun c =>
    c.toNat ≠ 0xFEFF && (c.toNat ≥ 0x20 || c = '\t') && c ≠ '`' && c.toNat ≠ 0x7F

/-- The character of an integer: the replacement character for what is no
code point. -/
def runeOf (i : Int) : Char :=
  if i < 0 || i > 0x10FFFF || (0xD800 ≤ i && i ≤ 0xDFFF) then Char.ofNat 0xFFFD else Char.ofNat i.toNat

namespace Spec

/-- An integer in `base`: a precision or the `0` flag asks for leading zeros,
`#` for a prefix (`0b`, `0`, `0x`), `O` always has `0o`; the sign is `-`, or `+`
and a blank under those flags. A zero precision writes zero as nothing. -/
def integer (sp : Spec) (i : Int) (base : Nat) (upper : Bool) (verb : Char) : String :=
  let negative := i < 0
  let u := i.natAbs
  if sp.prec = some 0 && u = 0 then String.ofList (List.replicate (sp.width.getD 0) ' ')
  else
    let prec : Int := match sp.prec with
      | some p => p
      | none => match sp.width with
        | some w =>
          if sp.zero && !sp.minus then (w : Int) - (if negative || sp.plus || sp.space then 1 else 0) else 0
        | none => 0
    let ds := digitsIn base upper u
    let ds := String.ofList (List.replicate (prec.toNat - ds.length) '0') ++ ds
    let ds :=
      if !sp.sharp then ds
      else if base = 2 then "0b" ++ ds
      else if base = 8 then (if ds.startsWith "0" then ds else "0" ++ ds)
      else if base = 16 then (if upper then "0X" else "0x") ++ ds
      else ds
    let ds := if verb = 'O' then "0o" ++ ds else ds
    let sign := if negative then "-" else if sp.plus then "+" else if sp.space then " " else ""
    sp.noZero.pad (sign ++ ds)

/-- An integer as a code point `U+0041`, at least four digits or the precision;
`#` adds the character in quotes when it is printable. -/
def unicode (sp : Spec) (i : Int) : String :=
  let u : Nat := if i < 0 then (Int.pow 2 64 + i).toNat else i.toNat
  let prec := match sp.prec with
    | some p => max p 4
    | none => 4
  let h := digitsIn 16 true u
  let h := String.ofList (List.replicate (prec - h.length) '0') ++ h
  let c := Char.ofNat u
  let tail := if sp.sharp && u ≤ 0x10FFFF && Text.isPrintable c then " '" ++ c.toString ++ "'" else ""
  sp.noZero.pad ("U+" ++ h ++ tail)

/-- An integer under a verb, or none when the verb does not fit. -/
def integerVerb (sp : Spec) (verb : Char) (i : Int) : Option String :=
  match verb with
  | 'v' | 'd' => some (sp.integer i 10 false verb)
  | 'b' => some (sp.integer i 2 false verb)
  | 'o' | 'O' => some (sp.integer i 8 false verb)
  | 'x' => some (sp.integer i 16 false verb)
  | 'X' => some (sp.integer i 16 true verb)
  | 'c' => some (sp.pad (runeOf i).toString)
  | 'q' => some (sp.pad (if sp.plus then Text.quoteCharAscii (runeOf i) else Text.quoteChar (runeOf i)))
  | 'U' => some (sp.unicode i)
  | _ => none

/-- The `#` flag on a written double: a point always, and trailing zeros up to
the precision (six when none is given) for `g`, `G` and `x`. The exponent is
kept aside while digits are counted from the first nonzero one. -/
def keepPoint (num : List Char) (verb : Char) (prec : Int) : List Char :=
  let digits : Int := if verb = 'g' || verb = 'G' || verb = 'x' then (if prec = -1 then 6 else prec) else 0
  let body := num.drop 1
  let isTail (c : Char) : Bool := c = 'p' || c = 'P' || ((c = 'e' || c = 'E') && verb ≠ 'x' && verb ≠ 'X')
  let mant := body.takeWhile (! isTail ·)
  let tail := body.dropWhile (! isTail ·)
  let counted := (mant.filter (· ≠ '.')).dropWhile (· = '0')
  let digits := digits - counted.length
  let hasPoint := mant.contains '.'
  let (mant, digits) :=
    if hasPoint then (mant, digits)
    else (mant ++ ['.'], if mant = ['0'] then digits - 1 else digits)
  num.take 1 ++ mant ++ List.replicate digits.toNat '0' ++ tail

/-- A double written in notation `verb` with the precision or `defPrec`,
signed and padded: a sign always under `+`, a blank under the blank flag,
zeros after the sign under `0`; infinities and NaN are never padded with zeros,
and NaN has no sign unless asked. -/
def float (sp : Spec) (x : Float) (verb : Char) (defPrec : Int) : String :=
  let prec : Int := match sp.prec with
    | some p => p
    | none => defPrec
  let written := (Decimal.written x (if verb = 'F' then 'f' else verb) prec).toList
  let num := match written with
    | '-' :: r => '-' :: r
    | '+' :: r => '+' :: r
    | r => '+' :: r
  let num := if sp.space && num.head? = some '+' && !sp.plus then ' ' :: num.drop 1 else num
  if num[1]? = some 'I' || num[1]? = some 'N' then
    let num := if num[1]? = some 'N' && !sp.space && !sp.plus then num.drop 1 else num
    sp.noZero.pad (String.ofList num)
  else
    let num := if sp.sharp && verb ≠ 'b' then keepPoint num verb prec else num
    if sp.plus || num.head? ≠ some '+' then
      match sp.width with
      | some w =>
        if sp.zero && !sp.minus && w > num.length then
          String.ofList (num.take 1 ++ List.replicate (w - num.length) '0' ++ num.drop 1)
        else sp.pad (String.ofList num)
      | none => sp.pad (String.ofList num)
    else sp.pad (String.ofList (num.drop 1))

/-- A double under a verb, or none when the verb does not fit. -/
def floatVerb (sp : Spec) (verb : Char) (x : Float) : Option String :=
  match verb with
  | 'v' => some (sp.float x 'g' (-1))
  | 'b' | 'g' | 'G' | 'x' | 'X' => some (sp.float x verb (-1))
  | 'f' | 'e' | 'E' | 'F' => some (sp.float x verb 6)
  | _ => none

/-- A complex number under a verb: both parts with the verb, the imaginary one
always signed. -/
def complexVerb (sp : Spec) (verb : Char) (re im : Float) : Option String := do
  let r ← sp.floatVerb verb re
  let i ← { sp with plus := true }.floatVerb verb im
  return "(" ++ r ++ i ++ "i)"

/-- The bytes of a text in hexadecimal, as many as the precision allows: under
the blank flag separated by blanks, under `#` each (or the whole) prefixed. -/
def hexText (sp : Spec) (s : String) (upper : Bool) : String :=
  let bytes := s.toUTF8.toList
  let bytes := match sp.prec with
    | some p => bytes.take p
    | none => bytes
  let n := bytes.length
  let hex := (if upper then "0123456789ABCDEF" else "0123456789abcdef").toList
  let prefix0 := if upper then "0X" else "0x"
  if n = 0 then sp.fill (sp.width.getD 0)
  else
    let width :=
      if sp.space then (if sp.sharp then 4 * n else 2 * n) + (n - 1)
      else if sp.sharp then 2 * n + 2 else 2 * n
    let body := String.join (bytes.zipIdx.map fun (b, i) =>
      (if sp.space && i > 0 then " " ++ (if sp.sharp then prefix0 else "") else "") ++
        (hex.getD (b.toNat / 16) '0').toString ++ (hex.getD (b.toNat % 16) '0').toString)
    let body := (if sp.sharp then prefix0 else "") ++ body
    match sp.width with
    | some w =>
      if w > width then (if sp.minus then body ++ sp.fill (w - width) else sp.fill (w - width) ++ body)
      else body
    | none => body

/-- A text in quotes: in back quotes under `#` when it can, else double quotes,
escaping all beyond ASCII under `+`. -/
def quoted (sp : Spec) (s : String) : String :=
  let s := sp.truncate s
  if sp.sharp && canBackquote s then sp.pad ("`" ++ s ++ "`")
  else sp.pad (if sp.plus then Text.quoteAscii s else Text.quote s)

/-- A text under a verb, or none when the verb does not fit. -/
def textVerb (sp : Spec) (verb : Char) (s : String) : Option String :=
  match verb with
  | 'v' => some (if sp.sharpV then sp.quoted s else sp.text s)
  | 's' => some (sp.text s)
  | 'x' => some (sp.hexText s false)
  | 'X' => some (sp.hexText s true)
  | 'q' => some (sp.quoted s)
  | _ => none

/-- A single datum (not a list or map) under a verb, or none when the verb
does not fit. -/
def scalarVerb (sp : Spec) (verb : Char) : Data → Option String
  | .bool b => if verb = 't' || verb = 'v' then some (sp.pad (if b then "true" else "false")) else none
  | .int i => sp.integerVerb verb i
  | .float x => sp.floatVerb verb x
  | .complex re im => sp.complexVerb verb re im
  | .str s => sp.textVerb verb s
  | .null => if verb = 'v' then some "<nil>" else none
  | _ => none

/-- A single datum under a verb; a verb that does not fit writes the type and
the default format under the same flags. -/
def scalar (sp : Spec) (verb : Char) (d : Data) : String :=
  match sp.scalarVerb verb d with
  | some s => s
  | none => "%!" ++ verb.toString ++ "(" ++ d.typeName ++ "=" ++ (sp.scalarVerb 'v' d).getD "" ++ ")"

mutual

/-- A datum under a verb, lists and maps element by element. -/
def walk (sp : Spec) (verb : Char) : Data → String
  | .list xs =>
    if sp.sharpV then "[]interface \x7b\x7d\x7b" ++ walkItems sp verb ", " xs ++ "\x7d"
    else "[" ++ walkItems sp verb " " xs ++ "]"
  | .map ms =>
    if sp.sharpV then "map[string]interface \x7b\x7d\x7b" ++ walkEntries sp verb ", " ms ++ "\x7d"
    else "map[" ++ walkEntries sp verb " " ms ++ "]"
  | d => sp.scalar verb d

/-- Elements held as values of any type: a nil one is `<nil>`. -/
def walkItems (sp : Spec) (verb : Char) (sep : String) : List Data → String
  | [] => ""
  | x :: xs =>
    let first := match x with
      | .null => if sp.sharpV then "interface \x7b\x7d(nil)" else "<nil>"
      | _ => walk sp verb x
    first ++ (if xs.isEmpty then "" else sep ++ walkItems sp verb sep xs)

/-- Entries `key:value`, keys as texts under the verb. -/
def walkEntries (sp : Spec) (verb : Char) (sep : String) : List (String × Data) → String
  | [] => ""
  | (k, v) :: ms =>
    let value := match v with
      | .null => if sp.sharpV then "interface \x7b\x7d(nil)" else "<nil>"
      | _ => walk sp verb v
    sp.scalar verb (.str k) ++ ":" ++ value ++ (if ms.isEmpty then "" else sep ++ walkEntries sp verb sep ms)

end

/-- An argument under a verb; `none` is a nil interface. -/
def arg (sp : Spec) (verb : Char) : Option Data → String
  | none | some .null =>
    if verb = 'T' || verb = 'v' then sp.pad "<nil>" else "%!" ++ verb.toString ++ "(<nil>)"
  | some d =>
    if verb = 'T' then sp.text d.typeName
    else match d with
      | .list _ | .map _ =>
        if verb = 'w' || verb = 'p' then
          "%!" ++ verb.toString ++ "(" ++ d.typeName ++ "=" ++ sp.walk 'v' d ++ ")"
        else sp.walk verb d
      | _ => sp.walk verb d

end Spec

/-- A datum in the default format: `map[k:v …]` with sorted keys, `[a b …]`,
doubles in the shortest general notation, `<nil>` for nothing. -/
def Data.show (d : Data) : String := ({} : Spec).arg 'v' (some d)

/-- A datum in the default format of texts (`%s`): elements that are no texts
are written as bad verbs. -/
def Data.showText (d : Data) : String := ({} : Spec).arg 's' (some d)

/-- A number of up to seven digits at the front; a longer one consumes the rest
of the format and counts as none. -/
def frontCount (cs : List Char) : Option Nat × List Char :=
  let rec go (acc : Nat) (seen : Bool) : List Char → Option Nat × List Char
    | c :: rest =>
      if '0' ≤ c && c ≤ '9' then
        if acc > 1000000 then (none, []) else go (acc * 10 + (c.toNat - 48)) true rest
      else (if seen then some acc else none, c :: rest)
    | [] => (if seen then some acc else none, [])
  go 0 false cs

/-- An argument index `[n]` at the front (the bracket included): the index from
zero when `n` is a number, and the rest after the closing bracket. Without a
closing bracket, or with fewer than three bytes, only the bracket is taken. -/
def frontIndex (cs : List Char) : Option Int × List Char :=
  let rest := cs.drop 1
  if (String.ofList cs).utf8ByteSize < 3 then (none, rest)
  else
    match rest.findIdx? (· = ']') with
    | none => (none, rest)
    | some j =>
      let inner := rest.take j
      let after := rest.drop (j + 1)
      match frontCount inner with
      | (some n, []) => (some ((n : Int) - 1), after)
      | _ => (none, after)

/-- The state of filling a format. -/
structure Fill where
  out : String := ""
  /-- the next argument -/
  argNum : Nat := 0
  /-- whether an index was given, which turns off the report of extra values -/
  reordered : Bool := false
  /-- whether the indexes of this directive are good -/
  good : Bool := true

namespace Fill

/-- Read an index at the front, if there is one: whether it was found, the
rest of the format, and the state with the argument it picks. -/
def index (st : Fill) (count : Nat) (cs : List Char) : Bool × List Char × Fill :=
  match cs with
  | '[' :: _ =>
    let st := { st with reordered := true }
    match frontIndex cs with
    | (some i, rest) =>
      if 0 ≤ i && i < count then (true, rest, { st with argNum := i.toNat })
      else (true, rest, { st with good := false })
    | (none, rest) => (false, rest, { st with good := false })
  | _ => (false, cs, st)

/-- An integer argument for `*`, and the state past it. -/
def intArg (st : Fill) (args : List (Option Data)) : Option Int × Fill :=
  match args[st.argNum]? with
  | none => (none, st)
  | some a =>
    let st := { st with argNum := st.argNum + 1 }
    match a with
    | some (.int i) => if i > 1000000 || i < -1000000 then (none, st) else (some i, st)
    | _ => (none, st)

/-- Write text. -/
def write (st : Fill) (s : String) : Fill := { st with out := st.out ++ s }

end Fill

/-- The flags at the front of a directive. -/
def frontFlags (sp : Spec) : List Char → Spec × List Char
  | c :: rest =>
    if c = '#' then frontFlags { sp with sharp := true } rest
    else if c = '0' then frontFlags { sp with zero := !sp.minus } rest
    else if c = '+' then frontFlags { sp with plus := true } rest
    else if c = '-' then frontFlags { sp with minus := true, zero := false } rest
    else if c = ' ' then frontFlags { sp with space := true } rest
    else (sp, c :: rest)
  | [] => (sp, [])

/-- The flags for the verb `v`: `#` and `+` take their meanings for it. -/
def Spec.forV (sp : Spec) : Spec :=
  { sp with sharpV := sp.sharp, sharp := false, plusV := sp.plus, plus := false }

/-- One directive, after its `%`: the state after it and the rest of the
format, or no rest when the format ended inside the directive. -/
def directive (args : List (Option Data)) (st : Fill) (cs : List Char) : Fill × Option (List Char) :=
  let st := { st with good := true }
  let (sp, cs) := frontFlags {} cs
  let argAt := fun (n : Nat) => (args[n]?).getD none
  match cs with
  | c :: rest =>
    if 'a' ≤ c && c ≤ 'z' && st.argNum < args.length then
      let sp := if c = 'v' || c = 'w' then sp.forV else sp
      ({ st.write (sp.arg c (argAt st.argNum)) with argNum := st.argNum + 1 }, some rest)
    else general sp st cs argAt
  | [] => general sp st cs argAt
where
  general (sp : Spec) (st : Fill) (cs : List Char) (argAt : Nat → Option Data) :
      Fill × Option (List Char) :=
    let count := args.length
    let (afterIndex, cs, st) := st.index count cs
    -- the width
    let (sp, st, cs, afterIndex) :=
      match cs with
      | '*' :: rest =>
        let (w, st) := st.intArg args
        let st := if w.isNone then st.write "%!(BADWIDTH)" else st
        let sp := match w with
          | some w =>
            if w < 0 then { sp with width := some w.natAbs, minus := true, zero := false }
            else { sp with width := some w.toNat }
          | none => sp
        (sp, st, rest, false)
      | _ =>
        let (w, rest) := frontCount cs
        let st := if afterIndex && w.isSome then { st with good := false } else st
        ({ sp with width := w }, st, rest, afterIndex)
    -- the precision
    let (sp, st, cs, afterIndex) :=
      match cs with
      | '.' :: rest@(_ :: _) =>
        let st := if afterIndex then { st with good := false } else st
        let (afterIndex, rest, st) := st.index count rest
        match rest with
        | '*' :: more =>
          let (p, st) := st.intArg args
          let p := p.bind fun p => if p < 0 then none else some p.toNat
          let st := if p.isNone then st.write "%!(BADPREC)" else st
          ({ sp with prec := p }, st, more, false)
        | _ =>
          let (p, more) := frontCount rest
          ({ sp with prec := some (p.getD 0) }, st, more, afterIndex)
      | _ => (sp, st, cs, afterIndex)
    let (cs, st) := if afterIndex then (cs, st) else
      let (_, cs, st) := st.index count cs
      (cs, st)
    match cs with
    | [] => (st.write "%!(NOVERB)", none)
    | verb :: rest =>
      if verb = '%' then (st.write "%", some rest)
      else if !st.good then (st.write ("%!" ++ verb.toString ++ "(BADINDEX)"), some rest)
      else if st.argNum ≥ count then (st.write ("%!" ++ verb.toString ++ "(MISSING)"), some rest)
      else
        let sp := if verb = 'v' || verb = 'w' then sp.forV else sp
        ({ st.write (sp.arg verb (argAt st.argNum)) with argNum := st.argNum + 1 }, some rest)

/-- The format filled with the arguments, directive by directive; `fuel`
bounds the number of directives. -/
def fillFormat (args : List (Option Data)) : Nat → List Char → Fill → Fill
  | 0, _, st => st
  | fuel + 1, cs, st =>
    let lit := cs.takeWhile (· ≠ '%')
    let st := st.write (String.ofList lit)
    match cs.drop lit.length with
    | [] => st
    | _ :: rest =>
      match directive args st rest with
      | (st, some more) => fillFormat args fuel more st
      | (st, none) => st

/-- A format filled with arguments; `none` for an argument stands for a nil
interface. Values left over are reported unless an index was used. -/
def sprintf (format : String) (args : List (Option Data)) : String :=
  let st := fillFormat args (format.length + 1) format.toList {}
  if st.reordered || st.argNum ≥ args.length then st.out
  else
    st.out ++ "%!(EXTRA " ++ ", ".intercalate ((args.drop st.argNum).map fun
      | none | some .null => "<nil>"
      | some d => d.typeName ++ "=" ++ d.show) ++ ")"

end NetFleet.Template
