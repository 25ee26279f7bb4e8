import NetFleet.Decimal.Read

/-!
# What an unquoted scalar reads as

A YAML reader gives an unquoted scalar a type by its text alone: `null`, `~` and
the empty text are null; `true` and `false`, each in three spellings, are
booleans; integers in bases 2, 8, 10 and 16, decimal fractions, `.inf` and `.nan`
are numbers; a date such as `2001-12-14`, alone or with a time, is a timestamp;
`<<` is a merge key. Which reading is tried depends on the first character only.

A writer quotes every text that would read back as something other than text,
and also the words that older readers took for booleans (`yes`, `off`, `y`, …)
and the sexagesimal numbers (`1:30`). `Plain.readsAsText` decides the first,
`Plain.isOldBool` and `Plain.isSexagesimal` the other two.
-/

namespace NetFleet.Yaml.Plain

/-- The value of a digit in bases up to sixteen. -/
def digitValue (c : Char) : Option Nat :=
  if '0' ≤ c && c ≤ '9' then some (c.toNat - '0'.toNat)
  else if 'a' ≤ c && c ≤ 'f' then some (c.toNat - 'a'.toNat + 10)
  else if 'A' ≤ c && c ≤ 'F' then some (c.toNat - 'A'.toNat + 10)
  else none

/-- The value of `cs` in base `b`, when every character is a digit of the base;
no characters at all count as zero. -/
def digitsIn (b : Nat) (cs : List Char) : Option Nat :=
  cs.foldlM (fun acc c => (digitValue c).bind fun d => if d < b then some (acc * b + d) else none) 0

/-- An unsigned integer whose base is told by its prefix: `0b`, `0o` and `0x`
(either case) for two, eight and sixteen, a bare leading `0` for eight, else ten. -/
def unsignedValue : List Char → Option Nat
  | [] => none
  | '0' :: c :: d :: r =>
    let l := c.toLower
    if l = 'b' then digitsIn 2 (d :: r)
    else if l = 'o' then digitsIn 8 (d :: r)
    else if l = 'x' then digitsIn 16 (d :: r)
    else digitsIn 8 (c :: d :: r)
  | '0' :: r => digitsIn 8 r
  | cs => digitsIn 10 cs

/-- Whether `cs` is an integer of 64 bits: signed, or unsigned without a sign. -/
def isInteger (cs : List Char) : Bool :=
  match cs with
  | '+' :: r => match unsignedValue r with
    | some n => n < Nat.pow 2 63
    | none => false
  | '-' :: r => match unsignedValue r with
    | some n => n ≤ Nat.pow 2 63
    | none => false
  | r => match unsignedValue r with
    | some n => n < Nat.pow 2 64
    | none => false

/-- Whether `cs` is an integer of 64 bits written as digits of base `b` after an
optional sign. -/
def isIntegerIn (b : Nat) (cs : List Char) : Bool :=
  let bounded (lim : Nat) (r : List Char) : Bool :=
    !r.isEmpty && match digitsIn b r with
      | some n => n ≤ lim
      | none => false
  match cs with
  | '+' :: r => bounded (Nat.pow 2 63 - 1) r
  | '-' :: r => bounded (Nat.pow 2 63) r
  | r => bounded (Nat.pow 2 64 - 1) r

/-- Whether `c` is a decimal digit. -/
def isDigit (c : Char) : Bool := '0' ≤ c && c ≤ '9'

/-- The value of a non-empty run of decimal digits. -/
def decimal (cs : List Char) : Option Nat :=
  if cs.isEmpty then none else digitsIn 10 cs

/-- Reads `[eE][+-]?digits` to the end of the text, giving the exponent. -/
def exponentPart : List Char → Option Int
  | [] => some 0
  | e :: r =>
    if e = 'e' || e = 'E' then
      let (neg, ds) := match r with
        | '-' :: ds => (true, ds)
        | '+' :: ds => (false, ds)
        | ds => (false, ds)
      (decimal ds).map fun n => if neg then -(n : Int) else n
    else none

/-- A decimal fraction `[+-]? (.digits | digits (.digits?)?) ([eE][+-]?digits)?`
taken apart as a literal. -/
def fraction? (cs : List Char) : Option Decimal.Literal :=
  let (neg, cs) := match cs with
    | '-' :: r => (true, r)
    | '+' :: r => (false, r)
    | r => (false, r)
  let whole := cs.takeWhile isDigit
  let cs := cs.dropWhile isDigit
  let (frac, dot, cs) := match cs with
    | '.' :: r => (r.takeWhile isDigit, true, r.dropWhile isDigit)
    | r => ([], false, r)
  let shapeOk := if whole.isEmpty then dot && !frac.isEmpty else true
  if !shapeOk then none
  else (exponentPart cs).map fun e =>
    ⟨neg, Decimal.digitsValue (whole ++ frac), e - frac.length, false⟩

/-- Whether a decimal fraction lies within the range of doubles. -/
def finiteFraction (cs : List Char) : Bool :=
  match fraction? cs with
  | some l => !l.toFloat.isInf
  | none => false

/-- Reads one or two digits, as the looser fields of a timestamp allow. -/
def shortNumber : List Char → Option (Nat × List Char)
  | a :: b :: r =>
    if isDigit a then
      if isDigit b then some ((a.toNat - 48) * 10 + (b.toNat - 48), r)
      else some (a.toNat - 48, b :: r)
    else none
  | [a] => if isDigit a then some (a.toNat - 48, []) else none
  | [] => none

/-- Reads exactly two digits. -/
def twoDigits : List Char → Option (Nat × List Char)
  | a :: b :: r => if isDigit a && isDigit b then some ((a.toNat - 48) * 10 + (b.toNat - 48), r) else none
  | _ => none

/-- Whether `y` is a leap year of the Gregorian calendar. -/
def isLeap (y : Nat) : Bool := y % 4 = 0 && (y % 100 ≠ 0 || y % 400 = 0)

/-- The number of days of month `m` in year `y`. -/
def daysIn (y m : Nat) : Nat :=
  match m with
  | 2 => if isLeap y then 29 else 28
  | 4 | 6 | 9 | 11 => 30
  | _ => 31

/-- Reads `year-month-day`, with four digits of year and one or two of month and
day, checking that the day exists. -/
def readDate (cs : List Char) : Option (List Char) := do
  let (y, cs) ← match cs with
    | a :: b :: c :: d :: r =>
      if [a, b, c, d].all isDigit then some (Decimal.digitsValue [a, b, c, d], r) else none
    | _ => none
  let cs ← match cs with | '-' :: r => some r | _ => none
  let (m, cs) ← shortNumber cs
  let cs ← match cs with | '-' :: r => some r | _ => none
  let (d, cs) ← shortNumber cs
  if 1 ≤ m && m ≤ 12 && 1 ≤ d && d ≤ daysIn y m then some cs else none

/-- Reads `hour:minute:second` with an optional fraction of a second. -/
def readClock (cs : List Char) : Option (List Char) := do
  let (h, cs) ← shortNumber cs
  let cs ← match cs with | ':' :: r => some r | _ => none
  let (mi, cs) ← shortNumber cs
  let cs ← match cs with | ':' :: r => some r | _ => none
  let (s, cs) ← shortNumber cs
  let cs := match cs with
    | p :: d :: r =>
      if (p = '.' || p = ',') && isDigit d then r.dropWhile isDigit else p :: d :: r
    | r => r
  if h < 24 && mi < 60 && s < 60 then some cs else none

/-- Reads a zone: `Z`, or a sign with `hh:mm`. -/
def readZone : List Char → Option (List Char)
  | 'Z' :: r => some r
  | s :: cs => do
    let (h, cs) ← twoDigits cs
    let cs ← match cs with | ':' :: r => some r | _ => none
    let (m, cs) ← twoDigits cs
    if (s = '+' || s = '-') && h ≤ 24 && m ≤ 60 then some cs else none
  | [] => none

/-- Whether `cs` is a timestamp: a date alone, a date and a time joined by `T`
or `t` and followed by a zone, or a date and a time joined by a space. -/
def isTimestamp (cs : List Char) : Bool :=
  let leading := cs.takeWhile isDigit
  if leading.length != 4 || (cs.drop 4).head? != some '-' then false
  else match readDate cs with
    | none => false
    | some [] => true
    | some (sep :: rest) =>
      if sep = 'T' || sep = 't' then
        match (readClock rest).bind readZone with
        | some [] => true
        | _ => false
      else if sep = ' ' then readClock rest == some []
      else false

/-- The words that older readers took for booleans. -/
def isOldBool (s : String) : Bool :=
  ["y", "Y", "yes", "Yes", "YES", "on", "On", "ON",
   "n", "N", "no", "No", "NO", "off", "Off", "OFF"].contains s

/-- Whether `s` is a sexagesimal number such as `1:30` or `-2:05:00.5`. -/
def isSexagesimal (s : String) : Bool :=
  let cs := s.toList
  let cs := match cs with
    | '+' :: r | '-' :: r => r
    | r => r
  match cs with
  | c :: _ =>
    if !isDigit c then false
    else
      let digitsOr (x : Char) := isDigit x || x = '_'
      let rest := cs.dropWhile digitsOr
      -- one or more `:` groups of one or two digits, the first below six
      let rec groups (fuel : Nat) (r : List Char) (seen : Bool) : Bool :=
        match fuel with
        | 0 => false
        | fuel + 1 =>
          match r with
          | ':' :: a :: b :: more =>
            if isDigit a && isDigit b && a ≤ '5' then groups fuel more true
            else if isDigit a then groups fuel (b :: more) true
            else false
          | [':', a] => isDigit a
          | '.' :: more => seen && more.all digitsOr
          | [] => seen
          | _ => false
      groups (rest.length + 1) rest false
  | [] => false

/-- The texts read from a table: null, booleans, the named floats and `<<`. -/
def isNamed (s : String) : Bool :=
  ["true", "True", "TRUE", "false", "False", "FALSE", "", "~", "null", "Null", "NULL",
   ".nan", ".NaN", ".NAN", ".inf", ".Inf", ".INF", "+.inf", "+.Inf", "+.INF",
   "-.inf", "-.Inf", "-.INF", "<<"].contains s

/-- Whether the first character of `s` makes a reader try a non-text reading. -/
def hinted (s : String) : Bool :=
  match s.toList with
  | [] => true
  | c :: _ => isDigit c || "+-.yYnNtTfFoO~".toList.contains c

/-- Whether `s`, unquoted, reads back as text. -/
def readsAsText (s : String) : Bool :=
  if !hinted s then true
  else if isNamed s then false
  else
    let cs := s.toList
    match cs with
    | '.' :: _ => !finiteFraction cs
    | c :: _ =>
      if isDigit c || c = '+' || c = '-' then
        let bare := cs.filter (· ≠ '_')
        let tagged :=
          isTimestamp cs || isInteger bare || finiteFraction bare ||
          (match bare with
            | '0' :: 'b' :: r => isIntegerIn 2 r
            | '0' :: 'o' :: r => isIntegerIn 8 r
            | _ => false)
        !tagged
      else true
    | [] => false

/-- Whether `s` may be written unquoted: it reads back as text and is neither an
old boolean nor a sexagesimal number. -/
def mayStandPlain (s : String) : Bool :=
  readsAsText s && !isSexagesimal s && !isOldBool s

end NetFleet.Yaml.Plain
