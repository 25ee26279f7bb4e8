import NetFleet.Yaml.Plain

/-!
# Scalars of a YAML document

A text scalar is written in one of four styles: plain, single-quoted,
double-quoted, or as a literal block (`|`). The style follows from what the text
holds:

* a text with a line feed asks for a literal block, a text that may stand
  unquoted (`Plain.mayStandPlain`) for plain style, any other for double quotes;
* plain style needs a text without leading or trailing blanks, line breaks,
  tabs, unprintable characters or indicators (`#`, `: `, a leading `-`, …),
  else it falls back to single quotes;
* single quotes need a text without tabs, unprintable characters, or a blank
  beside a line break, else double quotes;
* a literal block needs a text without unprintable characters, a blank before a
  line break or a trailing blank, and never stands as a simple key.

`Scalar.style` makes the choice; `Scalar.single`, `Scalar.double` and
`Scalar.literal` write the text in each quoted style.
-/

namespace NetFleet.Yaml

/-- How a scalar is written. -/
inductive Style where
  | plain
  | single
  | double
  | literal
deriving DecidableEq, Repr

namespace Scalar

/-- The printable characters: line feed, visible ASCII, and the basic
multilingual plane outside the surrogates and the noncharacters, less the byte
order mark. Characters outside that plane are escaped. -/
def isPrintable (c : Char) : Bool :=
  let n := c.toNat
  n = 0x0A || (0x20 ≤ n && n ≤ 0x7E) || (0xA0 ≤ n && n ≤ 0xD7FF) ||
    (0xE000 ≤ n && n ≤ 0xFFFD && n ≠ 0xFEFF)

/-- Line breaks: carriage return, line feed, next line, and the line and
paragraph separators. -/
def isBreak (c : Char) : Bool :=
  c = '\r' || c = '\n' || c.toNat = 0x85 || c.toNat = 0x2028 || c.toNat = 0x2029

/-- Blanks: space and tab. -/
def isBlank (c : Char) : Bool := c = ' ' || c = '\t'

/-- What a text allows, by style. -/
structure Analysis where
  multiline : Bool
  flowPlain : Bool
  blockPlain : Bool
  singleQuoted : Bool
  block : Bool
deriving Repr

/-- Facts gathered in one pass over a text. -/
structure Scan where
  blockIndicators : Bool := false
  flowIndicators : Bool := false
  lineBreaks : Bool := false
  special : Bool := false
  tabs : Bool := false
  leadingSpace : Bool := false
  leadingBreak : Bool := false
  trailingSpace : Bool := false
  trailingBreak : Bool := false
  breakSpace : Bool := false
  spaceBreak : Bool := false
  previousSpace : Bool := false
  previousBreak : Bool := false
  afterBlank : Bool := true

/-- Indicators that forbid plain style at the start of a text. -/
def leadIndicators : List Char :=
  ['#', ',', '[', ']', '\x7b', '\x7d', '&', '*', '!', '|', '>', '\'', '"', '%', '@', '\x60']

/-- One step of the scan: `c` at the start of the text or not, followed by
`rest`. -/
def Scan.step (st : Scan) (first : Bool) (c : Char) (rest : List Char) : Scan :=
  let followedByBlank := match rest with
    | [] => true
    | d :: _ => isBlank d
  let last := rest.isEmpty
  let (fl, bl) :=
    if first then
      if leadIndicators.contains c then (true, true)
      else if c = '?' || c = ':' then (true, followedByBlank)
      else if c = '-' then (followedByBlank, followedByBlank)
      else (false, false)
    else
      if [',', '?', '[', ']', '\x7b', '\x7d'].contains c then (true, false)
      else if c = ':' then (true, followedByBlank)
      else if c = '#' then (st.afterBlank, st.afterBlank)
      else (false, false)
  let st := { st with flowIndicators := st.flowIndicators || fl, blockIndicators := st.blockIndicators || bl }
  let st :=
    if c = '\t' then { st with tabs := true }
    else if !isPrintable c then { st with special := true }
    else st
  let st :=
    if c = ' ' then
      { st with
        leadingSpace := st.leadingSpace || first
        trailingSpace := st.trailingSpace || last
        breakSpace := st.breakSpace || st.previousBreak
        previousSpace := true
        previousBreak := false }
    else if isBreak c then
      { st with
        lineBreaks := true
        leadingBreak := st.leadingBreak || first
        trailingBreak := st.trailingBreak || last
        spaceBreak := st.spaceBreak || st.previousSpace
        previousSpace := false
        previousBreak := true }
    else { st with previousSpace := false, previousBreak := false }
  { st with afterBlank := isBlank c || isBreak c || c.toNat = 0 }

/-- The scan of a whole text. -/
def Scan.run (st : Scan) (first : Bool) : List Char → Scan
  | [] => st
  | c :: rest => (st.step first c rest).run false rest

/-- What the text `s` allows. -/
def analyze (s : String) : Analysis :=
  let cs := s.toList
  if cs.isEmpty then ⟨false, false, true, true, false⟩
  else
    let marker := cs.take 3 == ['-', '-', '-'] || cs.take 3 == ['.', '.', '.']
    let st := Scan.run { blockIndicators := marker, flowIndicators := marker } true cs
    let edges := st.leadingSpace || st.leadingBreak || st.trailingSpace || st.trailingBreak
    let hard := st.spaceBreak || st.tabs || st.special
    { multiline := st.lineBreaks
      flowPlain := !(edges || st.breakSpace || hard || st.lineBreaks || st.flowIndicators)
      blockPlain := !(edges || st.breakSpace || hard || st.lineBreaks || st.blockIndicators)
      singleQuoted := !(st.breakSpace || hard)
      block := !(st.trailingSpace || st.spaceBreak || st.special) }

/-- The style of the text `s`, written as a simple key or not. -/
def style (s : String) (simpleKey : Bool) : Style :=
  let a := analyze s
  let asked : Style :=
    if s.toList.contains '\n' then .literal
    else if Plain.mayStandPlain s then .plain
    else .double
  let st := if simpleKey && a.multiline then .double else asked
  let st := if st = .plain && (!a.blockPlain || (s.isEmpty && simpleKey)) then .single else st
  let st := if st = .single && !a.singleQuoted then .double else st
  if st = .literal && (!a.block || simpleKey) then .double else st

/-- Upper-case hexadecimal digits of `n`, `width` of them. -/
def hexDigits (width n : Nat) : String :=
  String.ofList ((List.range width).reverse.map fun k =>
    let d := n / Nat.pow 16 k % 16
    if d < 10 then Char.ofNat (48 + d) else Char.ofNat (55 + d))

/-- The escape of a character inside double quotes. -/
def escape (c : Char) : String :=
  match c.toNat with
  | 0x00 => "\\0"
  | 0x07 => "\\a"
  | 0x08 => "\\b"
  | 0x09 => "\\t"
  | 0x0A => "\\n"
  | 0x0B => "\\v"
  | 0x0C => "\\f"
  | 0x0D => "\\r"
  | 0x1B => "\\e"
  | 0x22 => "\\\""
  | 0x5C => "\\\\"
  | 0x85 => "\\N"
  | 0xA0 => "\\_"
  | 0x2028 => "\\L"
  | 0x2029 => "\\P"
  | n =>
    if n ≤ 0xFF then "\\x" ++ hexDigits 2 n
    else if n ≤ 0xFFFF then "\\u" ++ hexDigits 4 n
    else "\\U" ++ hexDigits 8 n

/-- A text in double quotes: unprintable characters, the byte order mark, line
breaks, quotes and backslashes are escaped. -/
def double (s : String) : String :=
  "\"" ++ String.join (s.toList.map fun c =>
    if !isPrintable c || c.toNat = 0xFEFF || isBreak c || c = '"' || c = '\\' then escape c
    else c.toString) ++ "\""

/-- Writes characters after a line break: a break is written as it is, and the
first other character after one is indented by `indent` spaces. -/
def afterBreaks (indent : Nat) (quoteDoubled : Bool) : Bool → List Char → String
  | _, [] => ""
  | fresh, c :: rest =>
    if isBreak c then c.toString ++ afterBreaks indent quoteDoubled true rest
    else
      let pad := if fresh then String.ofList (List.replicate indent ' ') else ""
      let text := if quoteDoubled && c = '\'' then "''" else c.toString
      pad ++ text ++ afterBreaks indent quoteDoubled false rest

/-- A text in single quotes, lines after a break indented by `indent`; a quote is
written twice. -/
def single (indent : Nat) (s : String) : String :=
  "'" ++ afterBreaks indent true false s.toList ++ "'"

/-- The header of a literal block: an indentation hint when the text starts with
a blank or a break, then `-` when it ends without a break and `+` when it ends
with more than one (or is one break). -/
def literalHeader (best : Nat) (s : String) : String :=
  let cs := s.toList
  let hint := match cs with
    | c :: _ => if c = ' ' || isBreak c then toString best else ""
    | [] => ""
  let chomp := match cs.reverse with
    | [] => "-"
    | [c] => if isBreak c then "+" else "-"
    | c :: d :: _ => if !isBreak c then "-" else if isBreak d then "+" else ""
  "|" ++ hint ++ chomp

/-- A literal block: its header, a line break, then the lines of the text, each
indented by `indent`. -/
def literal (best indent : Nat) (s : String) : String :=
  literalHeader best s ++ "\n" ++ afterBreaks indent false true s.toList

end Scalar

end NetFleet.Yaml
