/-!
# YAML tokens

The scanner cuts a YAML text into tokens the way the reference C reader does:
indentation opens and closes block collections (`blockSequenceStart`,
`blockMappingStart`, `blockEnd`), brackets open and close flow collections, and
a scalar that turns out to be followed by `:` is marked as a key afterwards, by
inserting a `key` token (and, where the key opens a new block mapping, a
`blockMappingStart`) before it. Such a *simple key* must stay on one line and
within 1024 characters of its `:`; a line at the indentation of a block mapping
must be a key.

Scalars come out with their text already unfolded: escapes of double-quoted
scalars decoded, line breaks folded, block scalars chomped.

`Yaml.scan` reads the whole text. When it stops at a problem, it also tells how
many tokens a reader obtains before it sees the problem: the reader looks two
tokens ahead, and never past a scalar that may still become a key.
-/

namespace NetFleet.Yaml

/-- A position in the text: characters read, line and column, all from zero. -/
structure Mark where
  index : Nat := 0
  line : Nat := 0
  column : Nat := 0
deriving Inhabited

/-- Which stage of reading found a problem. -/
inductive Stage where
  | reader
  | scanner
  | parser
deriving DecidableEq, Inhabited

/-- A problem found while reading: what was being read and where it began, and
what went wrong and where. -/
structure Problem where
  stage : Stage
  context : String := ""
  contextMark : Mark := {}
  problem : String
  problemMark : Mark := {}
deriving Inhabited

/-- The message of a problem. It names a line when the context or the problem
lies past the first line; scanners count lines from one, parsers from zero. -/
def Problem.message (p : Problem) : String :=
  let bump := if p.stage = .scanner then 1 else 0
  let line :=
    if p.contextMark.line ≠ 0 then p.contextMark.line + bump
    else if p.problemMark.line ≠ 0 then p.problemMark.line + bump
    else 0
  (if line = 0 then "" else "line " ++ toString line ++ ": ") ++ p.problem

/-- How a scalar was written. -/
inductive ScalarStyle where
  | plain
  | single
  | double
  | literal
  | folded
deriving DecidableEq, Inhabited

/-- The kinds of tokens. -/
inductive TokenKind where
  | streamStart
  | streamEnd
  | versionDirective (major minor : Nat)
  | tagDirective (handle pre : String)
  | documentStart
  | documentEnd
  | blockSequenceStart
  | blockMappingStart
  | blockEnd
  | flowSequenceStart
  | flowSequenceEnd
  | flowMappingStart
  | flowMappingEnd
  | blockEntry
  | flowEntry
  | key
  | value
  | alias (name : String)
  | anchor (name : String)
  | tag (handle suffix : String)
  | scalar (text : String) (style : ScalarStyle)
deriving Inhabited

/-- A token and where it starts and stops. -/
structure Token where
  kind : TokenKind
  start : Mark
  stop : Mark
deriving Inhabited

/-- Whether `c` breaks a line. -/
def isBreakChar (c : Char) : Bool :=
  c = '\r' || c = '\n' || c = '\u0085' || c = '\u2028' || c = '\u2029'

/-- Whether `c` is a space or a tab. -/
def isBlankChar (c : Char) : Bool := c = ' ' || c = '\t'

/-- A line break, or the end of the text. -/
def isBreakz : Option Char → Bool
  | none => true
  | some c => isBreakChar c

/-- A line break. -/
def isBreakAt : Option Char → Bool
  | none => false
  | some c => isBreakChar c

/-- A space or a tab. -/
def isBlankAt : Option Char → Bool
  | none => false
  | some c => isBlankChar c

/-- A space, a tab, a line break, or the end of the text. -/
def isBlankz : Option Char → Bool
  | none => true
  | some c => isBlankChar c || isBreakChar c

/-- The characters of names: ASCII letters and digits, `_` and `-`. -/
def isWordChar (c : Char) : Bool := c.isAlphanum || c = '_' || c = '-'

/-- Whether `c` may appear in a text: tabs, line breaks and printable
characters, as the reader of YAML texts allows. -/
def isAllowedChar (c : Char) : Bool :=
  let n := c.toNat
  n = 0x09 || n = 0x0A || n = 0x0D || (0x20 ≤ n && n ≤ 0x7E) || n = 0x85 ||
    (0xA0 ≤ n && n ≤ 0xD7FF) || (0xE000 ≤ n && n ≤ 0xFFFD) || (0x10000 ≤ n && n ≤ 0x10FFFF)

/-- A possible simple key: whether it is still possible, whether the
indentation demands it, the number of the token it would be, and where. -/
structure SimpleKey where
  possible : Bool := false
  required : Bool := false
  number : Nat := 0
  mark : Mark := {}
deriving Inhabited

/-- The state of the scanner. -/
structure Scanner where
  rest : List Char
  mark : Mark := {}
  tokens : Array Token := #[]
  flowLevel : Nat := 0
  indent : Int := -1
  indents : List Int := []
  keyAllowed : Bool := false
  /-- the possible simple key of each flow level, innermost first -/
  keys : List SimpleKey := []
  ended : Bool := false

/-- Scanning steps. -/
abbrev ScanM := StateT Scanner (Except Problem)

/-- The deepest nesting of collections. -/
def maxDepth : Nat := 10000

/-- Stop with a problem of the scanner at the current position. -/
def failScan {α : Type} (context : String) (contextMark : Mark) (problem : String) : ScanM α := do
  let s ← get
  throw { stage := .scanner, context, contextMark, problem, problemMark := s.mark }

/-- The character `n` places ahead. -/
def charAt (n : Nat) : ScanM (Option Char) := do return (← get).rest[n]?

/-- A bound on the steps of a loop over the rest of the text. -/
def budget : ScanM Nat := do return (← get).rest.length + 1

/-- Pass one character that is not a line break. -/
def skip : ScanM Unit := modify fun s =>
  match s.rest with
  | [] => s
  | _ :: r => { s with rest := r, mark := { s.mark with index := s.mark.index + 1, column := s.mark.column + 1 } }

/-- Pass `n` characters that are not line breaks. -/
def skipN (n : Nat) : ScanM Unit := do
  for _ in [0:n] do skip

/-- Pass one character and add it to `acc`. -/
def readChar (acc : String) : ScanM String := do
  match ← charAt 0 with
  | some c => skip; pure (acc.push c)
  | none => pure acc

/-- Pass a line break (a carriage return and a line feed count as one). -/
def skipLine : ScanM Unit := modify fun s =>
  match s.rest with
  | '\r' :: '\n' :: r => { s with rest := r, mark := ⟨s.mark.index + 2, s.mark.line + 1, 0⟩ }
  | c :: r =>
    if isBreakChar c then { s with rest := r, mark := ⟨s.mark.index + 1, s.mark.line + 1, 0⟩ }
    else s
  | [] => s

/-- Pass a line break, giving it as it counts in scalars: a line feed, except
that the line and paragraph separators stay as they are. -/
def readLine : ScanM String := do
  match (← get).rest with
  | c :: _ =>
    if c = '\u2028' || c = '\u2029' then skipLine; pure c.toString
    else if isBreakChar c then skipLine; pure "\n"
    else pure ""
  | [] => pure ""

/-- Add a token at the end. -/
def emit (kind : TokenKind) (start stop : Mark) : ScanM Unit :=
  modify fun s => { s with tokens := s.tokens.push ⟨kind, start, stop⟩ }

/-- Insert a token at position `n`. -/
def insertAt (tokens : Array Token) (n : Nat) (t : Token) : Array Token :=
  (tokens.toList.take n ++ t :: tokens.toList.drop n).toArray

/-- Close the block collections indented deeper than `column`. -/
def unrollIndent (column : Int) : ScanM Unit := do
  if (← get).flowLevel > 0 then return
  for _ in [0:(← get).indents.length + 1] do
    let s ← get
    if s.indent > column then
      match s.indents with
      | i :: is => set { s with tokens := s.tokens.push ⟨.blockEnd, s.mark, s.mark⟩, indent := i, indents := is }
      | [] => break
    else break

/-- Open a block collection at `column` if it is deeper than the current one,
with its start token at the end or at position `number`. -/
def rollIndent (column : Int) (number : Option Nat) (kind : TokenKind) (mark : Mark) : ScanM Unit := do
  let s ← get
  if s.flowLevel > 0 then return
  if s.indent < column then
    if s.indents.length + 1 > maxDepth then
      failScan "while increasing indent level" mark ("exceeded max depth of " ++ toString maxDepth)
    let tok : Token := ⟨kind, mark, mark⟩
    let tokens := match number with
      | none => s.tokens.push tok
      | some n => insertAt s.tokens n tok
    set { s with indents := s.indent :: s.indents, indent := column, tokens }

/-- The possible simple key of the current flow level. -/
def topKey : ScanM SimpleKey := do return ((← get).keys.head?).getD {}

/-- Replace the possible simple key of the current flow level. -/
def setTopKey (k : SimpleKey) : ScanM Unit :=
  modify fun s => { s with keys := match s.keys with
    | _ :: ks => k :: ks
    | [] => [k] }

/-- Drop the possible simple key of the current level; a required one is a
problem. -/
def removeKey : ScanM Unit := do
  let k ← topKey
  if k.possible then
    if k.required then
      failScan "while scanning a simple key" k.mark "could not find expected ':'"
    setTopKey { k with possible := false }

/-- Remember that the next token may be a simple key. -/
def saveKey : ScanM Unit := do
  let s ← get
  if s.keyAllowed then
    let required := s.flowLevel = 0 && s.indent == (s.mark.column : Int)
    let k : SimpleKey := { possible := true, required, number := s.tokens.size, mark := s.mark }
    removeKey
    setTopKey k

/-- Whether the possible simple key of the current level can still be one: it
must be on the current line and near enough. -/
def keyValid : ScanM Bool := do
  let k ← topKey
  if !k.possible then return false
  let s ← get
  if k.mark.line < s.mark.line || k.mark.index + 1024 < s.mark.index then
    if k.required then
      failScan "while scanning a simple key" k.mark "could not find expected ':'"
    setTopKey { k with possible := false }
    return false
  return true

/-- Pass spaces, comments and line breaks up to the next token. Tabs count as
spaces only inside flow collections or where no simple key may start. -/
def scanToNextToken : ScanM Unit := do
  for _ in [0:(← budget)] do
    let s ← get
    if s.mark.column = 0 && s.rest.head? = some '\uFEFF' then skip
    for _ in [0:(← budget)] do
      let s ← get
      match s.rest.head? with
      | some ' ' => skip
      | some '\t' => if s.flowLevel > 0 || !s.keyAllowed then skip else break
      | _ => break
    if (← charAt 0) = some '#' then
      for _ in [0:(← budget)] do
        if isBreakz (← charAt 0) then break
        skip
    if isBreakAt (← charAt 0) then
      skipLine
      if (← get).flowLevel = 0 then modify fun s => { s with keyAllowed := true }
    else break

/-- The start of the stream. -/
def fetchStreamStart : ScanM Unit := do
  modify fun s => { s with indent := -1, keyAllowed := true, keys := [{}] }
  let m := (← get).mark
  emit .streamStart m m

/-- The end of the stream, on a line of its own. -/
def fetchStreamEnd : ScanM Unit := do
  let s ← get
  if s.mark.column ≠ 0 then
    set { s with mark := { s.mark with column := 0, line := s.mark.line + 1 } }
  unrollIndent (-1)
  removeKey
  modify fun s => { s with keyAllowed := false, ended := true }
  let m := (← get).mark
  emit .streamEnd m m

/-- A run of name characters. -/
def scanWord : ScanM String := do
  let mut w := ""
  for _ in [0:(← budget)] do
    match ← charAt 0 with
    | some c => if isWordChar c then w := w.push c; skip else break
    | none => break
  return w

/-- Pass spaces and tabs. -/
def skipBlanks : ScanM Unit := do
  for _ in [0:(← budget)] do
    if isBlankAt (← charAt 0) then skip else break

/-- The value of a hexadecimal digit. -/
def hexValue (c : Char) : Option Nat :=
  if '0' ≤ c && c ≤ '9' then some (c.toNat - '0'.toNat)
  else if 'a' ≤ c && c ≤ 'f' then some (c.toNat - 'a'.toNat + 10)
  else if 'A' ≤ c && c ≤ 'F' then some (c.toNat - 'A'.toNat + 10)
  else none

/-- A tag handle: `!`, `!!` or `!word!`. In a directive only the complete
forms are allowed. -/
def scanTagHandle (directive : Bool) (start : Mark) : ScanM String := do
  let context := if directive then "while scanning a tag directive" else "while scanning a tag"
  if (← charAt 0) ≠ some '!' then failScan context start "did not find expected '!'"
  skip
  let w ← scanWord
  let mut h := "!" ++ w
  if (← charAt 0) = some '!' then
    skip
    h := h.push '!'
  else if directive && h ≠ "!" then
    failScan "while parsing a tag directive" start "did not find expected '!'"
  return h

/-- Whether `c` may appear in a tag, where `wide` also allows `,[]`. -/
def isUriChar (wide : Bool) (c : Char) : Bool :=
  isWordChar c || ";/?:@&=+$.%!~*'()".contains c || (wide && ",[]".contains c)

/-- The rest of a tag, after the handle `head` (whose leading `!` is dropped);
`%xx` escapes stand for characters. -/
def scanTagUri (wide directive : Bool) (head : String) (start : Mark) : ScanM String := do
  let mut s := String.ofList (head.toList.drop 1)
  let mut found := decide (head.length > 0)
  for _ in [0:(← budget)] do
    match ← charAt 0 with
    | some '%' =>
      let a ← charAt 1
      let b ← charAt 2
      match a.bind hexValue, b.bind hexValue with
      | some x, some y =>
        skipN 3
        s := s.push (Char.ofNat (x * 16 + y))
        found := true
      | _, _ =>
        failScan (if directive then "while parsing a %TAG directive" else "while parsing a tag") start
          "did not find URI escaped octet"
    | some c =>
      if isUriChar wide c then
        skip
        s := s.push c
        found := true
      else break
    | none => break
  if !found then
    failScan (if directive then "while parsing a %TAG directive" else "while parsing a tag") start
      "did not find expected tag URI"
  return s

/-- A version number of at most nine digits. -/
def scanVersionNumber (start : Mark) : ScanM Nat := do
  let mut n := 0
  let mut len := 0
  for _ in [0:(← budget)] do
    match (← charAt 0).bind hexValue, ← charAt 0 with
    | some d, some c =>
      if c.isDigit then
        len := len + 1
        if len > 9 then failScan "while scanning a %YAML directive" start "found extremely long version number"
        n := n * 10 + d
        skip
      else break
    | _, _ => break
  if len = 0 then failScan "while scanning a %YAML directive" start "did not find expected version number"
  return n

/-- A `%YAML` or `%TAG` directive, up to the end of its line. -/
def scanDirective : ScanM Unit := do
  let start := (← get).mark
  skip
  let name ← scanWord
  if name.isEmpty then
    failScan "while scanning a directive" start "could not find expected directive name"
  if !isBlankz (← charAt 0) then
    failScan "while scanning a directive" start "found unexpected non-alphabetical character"
  if name = "YAML" then
    skipBlanks
    let major ← scanVersionNumber start
    if (← charAt 0) ≠ some '.' then
      failScan "while scanning a %YAML directive" start "did not find expected digit or '.' character"
    skip
    let minor ← scanVersionNumber start
    emit (.versionDirective major minor) start (← get).mark
  else if name = "TAG" then
    skipBlanks
    let handle ← scanTagHandle true start
    if !isBlankAt (← charAt 0) then
      failScan "while scanning a %TAG directive" start "did not find expected whitespace"
    skipBlanks
    let pre ← scanTagUri true true "" start
    if !isBlankz (← charAt 0) then
      failScan "while scanning a %TAG directive" start "did not find expected whitespace or line break"
    emit (.tagDirective handle pre) start (← get).mark
  else
    failScan "while scanning a directive" start "found unknown directive name"
  skipBlanks
  if (← charAt 0) = some '#' then
    for _ in [0:(← budget)] do
      if isBreakz (← charAt 0) then break
      skip
  if !isBreakz (← charAt 0) then
    failScan "while scanning a directive" start "did not find expected comment or line break"
  skipLine

/-- A directive, which closes all block collections. -/
def fetchDirective : ScanM Unit := do
  unrollIndent (-1)
  removeKey
  modify fun s => { s with keyAllowed := false }
  scanDirective

/-- `---` or `...`. -/
def fetchDocumentIndicator (kind : TokenKind) : ScanM Unit := do
  unrollIndent (-1)
  removeKey
  modify fun s => { s with keyAllowed := false }
  let start := (← get).mark
  skipN 3
  emit kind start (← get).mark

/-- A one-character token. -/
def fetchIndicator (kind : TokenKind) : ScanM Unit := do
  let start := (← get).mark
  skip
  emit kind start (← get).mark

/-- `[` or `{`. -/
def fetchFlowCollectionStart (kind : TokenKind) : ScanM Unit := do
  saveKey
  modify fun s => { s with keys := { mark := s.mark } :: s.keys, flowLevel := s.flowLevel + 1 }
  let s ← get
  if s.flowLevel > maxDepth then
    failScan "while increasing flow level" s.mark ("exceeded max depth of " ++ toString maxDepth)
  modify fun s => { s with keyAllowed := true }
  fetchIndicator kind

/-- `]` or `}`. -/
def fetchFlowCollectionEnd (kind : TokenKind) : ScanM Unit := do
  removeKey
  modify fun s =>
    if s.flowLevel > 0 then { s with flowLevel := s.flowLevel - 1, keys := s.keys.drop 1 } else s
  modify fun s => { s with keyAllowed := false }
  fetchIndicator kind

/-- `,` in a flow collection. -/
def fetchFlowEntry : ScanM Unit := do
  removeKey
  modify fun s => { s with keyAllowed := true }
  fetchIndicator .flowEntry

/-- `-` before an item of a block sequence. -/
def fetchBlockEntry : ScanM Unit := do
  let s ← get
  if s.flowLevel = 0 then
    if !s.keyAllowed then
      failScan "" s.mark "block sequence entries are not allowed in this context"
    rollIndent s.mark.column none .blockSequenceStart s.mark
  removeKey
  modify fun s => { s with keyAllowed := true }
  fetchIndicator .blockEntry

/-- `?` before a complex key. -/
def fetchKey : ScanM Unit := do
  let s ← get
  if s.flowLevel = 0 then
    if !s.keyAllowed then
      failScan "" s.mark "mapping keys are not allowed in this context"
    rollIndent s.mark.column none .blockMappingStart s.mark
  removeKey
  modify fun s => { s with keyAllowed := s.flowLevel = 0 }
  fetchIndicator .key

/-- `:` before a value: the possible simple key, if still valid, becomes a
key. -/
def fetchValue : ScanM Unit := do
  let k ← topKey
  if ← keyValid then
    modify fun s => { s with tokens := insertAt s.tokens k.number ⟨.key, k.mark, k.mark⟩ }
    rollIndent k.mark.column (some k.number) .blockMappingStart k.mark
    setTopKey { k with possible := false }
    modify fun s => { s with keyAllowed := false }
  else
    let s ← get
    if s.flowLevel = 0 then
      if !s.keyAllowed then
        failScan "" s.mark "mapping values are not allowed in this context"
      rollIndent s.mark.column none .blockMappingStart s.mark
    modify fun s => { s with keyAllowed := s.flowLevel = 0 }
  fetchIndicator .value

/-- `&name` or `*name`. -/
def fetchAnchor (isAlias : Bool) : ScanM Unit := do
  saveKey
  modify fun s => { s with keyAllowed := false }
  let start := (← get).mark
  skip
  let name ← scanWord
  let ok := match ← charAt 0 with
    | none => true
    | some c => isBlankChar c || isBreakChar c || "?:,]\x7d%@\x60".contains c
  if name.isEmpty || !ok then
    failScan (if isAlias then "while scanning an alias" else "while scanning an anchor") start
      "did not find expected alphabetic or numeric character"
  emit (if isAlias then .alias name else .anchor name) start (← get).mark

/-- A tag: `!<uri>`, `!!suffix`, `!handle!suffix`, `!suffix` or `!` alone. -/
def fetchTag : ScanM Unit := do
  saveKey
  modify fun s => { s with keyAllowed := false }
  let start := (← get).mark
  let (handle, suffix) ← do
    if (← charAt 1) = some '<' then
      skipN 2
      let suffix ← scanTagUri true false "" start
      if (← charAt 0) ≠ some '>' then
        failScan "while scanning a tag" start "did not find the expected '>'"
      skip
      pure ("", suffix)
    else
      let handle ← scanTagHandle false start
      if handle.length > 1 && handle.startsWith "!" && handle.endsWith "!" then
        pure (handle, ← scanTagUri false false "" start)
      else
        let suffix ← scanTagUri false false handle start
        if suffix.isEmpty then pure ("", "!") else pure ("!", suffix)
  let c ← charAt 0
  let inFlow := (← get).flowLevel > 0
  if !isBlankz c && !(inFlow && c = some ',') then
    failScan "while scanning a tag" start "did not find expected whitespace or line break"
  emit (.tag handle suffix) start (← get).mark

/-- Pass the indentation and empty lines before a line of a block scalar,
collecting the line breaks; without an indentation yet, the deepest empty line
(at least one column past the enclosing block) sets it. -/
def blockScalarBreaks (indent : Nat) (start : Mark) (endMark : Mark) :
    ScanM (Nat × String × Mark) := do
  let mut breaks := ""
  let mut endMark := endMark
  let mut maxIndent := 0
  endMark := (← get).mark
  for _ in [0:(← budget)] do
    for _ in [0:(← budget)] do
      let s ← get
      if (indent = 0 || s.mark.column < indent) && s.rest.head? = some ' ' then skip else break
    let s ← get
    if s.mark.column > maxIndent then maxIndent := s.mark.column
    if (indent = 0 || s.mark.column < indent) && s.rest.head? = some '\t' then
      failScan "while scanning a block scalar" start
        "found a tab character where an indentation space is expected"
    if !isBreakAt (← charAt 0) then break
    breaks := breaks ++ (← readLine)
    endMark := (← get).mark
  let s ← get
  let indent :=
    if indent ≠ 0 then indent
    else
      let i := max maxIndent (s.indent + 1).toNat
      max i 1
  return (indent, breaks, endMark)

/-- A literal (`|`) or folded (`>`) block scalar. -/
def fetchBlockScalar (literal : Bool) : ScanM Unit := do
  removeKey
  modify fun s => { s with keyAllowed := true }
  let start := (← get).mark
  skip
  let mut chomping : Int := 0
  let mut increment := 0
  let sign (c : Option Char) : Int := if c = some '+' then 1 else if c = some '-' then -1 else 0
  let c ← charAt 0
  if sign c ≠ 0 then
    chomping := sign c
    skip
    match ← charAt 0 with
    | some d =>
      if d.isDigit then
        if d = '0' then
          failScan "while scanning a block scalar" start "found an indentation indicator equal to 0"
        increment := d.toNat - '0'.toNat
        skip
    | none => pure ()
  else
    match c with
    | some d =>
      if d.isDigit then
        if d = '0' then
          failScan "while scanning a block scalar" start "found an indentation indicator equal to 0"
        increment := d.toNat - '0'.toNat
        skip
        let c2 ← charAt 0
        if sign c2 ≠ 0 then
          chomping := sign c2
          skip
    | none => pure ()
  skipBlanks
  if (← charAt 0) = some '#' then
    for _ in [0:(← budget)] do
      if isBreakz (← charAt 0) then break
      skip
  if !isBreakz (← charAt 0) then
    failScan "while scanning a block scalar" start "did not find expected comment or line break"
  if isBreakAt (← charAt 0) then skipLine
  let mut endMark := (← get).mark
  let outer := (← get).indent
  let mut indent : Nat :=
    if increment > 0 then (if outer ≥ 0 then outer.toNat + increment else increment) else 0
  let (i, tb, em) ← blockScalarBreaks indent start endMark
  indent := i
  let mut trailing := tb
  endMark := em
  let mut text := ""
  let mut leadingBreak := ""
  let mut leadingBlank := false
  for _ in [0:(← budget)] do
    let s ← get
    if s.mark.column ≠ indent || s.rest.isEmpty then break
    let trailingBlank := isBlankAt s.rest.head?
    if !literal && !leadingBlank && !trailingBlank && leadingBreak.startsWith "\n" then
      if trailing.isEmpty then text := text.push ' '
    else text := text ++ leadingBreak
    leadingBreak := ""
    text := text ++ trailing
    trailing := ""
    leadingBlank := isBlankAt s.rest.head?
    for _ in [0:(← budget)] do
      if isBreakz (← charAt 0) then break
      text ← readChar text
    leadingBreak ← readLine
    let (i, tb, em) ← blockScalarBreaks indent start endMark
    indent := i
    trailing := tb
    endMark := em
  if chomping ≠ -1 then text := text ++ leadingBreak
  if chomping = 1 then text := text ++ trailing
  emit (.scalar text (if literal then .literal else .folded)) start endMark

/-- Whether the text ahead is `---` or `...` at the start of a line, followed by
a blank or the end. -/
def atDocumentIndicator : ScanM Bool := do
  let s ← get
  if s.mark.column ≠ 0 then return false
  match s.rest with
  | a :: b :: c :: r =>
    return ((a = '-' && b = '-' && c = '-') || (a = '.' && b = '.' && c = '.')) && isBlankz r.head?
  | _ => return false

/-- The character a double-quoted escape stands for, or the number of hex
digits that follow it. -/
def escapeOf : Char → Option (Sum Char Nat)
  | '0' => some (.inl (Char.ofNat 0))
  | 'a' => some (.inl (Char.ofNat 7))
  | 'b' => some (.inl (Char.ofNat 8))
  | 't' | '\t' => some (.inl '\t')
  | 'n' => some (.inl '\n')
  | 'v' => some (.inl (Char.ofNat 11))
  | 'f' => some (.inl (Char.ofNat 12))
  | 'r' => some (.inl '\r')
  | 'e' => some (.inl (Char.ofNat 27))
  | ' ' => some (.inl ' ')
  | '"' => some (.inl '"')
  | '/' => some (.inl '/')
  | '\'' => some (.inl '\'')
  | '\\' => some (.inl '\\')
  | 'N' => some (.inl '\u0085')
  | '_' => some (.inl '\u00A0')
  | 'L' => some (.inl '\u2028')
  | 'P' => some (.inl '\u2029')
  | 'x' => some (.inr 2)
  | 'u' => some (.inr 4)
  | 'U' => some (.inr 8)
  | _ => none

/-- Join what came between two runs of text: a single line break folds into a
space, more line breaks stay as they are, and blanks stay when no line break
came. -/
def joinBreaks (leadingBlanks : Bool) (leadingBreak trailing whitespace : String) : String :=
  if leadingBlanks then
    if leadingBreak.startsWith "\n" then (if trailing.isEmpty then " " else trailing)
    else leadingBreak ++ trailing
  else whitespace

/-- A single- or double-quoted scalar. -/
def fetchFlowScalar (single : Bool) : ScanM Unit := do
  saveKey
  modify fun s => { s with keyAllowed := false }
  let start := (← get).mark
  skip
  let mut text := ""
  for _ in [0:(← budget)] do
    if ← atDocumentIndicator then
      failScan "while scanning a quoted scalar" start "found unexpected document indicator"
    if (← get).rest.isEmpty then
      failScan "while scanning a quoted scalar" start "found unexpected end of stream"
    let mut leadingBlanks := false
    for _ in [0:(← budget)] do
      let c ← charAt 0
      if isBlankz c then break
      let n ← charAt 1
      if single && c = some '\'' && n = some '\'' then
        text := text.push '\''
        skipN 2
      else if single && c = some '\'' then break
      else if !single && c = some '"' then break
      else if !single && c = some '\\' && isBreakAt n then
        skip
        skipLine
        leadingBlanks := true
        break
      else if !single && c = some '\\' then
        match n.bind escapeOf with
        | none => failScan "while parsing a quoted scalar" start "found unknown escape character"
        | some (.inl e) =>
          text := text.push e
          skipN 2
        | some (.inr width) =>
          skipN 2
          let mut v := 0
          for k in [0:width] do
            match (← charAt k).bind hexValue with
            | some d => v := v * 16 + d
            | none => failScan "while parsing a quoted scalar" start "did not find expected hexdecimal number"
          if (0xD800 ≤ v && v ≤ 0xDFFF) || v > 0x10FFFF then
            failScan "while parsing a quoted scalar" start "found invalid Unicode character escape code"
          text := text.push (Char.ofNat v)
          skipN width
      else text ← readChar text
    let c ← charAt 0
    if (single && c = some '\'') || (!single && c = some '"') then break
    let mut whitespace := ""
    let mut leadingBreak := ""
    let mut trailing := ""
    for _ in [0:(← budget)] do
      let c ← charAt 0
      if isBlankAt c then
        if !leadingBlanks then whitespace ← readChar whitespace else skip
      else if isBreakAt c then
        if !leadingBlanks then
          whitespace := ""
          leadingBreak ← readLine
          leadingBlanks := true
        else trailing := trailing ++ (← readLine)
      else break
    text := text ++ joinBreaks leadingBlanks leadingBreak trailing whitespace
  skip
  emit (.scalar text (if single then .single else .double)) start (← get).mark

/-- A plain scalar: it ends before `: `, before ` #`, before a flow indicator
inside a flow collection, at a document indicator, or at a line indented no
deeper than the enclosing block. -/
def fetchPlainScalar : ScanM Unit := do
  saveKey
  modify fun s => { s with keyAllowed := false }
  let start := (← get).mark
  let mut endMark := start
  let indent : Int := (← get).indent + 1
  let mut text := ""
  let mut leadingBlanks := false
  let mut whitespace := ""
  let mut leadingBreak := ""
  let mut trailing := ""
  for _ in [0:(← budget)] do
    if ← atDocumentIndicator then break
    if (← charAt 0) = some '#' then break
    for _ in [0:(← budget)] do
      let c ← charAt 0
      if isBlankz c then break
      let n ← charAt 1
      let inFlow := (← get).flowLevel > 0
      if (c = some ':' && isBlankz n) ||
          (inFlow && (c = some ',' || c = some '?' || c = some '[' || c = some ']' ||
            c = some '{' || c = some '}')) then break
      if leadingBlanks || !whitespace.isEmpty then
        text := text ++ joinBreaks leadingBlanks leadingBreak trailing whitespace
        leadingBreak := ""
        trailing := ""
        whitespace := ""
        leadingBlanks := false
      text ← readChar text
      endMark := (← get).mark
    let c ← charAt 0
    if !(isBlankAt c || isBreakAt c) then break
    for _ in [0:(← budget)] do
      let s ← get
      let c := s.rest.head?
      if isBlankAt c then
        if leadingBlanks && (s.mark.column : Int) < indent && c = some '\t' then
          failScan "while scanning a plain scalar" start "found a tab character that violates indentation"
        if !leadingBlanks then whitespace ← readChar whitespace else skip
      else if isBreakAt c then
        if !leadingBlanks then
          whitespace := ""
          leadingBreak ← readLine
          leadingBlanks := true
        else trailing := trailing ++ (← readLine)
      else break
    let s ← get
    if s.flowLevel = 0 && (s.mark.column : Int) < indent then break
  emit (.scalar text .plain) start endMark
  if leadingBlanks then modify fun s => { s with keyAllowed := true }

/-- Whether a plain scalar may start here. -/
def startsPlain (flow : Bool) (c n : Option Char) : Bool :=
  match c with
  | none => false
  | some ch =>
    (!(isBlankz c || "-?:,[]\x7b\x7d#&*!|>'\"%@\x60".contains ch)) ||
      (ch = '-' && !isBlankAt n) ||
      (!flow && (ch = '?' || ch = ':') && !isBlankz n)

/-- Read the next token (or tokens: block ends come before it). -/
def fetchNextToken : ScanM Unit := do
  scanToNextToken
  unrollIndent (← get).mark.column
  let s ← get
  let c := s.rest.head?
  let n := s.rest[1]?
  let flow := s.flowLevel > 0
  let atLineStart := s.mark.column = 0
  let three (x : Char) : Bool :=
    match s.rest with
    | a :: b :: d :: r => a = x && b = x && d = x && isBlankz r.head?
    | _ => false
  match c with
  | none => fetchStreamEnd
  | some ch =>
    if atLineStart && ch = '%' then fetchDirective
    else if atLineStart && three '-' then fetchDocumentIndicator .documentStart
    else if atLineStart && three '.' then fetchDocumentIndicator .documentEnd
    else if ch = '[' then fetchFlowCollectionStart .flowSequenceStart
    else if ch = '{' then fetchFlowCollectionStart .flowMappingStart
    else if ch = ']' then fetchFlowCollectionEnd .flowSequenceEnd
    else if ch = '}' then fetchFlowCollectionEnd .flowMappingEnd
    else if ch = ',' then fetchFlowEntry
    else if ch = '-' && isBlankz n then fetchBlockEntry
    else if ch = '?' && (flow || isBlankz n) then fetchKey
    else if ch = ':' && (flow || isBlankz n) then fetchValue
    else if ch = '*' then fetchAnchor true
    else if ch = '&' then fetchAnchor false
    else if ch = '!' then fetchTag
    else if ch = '|' && !flow then fetchBlockScalar true
    else if ch = '>' && !flow then fetchBlockScalar false
    else if ch = '\'' then fetchFlowScalar true
    else if ch = '"' then fetchFlowScalar false
    else if startsPlain flow c n then fetchPlainScalar
    else failScan "while scanning for the next token" s.mark "found character that cannot start any token"

/-- The tokens of a text, and the problem that stopped the scanner, if any,
with the number of tokens a reader obtains before meeting it. -/
structure Scan where
  tokens : Array Token
  failure : Option (Problem × Nat)

/-- How many tokens a reader obtains from a scanner state before asking for
more: it keeps two tokens in reserve and stops at a possible simple key. -/
def obtainable (s : Scanner) : Nat :=
  let firstKey := (s.keys.filter (·.possible)).foldl (fun acc k => min acc k.number) s.tokens.size
  min (s.tokens.size - 2) firstKey

/-- Scan until the end of the stream, at most `fuel` steps. -/
def scanSteps : Nat → Scanner → Scan
  | 0, s => ⟨s.tokens, none⟩
  | fuel + 1, s =>
    if s.ended then ⟨s.tokens, none⟩
    else match fetchNextToken.run s with
      | .ok ((), s') => scanSteps fuel s'
      | .error p => ⟨s.tokens, some (p, obtainable s)⟩

/-- The tokens of a YAML text. A character that no YAML text may hold stops
everything before the first token. -/
def scan (text : String) : Scan :=
  let cs := text.toList
  let cs := match cs with
    | '\uFEFF' :: r => r
    | r => r
  if !cs.all isAllowedChar then
    ⟨#[], some ({ stage := .reader, problem := "control characters are not allowed" }, 0)⟩
  else
    match fetchStreamStart.run { rest := cs } with
    | .ok ((), s) => scanSteps (cs.length + 3) s
    | .error p => ⟨#[], some (p, 0)⟩

end NetFleet.Yaml
