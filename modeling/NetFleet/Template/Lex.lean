import NetFleet.Text.Category
import NetFleet.Text.Quoted

/-!
# Scanning templates

A template is text with actions between `{{` and `}}`. Scanning cuts it into
items: runs of text, the delimiters, and inside an action the words, numbers,
quoted texts, fields (`.name`), variables (`$name`) and punctuation, with runs
of blanks as items of their own. A `-` right after `{{` or right before `}}`,
set off from the action by a blank, trims the white space of the text beside
it. Comments `{{/* … */}}` leave no item.

Each item keeps its byte offset and the line it starts on, which messages
report. Scanning stops at the first error: the error is the last item, and a
scan without one ends with `eof`.

Every step reads a token with `takeWhile`/`dropWhile` from the rest of the
input, so what is left is always a suffix of the template.
-/

namespace NetFleet.Template

/-- The kinds of item. -/
inductive Kind where
  | text
  | leftDelim
  | rightDelim
  | space
  | assign
  | declare
  | pipe
  | leftParen
  | rightParen
  | string
  | rawString
  | charConstant
  | number
  | complex
  | bool
  | field
  | variable
  | identifier
  | dot
  | nil
  | keyword
  | char
  | error
  | eof
deriving DecidableEq, Repr

/-- One item: its kind, its text, its byte offset and its line. -/
structure Item where
  kind : Kind
  val : String
  pos : Nat
  line : Nat
deriving Repr

/-- How messages show an item: keywords in angle brackets, long texts cut to ten
characters. -/
def Item.describe (i : Item) : String :=
  match i.kind with
  | .eof => "EOF"
  | .error => i.val
  | .keyword | .dot | .nil => "<" ++ i.val ++ ">"
  | _ =>
    if i.val.utf8ByteSize > 10 then Text.quote (String.ofList (i.val.toList.take 10)) ++ "..."
    else Text.quote i.val

/-- The blanks of an action: space, tab, carriage return and line feed. -/
def isBlank (c : Char) : Bool := c = ' ' || c = '\t' || c = '\r' || c = '\n'

/-- The characters of words: letters, decimal digits and `_`. -/
def isWordChar (c : Char) : Bool := c = '_' || Text.isLetter c || Text.isDecimalDigit c

/-- The number of bytes of characters. -/
def byteWidth (cs : List Char) : Nat := cs.foldl (fun n c => n + c.utf8Size) 0

/-- The number of line feeds among characters. -/
def lineFeeds (cs : List Char) : Nat := cs.count '\n'

/-- A place in the template: what is left, its byte offset and its line. -/
structure Cursor where
  rest : List Char
  pos : Nat
  line : Nat

/-- The place `n` characters further on. -/
def Cursor.skip (c : Cursor) (n : Nat) : Cursor :=
  let taken := c.rest.take n
  ⟨c.rest.drop n, c.pos + byteWidth taken, c.line + lineFeeds taken⟩

/-- The place after the blanks that start the rest. -/
def Cursor.skipBlanks (c : Cursor) : Cursor := c.skip (c.rest.takeWhile isBlank).length

/-- The item of kind `k` made of the next `n` characters. -/
def Cursor.item (c : Cursor) (k : Kind) (n : Nat) : Item :=
  ⟨k, String.ofList (c.rest.take n), c.pos, c.line⟩

/-- A code point as `U+0041 'A'`, the character shown when it is printable. -/
def codePoint (c : Char) : String :=
  let ds := (Nat.toDigits 16 c.toNat).map Char.toUpper
  "U+" ++ String.ofList (List.replicate (4 - ds.length) '0' ++ ds) ++
    (if Text.isPrintable c then " '" ++ c.toString ++ "'" else "")

/-- Whether a trim marker `- ` follows an opening delimiter. -/
def leftTrim : List Char → Bool
  | '-' :: b :: _ => isBlank b
  | _ => false

/-- Whether the rest starts with a closing delimiter: `some true` for one with a
trim marker (` -}}`), `some false` for a bare `}}`. -/
def atRightDelim : List Char → Option Bool
  | '}' :: '}' :: _ => some false
  | b :: '-' :: '}' :: '}' :: _ => if isBlank b then some true else none
  | _ => none

/-- Whether a word, field or variable may end before the rest. -/
def atTerminator : List Char → Bool
  | [] => true
  | r :: rest =>
    isBlank r || [ '.', ',', '|', ':', ')', '('].contains r ||
      (r = '}' && rest.head? = some '}')

/-- The text before the first `{{`, and the rest from it on. -/
def untilDelim : List Char → List Char × List Char
  | [] => ([], [])
  | '{' :: '{' :: rest => ([], '{' :: '{' :: rest)
  | c :: rest =>
    let (a, b) := untilDelim rest
    (c :: a, b)

/-- The length of a quoted text after its opening quote `q`, closing quote
included; `none` when a line feed or the end comes first. A backslash escapes
the character after it. -/
def quotedLength (q : Char) : List Char → Option Nat
  | [] => none
  | '\\' :: d :: more => if d = '\n' then none else (quotedLength q more).map (· + 2)
  | x :: more =>
    if x = q then some 1
    else if x = '\n' || x = '\\' then none
    else (quotedLength q more).map (· + 1)

/-- The length of a raw quoted text after its opening back quote, closing one
included. -/
def rawLength (cs : List Char) : Option Nat :=
  match cs.findIdx? (· = '\x60') with
  | some i => some (i + 1)
  | none => none

/-- The length of the longest prefix of characters from `set`. -/
def runOf (set : List Char) (cs : List Char) : Nat := (cs.takeWhile set.contains).length

/-- One character from `set`, if the rest starts with one. -/
def oneOf (set : List Char) : List Char → Nat
  | c :: _ => if set.contains c then 1 else 0
  | [] => 0

/-- Reads a number: a sign, a base prefix, digits with `_`, a fraction, an
exponent (`e` in base ten, `p` in base sixteen) and an imaginary `i`. Gives the
characters read and whether the number ends well; when a word character follows,
it is read too and the number is bad. -/
def scanNumber (cs : List Char) : Nat × Bool :=
  let decimalDigits := "0123456789_".toList
  let n := oneOf ['+', '-'] cs
  let zeroLead := oneOf ['0'] (cs.drop n)
  let n := n + zeroLead
  let (digits, n) :=
    if zeroLead = 1 then
      match cs.drop n with
      | c :: _ =>
        if c = 'x' || c = 'X' then ("0123456789abcdefABCDEF_".toList, n + 1)
        else if c = 'o' || c = 'O' then ("01234567_".toList, n + 1)
        else if c = 'b' || c = 'B' then ("01_".toList, n + 1)
        else (decimalDigits, n)
      | [] => (decimalDigits, n)
    else (decimalDigits, n)
  let n := n + runOf digits (cs.drop n)
  let n := if oneOf ['.'] (cs.drop n) = 1 then n + 1 + runOf digits (cs.drop (n + 1)) else n
  let expo (marks : List Char) (n : Nat) : Nat :=
    if oneOf marks (cs.drop n) = 1 then
      let n := n + 1
      let n := n + oneOf ['+', '-'] (cs.drop n)
      n + runOf decimalDigits (cs.drop n)
    else n
  let n := if digits.length = 11 then expo ['e', 'E'] n else n
  let n := if digits.length = 23 then expo ['p', 'P'] n else n
  let n := n + oneOf ['i'] (cs.drop n)
  match cs.drop n with
  | c :: _ => if isWordChar c then (n + 1, false) else (n, true)
  | [] => (n, true)

/-- What one step of scanning gives: items, and the place to go on from, whether
it is inside an action, and the depth of open parentheses; no place when
scanning is over. -/
abbrev Step := List Item × Option (Cursor × Bool × Int)

/-- An error item at a place; scanning stops. -/
def Cursor.fail (c : Cursor) (msg : String) : Step := ([⟨.error, msg, c.pos, c.line⟩], none)

/-- A token of `n` characters inside an action. -/
def Cursor.token (c : Cursor) (k : Kind) (n : Nat) (depth : Int) : Step :=
  ([c.item k n], some (c.skip n, true, depth))

/-- A word, field or variable: the first `lead` characters, then word
characters, which must end at a terminator. -/
def Cursor.word (c : Cursor) (lead : Nat) (kindOf : String → Kind) (depth : Int) : Step :=
  let run := (c.rest.drop lead).takeWhile isWordChar
  let after := c.rest.drop (lead + run.length)
  if atTerminator after then
    let n := lead + run.length
    c.token (kindOf (String.ofList (c.rest.take n))) n depth
  else match after with
    | r :: _ => c.fail ("bad character " ++ codePoint r)
    | [] => c.fail "bad character"

/-- The kind of a word. -/
def wordKind (w : String) : Kind :=
  if ["block", "break", "continue", "define", "else", "end", "if", "range", "template",
      "with"].contains w then .keyword
  else if w = "nil" then .nil
  else if w = "true" || w = "false" then .bool
  else .identifier

/-- A number, or a complex number `re+imi`. -/
def Cursor.number (c : Cursor) (depth : Int) : Step :=
  let bad (n : Nat) := c.fail ("bad number syntax: " ++ Text.quote (String.ofList (c.rest.take n)))
  match scanNumber c.rest with
  | (n, false) => bad n
  | (n, true) =>
    match c.rest.drop n with
    | s :: _ =>
      if s = '+' || s = '-' then
        match scanNumber (c.rest.drop n) with
        | (m, ok) =>
          if ok && (c.rest.take (n + m)).getLast? = some 'i' then c.token .complex (n + m) depth
          else bad (n + m)
      else c.token .number n depth
    | [] => c.token .number n depth

/-- One step inside an action. -/
def insideStep (c : Cursor) (depth : Int) : Step :=
  match atRightDelim c.rest with
  | some trim =>
    if depth ≠ 0 then c.fail "unclosed left paren"
    else
      let d := if trim then c.skip 2 else c
      let after := d.skip 2
      let after := if trim then after.skipBlanks else after
      ([⟨.rightDelim, "\x7d\x7d", d.pos, d.line⟩], some (after, false, 0))
  | none =>
    match c.rest with
    | [] => c.fail "unclosed action"
    | r :: rest =>
      if isBlank r then
        let n := (c.rest.takeWhile isBlank).length
        let trimAhead := match c.rest.drop n with
          | '-' :: '}' :: '}' :: _ => true
          | _ => false
        if trimAhead then
          if n = 1 then ([], some (c, true, depth))
          else c.token .space (n - 1) depth
        else c.token .space n depth
      else if r = '=' then c.token .assign 1 depth
      else if r = ':' then
        if rest.head? = some '=' then c.token .declare 2 depth else c.fail "expected :="
      else if r = '|' then c.token .pipe 1 depth
      else if r = '"' then
        match quotedLength '"' rest with
        | some n => c.token .string (n + 1) depth
        | none => c.fail "unterminated quoted string"
      else if r = '\x60' then
        match rawLength rest with
        | some n => c.token .rawString (n + 1) depth
        | none => c.fail "unterminated raw quoted string"
      else if r = '$' then
        if atTerminator rest then c.token .variable 1 depth
        else c.word 1 (fun _ => .variable) depth
      else if r = '\'' then
        match quotedLength '\'' rest with
        | some n => c.token .charConstant (n + 1) depth
        | none => c.fail "unterminated character constant"
      else if r = '.' && (match rest with
          | d :: _ => !('0' ≤ d && d ≤ '9')
          | [] => false) then
        if atTerminator rest then c.token .dot 1 depth
        else c.word 1 (fun _ => .field) depth
      else if r = '.' || r = '+' || r = '-' || ('0' ≤ r && r ≤ '9') then c.number depth
      else if isWordChar r then c.word 0 wordKind depth
      else if r = '(' then c.token .leftParen 1 (depth + 1)
      else if r = ')' then
        if depth - 1 < 0 then c.fail "unexpected right paren"
        else c.token .rightParen 1 (depth - 1)
      else if 0x20 ≤ r.toNat && r.toNat ≤ 0x7e then c.token .char 1 depth
      else c.fail ("unrecognized character in action: " ++ codePoint r)

/-- A comment, from the place after its opening delimiter (and trim marker);
it must end right before a closing delimiter. -/
def commentStep (c : Cursor) : Step :=
  let body := c.skip 2
  let rec find (i : Nat) : List Char → Option Nat
    | '*' :: '/' :: _ => some i
    | _ :: more => find (i + 1) more
    | [] => none
  match find 0 body.rest with
  | none => c.fail "unclosed comment"
  | some x =>
    let after := body.skip (x + 2)
    match atRightDelim after.rest with
    | none => c.fail "comment ends before closing delimiter"
    | some trim =>
      let d := if trim then after.skip 2 else after
      let d := d.skip 2
      ([], some (if trim then d.skipBlanks else d, false, 0))

/-- One step outside actions: the text up to the next `{{` (less its trailing
white space when a trim marker follows the delimiter), then the delimiter. -/
def outsideStep (c : Cursor) : Step :=
  let (before, rest) := untilDelim c.rest
  match rest with
  | [] =>
    let textItems := if before.isEmpty then [] else [c.item .text before.length]
    let e := c.skip before.length
    (textItems ++ [⟨.eof, "", e.pos, e.line⟩], none)
  | _ =>
    let trim := leftTrim (rest.drop 2)
    let kept := if trim then (before.reverse.dropWhile isBlank).reverse else before
    let textItems := if kept.isEmpty then [] else [c.item .text kept.length]
    let atDelim := c.skip before.length
    let inner := atDelim.skip 2
    let inner := if trim then inner.skip 2 else inner
    match inner.rest with
    | '/' :: '*' :: _ =>
      let (items, next) := commentStep inner
      (textItems ++ items, next)
    | _ => (textItems ++ [⟨.leftDelim, "\x7b\x7b", atDelim.pos, atDelim.line⟩], some (inner, true, 0))

/-- Scanning from a place, inside an action or not, with `fuel` steps at most. -/
def scanFrom : Nat → Cursor → Bool → Int → List Item
  | 0, c, _, _ => [⟨.eof, "", c.pos, c.line⟩]
  | fuel + 1, c, inside, depth =>
    let (items, next) := if inside then insideStep c depth else outsideStep c
    match next with
    | none => items
    | some (c', inside', depth') => items ++ scanFrom fuel c' inside' depth'

/-- The items of a template. Each step reads at least one character, but for
the one that leaves a blank before ` -}}` in place, which the step after it
reads; twice the length of the template is enough. -/
def scan (src : String) : List Item :=
  let cs := src.toList
  scanFrom (2 * cs.length + 4) ⟨cs, 0, 1⟩ false 0

end NetFleet.Template
