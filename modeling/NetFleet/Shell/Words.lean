/-!
# How a POSIX shell cuts a command text into tokens

A shell reads the text it runs as tokens: words, operators and line ends
(POSIX, Shell Command Language, 2.2 Quoting and 2.3 Token Recognition).

* A word is a run of characters outside quotes, characters in single quotes
  (all taken as they stand), characters in double quotes (where a backslash
  keeps only `$`, a backquote, `"`, a backslash or a line end, and `$` still
  expands) and characters after a backslash, with nothing between them. A
  backslash before a line end joins the lines.
* Blanks end a word and are dropped. `|`, `&`, `;`, `<` and `>` end a word and
  begin an operator, read as long as it stays one (`||`, `;;`, `>>` …); `(`
  and `)` are operators of their own. A line end is a token.
* `#` at the start of a word begins a comment, which runs to the line end.

A word keeps, for each character, whether it was quoted, and its parameter
expansions (`$name`, `$1`, `$?` …) and command substitutions (`$( … )`, read to
the parenthesis that closes it, counting the parentheses inside). A word that
has no expansion, no unquoted `*`, `?` or `[`, and no unquoted `~` in front
expands to one field: its characters (`Word.text?`).

Not read here: backquotes, `${…}`, `$((…))`, `$'…'`, `$"…"`, here-documents
(`<<`), and the word `case` inside a command substitution (where a pattern's
`)` closes no parenthesis). A text holding one is refused (`none`), as is a
text that ends inside quotes or a substitution. A shell receives a command
text as a C string, so the text it reads ends at the first NUL character.
-/

namespace NetFleet.Shell

/-- A piece of a word. -/
inductive Part where
  /-- a character, and whether a quote or a backslash protected it -/
  | char (c : Char) (quoted : Bool)
  /-- a parameter expansion `$name` -/
  | param (name : String) (quoted : Bool)
  /-- a command substitution `$( … )`, with the text of its command -/
  | subst (command : String) (quoted : Bool)
  deriving DecidableEq, Repr

/-- A word, as its pieces. -/
abbrev Word := List Part

/-- A token of a command text. -/
inductive Token where
  | word (w : Word)
  | op (s : String)
  | newline
  deriving DecidableEq, Repr

/-- The word of characters `s`, none of them quoted. -/
def plain (s : String) : Word := s.toList.map (.char · false)

/-- The word of characters `s`, each of them quoted. -/
def quoted (s : String) : Word := s.toList.map (.char · true)

/-- A character of a word that stands for itself when the word expands: not
an unquoted `*`, `?` or `[`, and no expansion. -/
def Part.literal? : Part → Option Char
  | .char c q => if !q && (c = '*' || c = '?' || c = '[') then none else some c
  | _ => none

/-- The text a word expands to, when it expands to one field of its own
characters. -/
def Word.text? (w : Word) : Option String :=
  match w with
  | .char '~' false :: _ => none
  | _ => (w.mapM Part.literal?).map String.ofList

/-! ### Characters -/

/-- A blank: space or tab. -/
def isBlank (c : Char) : Bool := c = ' ' || c = '\t'

/-- A character that ends a word and begins an operator. -/
def isOpChar (c : Char) : Bool := c = '|' || c = '&' || c = ';' || c = '<' || c = '>' || c = '(' || c = ')'

/-- The operators that a longer one may grow from, and those it grows to. -/
def operators : List (List Char) :=
  [['|'], ['&'], [';'], ['<'], ['>'], ['|', '|'], ['&', '&'], [';', ';'], ['<', '<'], ['>', '>'],
    ['<', '&'], ['>', '&'], ['<', '>'], ['>', '|']]

/-- Whether characters read so far are an operator. -/
def isOperator (s : List Char) : Bool := s ∈ operators

/-- A character that may begin a parameter name. -/
def isNameStart (c : Char) : Bool := c.isAlpha || c = '_'

/-- A character that may continue a parameter name. -/
def isNameChar (c : Char) : Bool := c.isAlphanum || c = '_'

/-- A parameter of one character: a digit or one of `@*#?-$!`. -/
def isSpecialParam (c : Char) : Bool :=
  c.isDigit || c = '@' || c = '*' || c = '#' || c = '?' || c = '-' || c = '$' || c = '!'

/-- The unquoted word `case`. -/
def caseWord : Word := plain "case"

/-! ### Reading -/

/-- Where the shell is in a text. -/
inductive Mode where
  /-- between tokens -/
  | blank
  /-- in word `w`, outside quotes -/
  | word (w : Word)
  /-- in single quotes, in word `w` -/
  | single (w : Word)
  /-- in double quotes, in word `w` -/
  | double (w : Word)
  /-- after a backslash outside quotes; `none` when no word has begun -/
  | escaped (w : Option Word)
  /-- after a backslash in double quotes -/
  | dqEscaped (w : Word)
  /-- after a `$`, in double quotes or not -/
  | dollar (w : Word) (quoted : Bool)
  /-- reading the name of a parameter -/
  | name (w : Word) (quoted : Bool) (n : List Char)
  /-- reading an operator -/
  | oper (s : List Char)
  /-- in a comment -/
  | comment
  /-- in a command substitution of word `w`: the parentheses open inside it,
  its text so far, and where the shell is in that text -/
  | subst (w : Word) (quoted : Bool) (depth : Nat) (command : List Char) (inner : Mode)
  deriving DecidableEq, Repr

/-- A character that continues (or begins) the word `w` outside quotes. -/
def inWord (w : Word) (c : Char) : Option Mode :=
  if c = '\\' then some (.escaped (some w))
  else if c = '\'' then some (.single w)
  else if c = '"' then some (.double w)
  else if c = '$' then some (.dollar w false)
  else if c = '`' then none
  else some (.word (w ++ [.char c false]))

/-- A character between tokens. -/
def atBlank (c : Char) : Option (Mode × List Token) :=
  if isBlank c then some (.blank, [])
  else if c = '\n' then some (.blank, [.newline])
  else if c = '(' || c = ')' then some (.blank, [.op c.toString])
  else if isOpChar c then some (.oper [c], [])
  else if c = '#' then some (.comment, [])
  else if c = '\\' then some (.escaped none, [])
  else (inWord [] c).map (·, [])

/-- A character after the word `w`, outside quotes. -/
def afterWord (w : Word) (c : Char) : Option (Mode × List Token) :=
  if isBlank c || c = '\n' || isOpChar c then (atBlank c).map fun r => (r.1, .word w :: r.2)
  else (inWord w c).map (·, [])

/-- A character in double quotes, in the word `w`. -/
def inDouble (w : Word) (c : Char) : Option (Mode × List Token) :=
  if c = '"' then some (.word w, [])
  else if c = '\\' then some (.dqEscaped w, [])
  else if c = '$' then some (.dollar w true, [])
  else if c = '`' then none
  else some (.double (w ++ [.char c true]), [])

/-- A character after an expansion ends, in double quotes or not. -/
def resume (w : Word) (q : Bool) (c : Char) : Option (Mode × List Token) :=
  if q then inDouble w c else afterWord w c

/-- The parentheses among the tokens read inside a command substitution:
`none` refuses (a `case`), `some none` is the one that closes it, `some (some
d)` leaves `d` open. -/
def nest : Nat → List Token → Option (Option Nat)
  | d, [] => some (some d)
  | d, .op "(" :: ts => nest (d + 1) ts
  | 0, .op ")" :: _ => some none
  | d + 1, .op ")" :: ts => nest d ts
  | d, .word w :: ts => if w = caseWord then none else nest d ts
  | d, _ :: ts => nest d ts

/-- One character: where the shell is next, and the tokens it finished. -/
def step : Mode → Char → Option (Mode × List Token)
  | .blank, c => atBlank c
  | .word w, c => afterWord w c
  | .single w, c => some (if c = '\'' then .word w else .single (w ++ [.char c true]), [])
  | .double w, c => inDouble w c
  | .escaped w, c =>
    some (if c = '\n' then (match w with | none => .blank | some w => .word w)
      else .word (w.getD [] ++ [.char c true]), [])
  | .dqEscaped w, c =>
    some (.double (if c = '\n' then w
      else if c = '$' || c = '`' || c = '"' || c = '\\' then w ++ [.char c true]
      else w ++ [.char '\\' true, .char c true]), [])
  | .dollar w q, c =>
    if c = '(' then some (.subst w q 0 [] .blank, [])
    else if c = '{' || (!q && (c = '\'' || c = '"')) then none
    else if isNameStart c then some (.name w q [c], [])
    else if isSpecialParam c then
      some ((if q then Mode.double else Mode.word) (w ++ [.param c.toString q]), [])
    else resume (w ++ [.char '$' q]) q c
  | .name w q n, c =>
    if isNameChar c then some (.name w q (n ++ [c]), [])
    else resume (w ++ [.param (String.ofList n) q]) q c
  | .oper s, c =>
    if isOperator (s ++ [c]) then
      if s ++ [c] = ['<', '<'] then none else some (.oper (s ++ [c]), [])
    else (atBlank c).map fun r => (r.1, .op (String.ofList s) :: r.2)
  | .comment, c => some (if c = '\n' then (.blank, [.newline]) else (.comment, []))
  | .subst w q d cmd inner, c =>
    if cmd = [] && c = '(' then none
    else (step inner c).bind fun r => (nest d r.2).map fun
      | none => ((if q then Mode.double else Mode.word) (w ++ [.subst (String.ofList cmd) q]), [])
      | some d' => (.subst w q d' (cmd ++ [c]) r.1, [])

/-- The tokens still open at the end of the text. -/
def finish : Mode → Option (List Token)
  | .blank => some []
  | .word w => some [.word w]
  | .escaped w => some [.word (w.getD [] ++ [.char '\\' true])]
  | .dollar w false => some [.word (w ++ [.char '$' false])]
  | .name w false n => some [.word (w ++ [.param (String.ofList n) false])]
  | .oper s => some [.op (String.ofList s)]
  | .comment => some []
  | _ => none

/-- Reads characters from a mode: where the shell ends up, and the tokens
finished on the way. -/
def scan : Mode → List Char → Option (Mode × List Token)
  | m, [] => some (m, [])
  | m, c :: cs => (step m c).bind fun r => (scan r.1 cs).map fun r' => (r'.1, r.2 ++ r'.2)

/-- The characters a shell receives of a command text: up to its first NUL. -/
def received (s : String) : List Char := s.toList.takeWhile (· ≠ '\x00')

/-- The tokens of a command text, or `none` when the shell cannot read it to
the end. -/
def read (s : String) : Option (List Token) :=
  (scan .blank (received s)).bind fun r => (finish r.1).map (r.2 ++ ·)

/-! ### Reading in pieces -/

/-- Reading `a ++ b` reads `a`, then `b` from where `a` left the shell. -/
theorem scan_append {m m' : Mode} {a : List Char} {ts : List Token} (h : scan m a = some (m', ts))
    (b : List Char) : scan m (a ++ b) = (scan m' b).map fun r => (r.1, ts ++ r.2) := by
  induction a generalizing m ts with
  | nil =>
    cases h
    simp
  | cons c a ih =>
    simp only [scan, Option.bind_eq_some_iff, Option.map_eq_some_iff] at h
    obtain ⟨⟨m₁, ts₁⟩, hstep, ⟨m₂, ts₂⟩, hrest, heq⟩ := h
    cases heq
    simp [scan, hstep, ih hrest, Option.map_map, Function.comp_def, List.append_assoc]

theorem scan_singleton (m : Mode) (c : Char) : scan m [c] = step m c := by
  rw [scan]
  cases step m c with
  | none => rfl
  | some r => simp [scan]

/-- Reading `a ++ b` to its end reads `a` to its end first. -/
theorem scan_split {m m'' : Mode} {a b : List Char} {ts : List Token}
    (h : scan m (a ++ b) = some (m'', ts)) :
    ∃ m' ts₁ ts₂, scan m a = some (m', ts₁) ∧ scan m' b = some (m'', ts₂) ∧ ts = ts₁ ++ ts₂ := by
  induction a generalizing m ts with
  | nil => exact ⟨m, [], ts, rfl, h, rfl⟩
  | cons c a ih =>
    simp only [List.cons_append, scan, Option.bind_eq_some_iff, Option.map_eq_some_iff] at h
    obtain ⟨⟨m₁, ts₁⟩, hstep, ⟨m₂, ts₂⟩, hrest, heq⟩ := h
    cases heq
    obtain ⟨m', ts₃, ts₄, ha, hb, rfl⟩ := ih hrest
    refine ⟨m', ts₁ ++ ts₃, ts₄, ?_, hb, by simp⟩
    simp [scan, hstep, ha]

theorem scan_trans {m m' m'' : Mode} {a b : List Char} {ts ts' : List Token}
    (ha : scan m a = some (m', ts)) (hb : scan m' b = some (m'', ts')) :
    scan m (a ++ b) = some (m'', ts ++ ts') := by
  simp [scan_append ha, hb]

/-- A blank ends a word. -/
theorem scan_word_blank (w : Word) (cs : List Char) :
    scan (.word w) (' ' :: cs) = (scan .blank cs).map fun r => (r.1, .word w :: r.2) := by
  simp [scan, step, afterWord, atBlank, isBlank]

theorem scan_of_map_fst {m m' : Mode} {cs : List Char} (h : (scan m cs).map Prod.fst = some m') :
    ∃ ts, scan m cs = some (m', ts) := by
  obtain ⟨⟨m₁, ts⟩, hs, rfl⟩ := Option.map_eq_some_iff.1 h
  exact ⟨ts, hs⟩

/-- A text without NUL reaches the shell whole. -/
theorem received_of_noNul {s : String} (h : '\x00' ∉ s.toList) : received s = s.toList := by
  unfold received
  generalize s.toList = cs at h ⊢
  induction cs with
  | nil => rfl
  | cons c cs ih =>
    simp only [List.mem_cons, not_or] at h
    rw [List.takeWhile_cons, if_pos (by simpa using Ne.symm h.1), ih h.2]

theorem received_append {a b : String} (h : '\x00' ∉ a.toList) : received (a ++ b) = a.toList ++ received b := by
  rw [received, received, String.toList_append, List.takeWhile_append_of_pos]
  intro c hc
  have hc0 : c ≠ '\x00' := fun hc0 => h (hc0 ▸ hc)
  simpa using hc0

/-- A text without NUL that the shell reads to its end between tokens is read
before whatever follows it. -/
theorem read_append {a b : String} {ts : List Token} (hnul : '\x00' ∉ a.toList)
    (h : scan .blank a.toList = some (.blank, ts)) : read (a ++ b) = (read b).map (ts ++ ·) := by
  simp only [read, received_append hnul, scan_append h]
  cases scan .blank (received b) with
  | none => rfl
  | some r => simp [Function.comp_def]

end NetFleet.Shell
