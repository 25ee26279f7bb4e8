import NetFleet.Shell.Words

/-!
# The `case` statement

`case WORD in PATTERN | … ) COMMANDS ;; … esac` runs the commands of the first
clause that has a pattern matching the value of the word (POSIX, Shell
Command Language, 2.9.4.3). The word is expanded without field splitting or
pathname expansion. A pattern (2.13) matches a text character by character:
an unquoted `*` matches any run of characters, an unquoted `?` any one
character, and any other character, or a quoted one, itself.

Not read here: bracket expressions and expansions in patterns, a clause that
does not end with `;;`, and a `case` statement inside a clause.
-/

namespace NetFleet.Shell

/-- A piece of a pattern. -/
inductive Glob where
  /-- a character that matches itself -/
  | char (c : Char)
  /-- `?`: any one character -/
  | one
  /-- `*`: any run of characters -/
  | any
  deriving DecidableEq, Repr

/-- Whether a pattern matches a whole text. -/
def globMatch : List Glob → List Char → Bool
  | [], s => s.isEmpty
  | .any :: p, s => (List.range (s.length + 1)).any fun k => globMatch p (s.drop k)
  | .one :: p, _ :: s => globMatch p s
  | .char c :: p, d :: s => c == d && globMatch p s
  | _, [] => false

/-- `*` matches every text. -/
theorem globMatch_any (s : List Char) : globMatch [.any] s = true := by
  simp only [globMatch, List.any_eq_true, List.mem_range]
  exact ⟨s.length, Nat.lt_succ_self _, by simp⟩

/-- Characters and then `*` match exactly the texts that begin with the
characters. -/
theorem globMatch_chars_any (p s : List Char) : globMatch (p.map .char ++ [.any]) s = p.isPrefixOf s := by
  induction p generalizing s with
  | nil => simp [globMatch_any]
  | cons c p ih =>
    cases s with
    | nil => rfl
    | cons d s => simp [globMatch, List.isPrefixOf, ih]

/-- A word as a pattern. -/
def Word.glob? (w : Word) : Option (List Glob) := w.mapM fun (x : Part) => match x with
  | .char c false => if c = '*' then some .any else if c = '?' then some .one
    else if c = '[' then none else some (.char c)
  | .char c true => some (.char c)
  | _ => none

/-- The value of a word outside of a command: its characters, with each
parameter's value in its place. A command substitution is not run here. -/
def Word.expand? (env : String → String) (w : Word) : Option String :=
  match w with
  | .char '~' false :: _ => none
  | _ => (w.mapM fun
      | Part.char c _ => some c.toString
      | .param n _ => some (env n)
      | .subst _ _ => none).map String.join

/-- A clause of a `case` statement. -/
structure Clause where
  patterns : List (List Glob)
  body : List Token
  deriving DecidableEq, Repr

/-- A `case` statement. -/
structure CaseStmt where
  subject : Word
  clauses : List Clause
  deriving DecidableEq, Repr

/-- The patterns of a clause, `p₁ | p₂ | … )`, and the tokens after them. -/
def readPatterns : List Token → Option (List (List Glob) × List Token)
  | .word w :: .op "|" :: rest =>
    w.glob?.bind fun g => (readPatterns rest).map fun r => (g :: r.1, r.2)
  | .word w :: .op ")" :: rest => w.glob?.map fun g => ([g], rest)
  | _ => none

/-- The tokens up to the first `;;`, and those after it. -/
def untilDsemi : List Token → Option (List Token × List Token)
  | [] => none
  | .op ";;" :: rest => some ([], rest)
  | t :: rest => (untilDsemi rest).map fun r => (t :: r.1, r.2)

/-- The tokens after an optional `(` that opens a clause. -/
def dropOpen : List Token → List Token
  | .op "(" :: rest => rest
  | ts => ts

/-- One clause, after an optional `(`: its patterns and its commands up to
`;;`. -/
def readClause (ts : List Token) : Option (Clause × List Token) :=
  (readPatterns (dropOpen ts)).bind fun r => (untilDsemi r.2).bind fun b =>
    if b.1.contains (.word caseWord) then none else some (⟨r.1, b.1⟩, b.2)

theorem length_readPatterns {ts rest : List Token} {gs : List (List Glob)}
    (h : readPatterns ts = some (gs, rest)) : rest.length < ts.length := by
  induction ts using readPatterns.induct generalizing gs with
  | case1 w rest' ih =>
    simp only [readPatterns, Option.bind_eq_some_iff, Option.map_eq_some_iff] at h
    obtain ⟨_, _, ⟨r, hr, hrest⟩⟩ := h
    cases hrest
    have := ih hr
    simp only [List.length_cons]
    omega
  | case2 w rest' =>
    simp only [readPatterns, Option.map_eq_some_iff] at h
    obtain ⟨_, _, hrest⟩ := h
    cases hrest
    simp only [List.length_cons]
    omega
  | case3 => simp_all [readPatterns]

theorem length_untilDsemi {ts body rest : List Token} (h : untilDsemi ts = some (body, rest)) :
    rest.length < ts.length := by
  induction ts using untilDsemi.induct generalizing body with
  | case1 => simp [untilDsemi] at h
  | case2 rest' =>
    simp only [untilDsemi, Option.some.injEq, Prod.mk.injEq] at h
    obtain ⟨-, rfl⟩ := h
    simp
  | case3 t rest' ht ih =>
    rw [untilDsemi] at h
    · simp only [Option.map_eq_some_iff] at h
      obtain ⟨r, hr, hrest⟩ := h
      cases hrest
      have := ih hr
      simp only [List.length_cons]
      omega
    · exact ht

theorem length_dropOpen (ts : List Token) : (dropOpen ts).length ≤ ts.length := by
  unfold dropOpen
  split
  · simp
  · exact Nat.le_refl _

theorem length_readClause {ts rest : List Token} {c : Clause} (h : readClause ts = some (c, rest)) :
    rest.length < ts.length := by
  simp only [readClause, Option.bind_eq_some_iff] at h
  obtain ⟨⟨gs, r⟩, hr, ⟨body, r'⟩, hb, hc⟩ := h
  have h₁ := length_readPatterns hr
  have h₂ := length_untilDsemi hb
  have h₃ := length_dropOpen ts
  split at hc
  · simp at hc
  · simp only [Option.some.injEq, Prod.mk.injEq] at hc
    obtain ⟨-, rfl⟩ := hc
    dsimp only at h₂
    omega

/-- The clauses up to `esac`, and the tokens after it. -/
def readClauses (ts : List Token) : Option (List Clause × List Token) :=
  let ts' := ts.dropWhile (· = .newline)
  if ts'.head? = some (.word (plain "esac")) then some ([], ts'.tail)
  else match _h : readClause ts' with
    | some (c, rest) => (readClauses rest).map fun r => (c :: r.1, r.2)
    | none => none
termination_by ts.length
decreasing_by
  have := length_readClause _h
  have : ts'.length ≤ ts.length := (List.dropWhile_sublist _).length_le
  omega

/-! ### Reading clauses -/

theorem untilDsemi_append {body rest : List Token} (h : .op ";;" ∉ body) :
    untilDsemi (body ++ .op ";;" :: rest) = some (body, rest) := by
  induction body with
  | nil => simp [untilDsemi]
  | cons t body ih =>
    simp only [List.mem_cons, not_or] at h
    simp [untilDsemi, Ne.symm h.1, ih h.2]

/-- A clause whose commands hold no `;;` and no `case` reads as its patterns
and its commands. -/
theorem readClause_of {ts rest body : List Token} {gs : List (List Glob)}
    (hopen : ts.head? ≠ some (.op "(")) (hp : readPatterns ts = some (gs, body ++ .op ";;" :: rest))
    (hsemi : .op ";;" ∉ body) (hcase : .word caseWord ∉ body) :
    readClause ts = some (⟨gs, body⟩, rest) := by
  have hts : dropOpen ts = ts := by
    unfold dropOpen
    split <;> simp_all
  simp [readClause, hts, hp, untilDsemi_append hsemi, hcase]

theorem readClauses_newline (ts : List Token) : readClauses (.newline :: ts) = readClauses ts := by
  rw [readClauses, readClauses]
  rfl

theorem readClauses_esac (rest : List Token) :
    readClauses (.word (plain "esac") :: rest) = some ([], rest) := by
  rw [readClauses]
  simp

theorem readClauses_clause {ts rest : List Token} {cl : Clause} (hnl : ts.head? ≠ some .newline)
    (hesac : ts.head? ≠ some (.word (plain "esac"))) (h : readClause ts = some (cl, rest)) :
    readClauses ts = (readClauses rest).map fun r => (cl :: r.1, r.2) := by
  have hdrop : ts.dropWhile (· = .newline) = ts := by
    cases ts with
    | nil => rfl
    | cons t ts => simp_all
  rw [readClauses]
  simp only [hdrop, if_neg hesac]
  split
  · next c r hc => rw [hdrop, h] at hc; cases hc; rfl
  · next hc => rw [hdrop, h] at hc; cases hc

/-- A `case` statement at the start of the tokens, and the tokens after it. -/
def readCase : List Token → Option (CaseStmt × List Token)
  | .word kw :: .word subject :: rest =>
    if kw = plain "case" then
      match rest.dropWhile (· = .newline) with
      | .word i :: rest' =>
        if i = plain "in" then (readClauses rest').map fun r => (⟨subject, r.1⟩, r.2) else none
      | _ => none
    else none
  | _ => none

theorem readCase_in (subject : Word) (rest : List Token) :
    readCase (.word (plain "case") :: .word subject :: .word (plain "in") :: rest) =
      (readClauses rest).map fun r => (⟨subject, r.1⟩, r.2) := by
  simp [readCase]

/-- The commands of the first clause with a pattern matching the subject's
value; `none` when no clause matches. -/
def CaseStmt.choose (env : String → String) (cs : CaseStmt) : Option (List Token) :=
  (cs.subject.expand? env).bind fun v =>
    (cs.clauses.find? fun cl => cl.patterns.any fun g => globMatch g v.toList).map (·.body)

/-- The commands that a text starting with a `case` statement runs. -/
def caseRuns (env : String → String) (text : String) : Option (List Token) :=
  (read text).bind fun ts => (readCase ts).bind fun r => r.1.choose env

end NetFleet.Shell
