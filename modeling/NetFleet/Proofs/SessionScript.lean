import NetFleet.Proofs.ShellQuote

/-!
# The script of a configuration session, as a shell reads it

A session's script opens the session, runs each rendered line through the
configuration wrapper `$W`, prints the difference to the running
configuration between two markers, and ends with a `case` statement on that
difference (`sessionScript`).

* The `case` statement reads as `sessionCase` (`read_scriptFinish`,
  `readCase_caseTokens`): it discards the session when the difference is
  empty or begins with `No changes` (`unchangedDiff`), and commits it
  otherwise, with the comment as the one word after `commit comment`
  (`choose_sessionCase`, `commitCommand`).
* The rendered lines are shell text of their own, and the script reads as
  their tokens and then those of the `case` statement when each line ends
  between tokens (`EndsBetweenTokens`: no quote, substitution or operator is
  left open at its line end). A `delete` line's ` || true` then reads after
  it whatever it holds (`scan_orTrue`).
-/

namespace NetFleet.Router

open NetFleet.Shell

/-! ### The `case` statement -/

/-- A command through the configuration wrapper: the word `$W` and then
`args`. -/
def wrapperCommand (args : List Word) : List Token := .word [.param "W" false] :: args.map .word

/-- The command that discards a session. -/
def discardCommand : List Token := wrapperCommand [plain "discard"]

/-- The command that commits a session, with the comment as one word when
there is one. -/
def commitCommand (c : String) : List Token :=
  wrapperCommand (plain "commit" :: if c = "" then [] else [plain "comment", quoted c])

/-- The pattern `"No changes"*`. -/
def noChangesWord : Word := quoted "No changes" ++ [.char '*' false]

/-- The tokens of the `case` statement that ends a session's script. -/
def caseTokens (c : String) : List Token :=
  [Token.word (plain "case"), Token.word [Part.param "diff" true], Token.word (plain "in"), Token.newline,
    Token.word [], Token.op "|", Token.word noChangesWord, Token.op ")"] ++ discardCommand ++
  [Token.op ";;", Token.newline, Token.word [Part.char '*' false], Token.op ")"] ++ commitCommand c ++
  [Token.op ";;", Token.newline, Token.word (plain "esac"), Token.newline]

/-- The `case` statement that ends a session's script: on the difference in
`diff`, discard when it is empty or begins with `No changes`, else commit. -/
def sessionCase (c : String) : CaseStmt where
  subject := [.param "diff" true]
  clauses := [⟨[[], "No changes".toList.map .char ++ [.any]], discardCommand⟩, ⟨[[.any]], commitCommand c⟩]

/-- A difference that means nothing changed: none, or one that begins with
`No changes`. -/
def unchangedDiff (d : String) : Bool := d = "" || d.startsWith "No changes"

theorem quoted_ne_caseWord (c : String) : quoted c ≠ caseWord := by
  intro h
  have hmem : Part.char 'c' false ∈ quoted c := by
    rw [h]
    decide
  simp [quoted] at hmem

theorem commitCommand_plain (c : String) :
    .op ";;" ∉ commitCommand c ∧ .word caseWord ∉ commitCommand c := by
  unfold commitCommand wrapperCommand
  split
  · decide
  · simp only [List.map_cons, List.map_nil, List.mem_cons, List.not_mem_nil, reduceCtorEq, or_false,
      Token.word.injEq]
    refine ⟨by simp, ?_⟩
    simp [Ne.symm (quoted_ne_caseWord c)]
    decide

theorem glob_noChangesWord : noChangesWord.glob? = some ("No changes".toList.map .char ++ [.any]) := by
  decide +kernel

theorem readClause_discard (rest : List Token) :
    readClause ([.word [], .op "|", .word noChangesWord, .op ")"] ++ discardCommand ++ .op ";;" :: rest) =
      some (⟨[[], "No changes".toList.map .char ++ [.any]], discardCommand⟩, rest) :=
  have hempty : Word.glob? [] = some [] := rfl
  readClause_of (by simp) (by simp [readPatterns, glob_noChangesWord, hempty]) (by decide) (by decide)

theorem readClause_commit (c : String) (rest : List Token) :
    readClause ([.word [.char '*' false], .op ")"] ++ commitCommand c ++ .op ";;" :: rest) =
      some (⟨[[.any]], commitCommand c⟩, rest) :=
  readClause_of (by simp) (by simp [readPatterns, Word.glob?]) (commitCommand_plain c).1
    (commitCommand_plain c).2

theorem readCase_caseTokens (c : String) : readCase (caseTokens c) = some (sessionCase c, [.newline]) := by
  -- the token lists are written with their constructors: left to dot notation
  -- inside appends they elaborate slowly
  have hclauses : readClauses (Token.newline :: ([Token.word [], Token.op "|", Token.word noChangesWord,
      Token.op ")"] ++ discardCommand ++ Token.op ";;" :: Token.newline ::
      ([Token.word [Part.char '*' false], Token.op ")"] ++ commitCommand c ++
      Token.op ";;" :: [Token.newline, Token.word (plain "esac"), Token.newline]))) =
      some ((sessionCase c).clauses, [Token.newline]) := by
    rw [readClauses_newline, readClauses_clause (by simp) (by simp [plain]) (readClause_discard _),
      readClauses_newline, readClauses_clause (by simp) (by simp [plain]) (readClause_commit c _),
      readClauses_newline, readClauses_esac]
    rfl
  have htokens : caseTokens c = Token.word (plain "case") :: Token.word [Part.param "diff" true] ::
      Token.word (plain "in") :: Token.newline :: ([Token.word [], Token.op "|", Token.word noChangesWord,
      Token.op ")"] ++ discardCommand ++ Token.op ";;" :: Token.newline ::
      ([Token.word [Part.char '*' false], Token.op ")"] ++ commitCommand c ++
      Token.op ";;" :: [Token.newline, Token.word (plain "esac"), Token.newline])) := by
    simp [caseTokens]
  rw [htokens, readCase_in, hclauses]
  rfl

/-- The shell reads the end of a session's script, with a comment without
NUL, as the tokens of its `case` statement. -/
theorem read_scriptFinish {c : String} (hc : '\x00' ∉ c.toList) :
    read (scriptFinish false c) = some (caseTokens c) := by
  by_cases hc0 : c = ""
  · subst hc0
    decide +kernel
  · have hA : scan .blank ("case \"$diff\" in\n" ++ "\"\"|\"No changes\"*) $W discard ;;\n" ++
        "*) $W commit comment ").toList = some (.blank,
        [Token.word (plain "case"), Token.word [Part.param "diff" true], Token.word (plain "in"), Token.newline,
          Token.word [], Token.op "|", Token.word noChangesWord, Token.op ")"] ++ discardCommand ++
        [Token.op ";;", Token.newline, Token.word [Part.char '*' false], Token.op ")",
          Token.word [Part.param "W" false], Token.word (plain "commit"), Token.word (plain "comment")]) := by
      decide +kernel
    have hB : scan .blank ";;\nesac\n".toList =
        some (.blank, [Token.op ";;", Token.newline, Token.word (plain "esac"), Token.newline]) := by
      decide +kernel
    have htext : (scriptFinish false c).toList = ("case \"$diff\" in\n" ++ "\"\"|\"No changes\"*) $W discard ;;\n" ++
        "*) $W commit comment ").toList ++ (shellQuote c).toList ++ ' ' :: ";;\nesac\n".toList := by
      simp only [scriptFinish, Bool.false_eq_true, if_false, ne_eq, hc0, not_false_eq_true, if_true,
        String.toList_append, List.append_assoc]
      simp
    have hnul : '\x00' ∉ (scriptFinish false c).toList := noNul_scriptFinish false hc
    rw [Shell.read, received_of_noNul hnul, htext, scan_append (scan_trans hA (scan_shellQuote c)),
      scan_word_blank, hB]
    simp [finish, caseTokens, commitCommand, wrapperCommand, hc0]

/-- The first clause's patterns, the empty text and `"No changes"*`, match
exactly an unchanged difference. -/
theorem unchanged_patterns (v : String) :
    ([[], "No changes".toList.map .char ++ [.any]].any fun g => globMatch g v.toList) = unchangedDiff v := by
  rw [List.any_cons, List.any_cons, List.any_nil, globMatch_chars_any, Bool.eq_iff_iff]
  simp [globMatch, unchangedDiff, String.startsWith_string_iff]

/-- The `case` statement runs the discard when the difference is unchanged,
and the commit otherwise. -/
theorem choose_sessionCase (env : String → String) (c : String) :
    (sessionCase c).choose env = some (if unchangedDiff (env "diff") then discardCommand else commitCommand c) := by
  have hsubject : Word.expand? env [.param "diff" true] = some (env "diff") := by simp [Word.expand?]
  simp only [CaseStmt.choose, sessionCase, hsubject, Option.bind_some, List.find?_cons, unchanged_patterns]
  cases h : unchangedDiff (env "diff") <;> simp [globMatch_any]

/-- The end of a session's script runs the discard when the difference is
unchanged, and the commit otherwise. -/
theorem caseRuns_scriptFinish {c : String} (hc : '\x00' ∉ c.toList) (env : String → String) :
    caseRuns env (scriptFinish false c) =
      some (if unchangedDiff (env "diff") then discardCommand else commitCommand c) := by
  simp only [caseRuns, read_scriptFinish hc, Option.bind_some, readCase_caseTokens, choose_sessionCase]

/-! ### The lines of a session -/

/-- A line that the shell reads through, ending between tokens: no quote,
substitution or operator is open at its line end. -/
def EndsBetweenTokens (l : String) : Prop := (scan .blank (l ++ "\n").toList).map Prod.fst = some .blank

instance (l : String) : Decidable (EndsBetweenTokens l) := inferInstanceAs (Decidable (_ = _))

theorem isOperator_append_blank (s : List Char) : isOperator (s ++ [' ']) = false := by
  have hlast : ∀ o ∈ operators, o.getLast? ≠ some ' ' := by decide
  simp only [isOperator, decide_eq_false_iff_not]
  exact fun h => hlast _ h List.getLast?_concat

/-- Where a blank ends what the shell was reading, ` || true` and the line end
leave it between tokens. -/
theorem scan_orTrue_of_blank {m : Mode} {t : List Token} (h : step m ' ' = some (.blank, t)) :
    (scan m " || true\n".toList).map Prod.fst = some .blank := by
  have hrest : (scan .blank "|| true\n".toList).map Prod.fst = some .blank := by decide +kernel
  rw [show " || true\n".toList = ' ' :: "|| true\n".toList from rfl, scan, h]
  simp only [Option.bind_some, Option.map_map]
  exact hrest

/-- Where a line end would leave the shell between tokens, ` || true` and the
line end leave it there too. -/
theorem scan_orTrue {m : Mode} {t : List Token} (h : step m '\n' = some (.blank, t)) :
    (scan m " || true\n".toList).map Prod.fst = some .blank := by
  cases m with
  | blank => decide +kernel
  | comment => decide +kernel
  | word w => exact scan_orTrue_of_blank (t := [.word w]) rfl
  | escaped w =>
    cases w with
    | none => decide +kernel
    | some w => simp [step] at h
  | dollar w q =>
    cases q with
    | false => exact scan_orTrue_of_blank (t := [.word (w ++ [.char '$' false])]) rfl
    | true => simp [step, resume, inDouble, isNameStart, isSpecialParam] at h
  | name w q n =>
    cases q with
    | false => exact scan_orTrue_of_blank (t := [.word (w ++ [.param (String.ofList n) false])]) rfl
    | true => simp [step, resume, inDouble, isNameChar] at h
  | oper s =>
    -- no operator grows by a blank, so the blank ends it
    refine scan_orTrue_of_blank (t := [.op (String.ofList s)]) ?_
    simp only [step, isOperator_append_blank]
    simp [atBlank, isBlank]
  | single w => simp [step] at h
  | double w => simp [step, inDouble] at h
  | dqEscaped w => simp [step] at h
  | subst w q d cmd inner =>
    -- a line end inside a substitution leaves the shell in it or in its word
    rw [step, if_neg (by simp)] at h
    obtain ⟨r, -, hr⟩ := Option.bind_eq_some_iff.1 h
    obtain ⟨x, -, hx⟩ := Option.map_eq_some_iff.1 hr
    cases x <;> cases q <;> simp at hx

/-- A line that ends between tokens, run through the wrapper, ends between
tokens too, with ` || true` after it or not. -/
theorem scan_scriptLine {l : String} (h : EndsBetweenTokens l) :
    ∃ ts, scan .blank (scriptLine l).toList = some (.blank, ts) := by
  obtain ⟨ts, hl⟩ := scan_of_map_fst h
  have hW : scan .blank "$W ".toList = some (.blank, [.word [.param "W" false]]) := by decide +kernel
  unfold scriptLine
  split
  · -- where the line leaves the shell, its line end would end between tokens
    rw [String.toList_append] at hl
    obtain ⟨m, ts₁, ts₂, h₁, h₂, -⟩ := scan_split hl
    rw [show "\n".toList = ['\n'] from rfl, scan_singleton] at h₂
    obtain ⟨ts₃, h₃⟩ := scan_of_map_fst (scan_orTrue h₂)
    exact ⟨_, by rw [String.toList_append, String.toList_append, scan_trans (scan_trans hW h₁) h₃]⟩
  · exact ⟨_, by rw [String.toList_append, String.toList_append, List.append_assoc,
      ← String.toList_append, scan_trans hW hl]⟩

/-- The lines of a session, each ending between tokens, end between tokens. -/
theorem scan_scriptLines {lines : List String} (h : ∀ l ∈ lines, EndsBetweenTokens l) :
    ∃ ts, scan .blank (String.join (lines.map scriptLine)).toList = some (.blank, ts) := by
  induction lines with
  | nil => exact ⟨[], rfl⟩
  | cons l lines ih =>
    obtain ⟨ts₁, h₁⟩ := scan_scriptLine (h l (List.mem_cons_self ..))
    obtain ⟨ts₂, h₂⟩ := ih fun l' hl' => h l' (List.mem_cons_of_mem _ hl')
    exact ⟨_, by rw [List.map_cons, String.join_cons, String.toList_append, scan_trans h₁ h₂]⟩

/-- A session's script whose lines end between tokens reads as the tokens of
its opening, its lines and its comparison, and then those of its end. -/
theorem read_sessionScript {lines : List String} (test : Bool) (c : String)
    (hl : ∀ l ∈ lines, EndsBetweenTokens l ∧ '\x00' ∉ l.toList) :
    ∃ pre, read (sessionScript lines test c) = (read (scriptFinish test c)).map (pre ++ ·) := by
  obtain ⟨th, hh⟩ := scan_of_map_fst
    (by decide +kernel : (scan .blank scriptHead.toList).map Prod.fst = some .blank)
  obtain ⟨tl, htl⟩ := scan_scriptLines fun l hm => (hl l hm).1
  obtain ⟨tc, hc⟩ := scan_of_map_fst
    (by decide +kernel : (scan .blank scriptCompare.toList).map Prod.fst = some .blank)
  have hscan : scan .blank (scriptHead ++ String.join (lines.map scriptLine) ++ scriptCompare).toList =
      some (.blank, th ++ tl ++ tc) := by
    rw [String.toList_append, String.toList_append, scan_trans (scan_trans hh htl) hc]
  exact ⟨_, read_append (noNul_scriptOpening fun l hm => (hl l hm).2) hscan⟩

/-! ### Quoting, end to end -/

/-- A shell reads every text written by `shellQuote` (without NUL) as one word
that expands to the text. So the command of a configuration session is
`/bin/vbash`, `-c` and the script as one word; when the lines end between
tokens, the script ends with its `case` statement, whose commit runs with
`commit comment` and the comment as one word; and `B | match P` passes the
pattern, trimmed and without its quotes, to `grep -E` as one word, when `B`
has no `|` and ends between tokens and `P` is not blank. -/
theorem shell_quoting_sound :
    (∀ s : String, '\x00' ∉ s.toList →
      read (shellQuote s) = some [.word (quoted s)] ∧ (quoted s).text? = some s) ∧
    (∀ (lines : List String) (test : Bool) (c : String), (∀ l ∈ lines, '\x00' ∉ l.toList) →
      '\x00' ∉ c.toList →
      read (commitScript lines test c) =
        some [.word (plain "/bin/vbash"), .word (plain "-c"), .word (quoted (sessionScript lines test c))] ∧
      (quoted (sessionScript lines test c)).text? = some (sessionScript lines test c)) ∧
    (∀ (lines : List String) (c : String), (∀ l ∈ lines, EndsBetweenTokens l ∧ '\x00' ∉ l.toList) →
      '\x00' ∉ c.toList → c ≠ "" →
      ∃ pre, read (sessionScript lines false c) = some (pre ++ caseTokens c) ∧
        readCase (caseTokens c) = some (sessionCase c, [.newline]) ∧
        ∀ env : String → String, unchangedDiff (env "diff") = false →
          (sessionCase c).choose env = some [.word [.param "W" false], .word (plain "commit"),
            .word (plain "comment"), .word (quoted c)]) ∧
    (∀ (B P : String) (ts : List Token), '|' ∉ B.toList →
      scan .blank (Text.trim B ++ " ").toList = some (.blank, ts) →
      (∃ c ∈ P.toList, Text.isSpace c = false) → '\x00' ∉ B.toList → '\x00' ∉ P.toList →
      read (opCommand (B ++ " | match " ++ P)) = some (.word (plain opWrapper) :: ts ++
        [.op "|", .word (plain "grep"), .word (plain "-E"), .word (quoted (unquoteShell (Text.trim P)))]) ∧
      (quoted (unquoteShell (Text.trim P))).text? = some (unquoteShell (Text.trim P))) := by
  refine ⟨fun s hs => read_shellQuote hs,
    fun lines test c hl hc => ⟨read_commitScript test hl hc, text_quoted _⟩, ?_,
    fun B P ts hpipe hB hP hBnul hPnul => ⟨read_opCommand_match hpipe hB hP hBnul hPnul, text_quoted _⟩⟩
  intro lines c hl hc hc0
  obtain ⟨pre, hpre⟩ := read_sessionScript false c hl
  refine ⟨pre, by rw [hpre, read_scriptFinish hc]; rfl, readCase_caseTokens c, fun env henv => ?_⟩
  rw [choose_sessionCase, henv]
  simp [commitCommand, wrapperCommand, hc0]

theorem shell_quoting_sound_at_apostrophes :
    ('\x00' ∉ "it's".toList ∧ read (shellQuote "it's") = some [.word (quoted "it's")]) ∧
    (EndsBetweenTokens "delete x 'a b'" ∧
      ∃ pre, read (sessionScript ["delete x 'a b'"] false "it's") = some (pre ++ caseTokens "it's")) ∧
    read (opCommand ("show log" ++ " | match " ++ "'a|b' ")) = some [.word (plain opWrapper),
      .word (plain "show"), .word (plain "log"), .op "|", .word (plain "grep"), .word (plain "-E"),
      .word (quoted "a|b")] := by
  have hline : EndsBetweenTokens "delete x 'a b'" := by decide +kernel
  refine ⟨⟨by decide, (shell_quoting_sound.1 "it's" (by decide)).1⟩, ⟨hline, ?_⟩, ?_⟩
  · obtain ⟨pre, hpre, -⟩ := shell_quoting_sound.2.2.1 ["delete x 'a b'"] "it's"
      (fun l hl => by
        rw [List.mem_singleton] at hl
        exact hl ▸ ⟨hline, by decide⟩) (by decide) (by decide)
    exact ⟨pre, hpre⟩
  · have h := (shell_quoting_sound.2.2.2 "show log" "'a|b' " [.word (plain "show"), .word (plain "log")]
      (by decide) (by decide +kernel) ⟨'a', by decide, by decide⟩ (by decide) (by decide)).1
    rw [h]
    decide +kernel

/-- A blank pattern is no `match` filter, and a line that leaves a quote open
leaves the script unreadable. -/
theorem blank_match_and_open_quote :
    opCommand "show | match " = opWrapper ++ " show | match" ∧
    read (sessionScript ["set x 'y"] false "done") = none := by
  constructor <;> decide +kernel

end NetFleet.Router
