import NetFleet.Shell.Case
import NetFleet.Router.Commit
import NetFleet.Proofs.Framing

/-!
# What a shell reads of the router's commands

`shellQuote` writes a text in single quotes, and each single quote in it as
`'\''`: close the quotes, an escaped quote, open them again. A shell reads
such a text as one word whose characters are those of the text, each quoted,
so that the word expands to the text itself (`read_shellQuote`). The one
hypothesis is that the text holds no NUL: the shell receives its command as a
C string, which would end there.

From it:
* the command of a configuration session is `/bin/vbash`, `-c` and one more
  word, the session's script (`read_commitScript`);
* an operational command `B | match P` runs the op-mode command of `B` into
  `grep -E` with one more word, the pattern without its quotes
  (`read_opCommand_match`). This needs `B` without `|` and ending between
  tokens, and `P` not blank: a blank pattern leaves the filter `match`
  without its space, so it is kept as it stands.
-/

namespace NetFleet.Router

open NetFleet.Shell

/-! ### A quoted text -/

/-- How `shellQuote` writes a character: a single quote closes the quotes,
stands escaped, and opens them again. -/
def quoteChar (c : Char) : List Char := if c = '\'' then ['\'', '\\', '\'', '\''] else [c]

theorem replaceChars_quote (fuel : Nat) (cs : List Char) (h : cs.length < fuel) :
    Text.replaceChars ['\''] ['\'', '\\', '\'', '\''] fuel cs = cs.flatMap quoteChar := by
  induction fuel generalizing cs with
  | zero => omega
  | succ fuel ih =>
    cases cs with
    | nil => rfl
    | cons c cs =>
      have hcs : cs.length < fuel := by simp at h; omega
      by_cases hc : c = '\''
      · subst hc
        simp [Text.replaceChars, Text.afterPrefix, ih cs hcs, quoteChar]
      · simp [Text.replaceChars, Text.afterPrefix, Ne.symm hc, ih cs hcs, quoteChar, hc]

theorem toList_shellQuote (s : String) :
    (shellQuote s).toList = '\'' :: s.toList.flatMap quoteChar ++ ['\''] := by
  have hlen : s.toList.length < s.length + 1 := by
    rw [String.length_toList]
    omega
  simp [shellQuote, Text.replaceAll, replaceChars_quote _ _ hlen]

/-- Inside single quotes, a text written by `shellQuote` reads back as its
characters, each quoted. -/
theorem scan_quoted_body (w : Word) (cs : List Char) :
    scan (.single w) (cs.flatMap quoteChar) = some (.single (w ++ cs.map (.char · true)), []) := by
  induction cs generalizing w with
  | nil => simp [scan]
  | cons c cs ih =>
    have hc : scan (.single w) (quoteChar c) = some (.single (w ++ [.char c true]), []) := by
      by_cases hq : c = '\''
      · subst hq
        rfl
      · simp [quoteChar, hq, scan, step]
    rw [List.flatMap_cons, scan_trans hc (ih _)]
    simp

/-- Between tokens, a text written by `shellQuote` is one word: its
characters, each quoted. -/
theorem scan_shellQuote (s : String) : scan .blank (shellQuote s).toList = some (.word (quoted s), []) := by
  have hopen : scan .blank ['\''] = some (.single [], []) := rfl
  have hclose : scan (.single (quoted s)) ['\''] = some (.word (quoted s), []) := by simp [scan, step]
  rw [toList_shellQuote, ← List.singleton_append,
    scan_trans (scan_trans hopen (scan_quoted_body [] s.toList)) hclose]
  rfl

theorem noNul_shellQuote {s : String} (h : '\x00' ∉ s.toList) : '\x00' ∉ (shellQuote s).toList := by
  rw [toList_shellQuote]
  intro hmem
  simp only [List.mem_cons, List.mem_append, List.mem_flatMap] at hmem
  rcases hmem with (h₁ | ⟨c, hc, hq⟩) | h₁
  · exact absurd h₁ (by decide)
  · unfold quoteChar at hq
    split at hq
    · simp at hq
    · simp only [List.mem_singleton] at hq
      exact h (hq ▸ hc)
  · exact absurd h₁ (by decide)

theorem mapM_literal_quoted (cs : List Char) :
    (cs.map (Part.char · true)).mapM Part.literal? = some cs := by
  induction cs with
  | nil => rfl
  | cons c cs ih => simp [List.mapM_cons, Part.literal?, ih]

/-- The characters of a word of quoted characters are its text. -/
theorem text_quoted (s : String) : (quoted s).text? = some s := by
  unfold Word.text?
  split
  next tail h =>
    -- every character of a quoted word is quoted, so none is a bare tilde
    have hmem : Part.char '~' false ∈ quoted s := by simp [h]
    simp [quoted] at hmem
  next => rw [quoted, mapM_literal_quoted]; simp

/-- A shell reads a text written by `shellQuote`, without NUL, as one word
whose text is the text. -/
theorem read_shellQuote {s : String} (h : '\x00' ∉ s.toList) :
    read (shellQuote s) = some [.word (quoted s)] ∧ (quoted s).text? = some s := by
  refine ⟨?_, text_quoted s⟩
  rw [Shell.read, received_of_noNul (noNul_shellQuote h), scan_shellQuote]
  rfl

/-! ### The command of a configuration session -/

theorem noNul_scriptLine {l : String} (h : '\x00' ∉ l.toList) : '\x00' ∉ (scriptLine l).toList := by
  unfold scriptLine
  split <;> simp [h]

theorem noNul_scriptFinish (test : Bool) {c : String} (h : '\x00' ∉ c.toList) :
    '\x00' ∉ (scriptFinish test c).toList := by
  unfold scriptFinish
  split
  · decide +kernel
  · split <;> simp [noNul_shellQuote h]

/-- The opening, lines and comparison of a session's script hold no NUL when
its lines hold none. -/
theorem noNul_scriptOpening {lines : List String} (hl : ∀ l ∈ lines, '\x00' ∉ l.toList) :
    '\x00' ∉ (scriptHead ++ String.join (lines.map scriptLine) ++ scriptCompare).toList := by
  have hhead : '\x00' ∉ scriptHead.toList := by decide +kernel
  have hcompare : '\x00' ∉ scriptCompare.toList := by decide +kernel
  simp only [String.toList_append, String.toList_join, List.mem_append, List.mem_flatMap,
    List.mem_map, not_or]
  refine ⟨⟨hhead, ?_⟩, hcompare⟩
  rintro ⟨_, ⟨l, hl', rfl⟩, hmem⟩
  exact noNul_scriptLine (hl l hl') hmem

theorem noNul_sessionScript {lines : List String} {c : String} (test : Bool)
    (hl : ∀ l ∈ lines, '\x00' ∉ l.toList) (hc : '\x00' ∉ c.toList) :
    '\x00' ∉ (sessionScript lines test c).toList := by
  rw [sessionScript, String.toList_append, List.mem_append, not_or]
  exact ⟨noNul_scriptOpening hl, noNul_scriptFinish test hc⟩

/-- The command of a configuration session is three words: `/bin/vbash`,
`-c`, and the session's script, whatever the lines and the comment hold
(but NUL). -/
theorem read_commitScript {lines : List String} {c : String} (test : Bool)
    (hl : ∀ l ∈ lines, '\x00' ∉ l.toList) (hc : '\x00' ∉ c.toList) :
    read (commitScript lines test c) =
      some [.word (plain "/bin/vbash"), .word (plain "-c"), .word (quoted (sessionScript lines test c))] := by
  have hscript := noNul_sessionScript test hl hc
  have hcmd : scan .blank "/bin/vbash -c ".toList =
      some (.blank, [.word (plain "/bin/vbash"), .word (plain "-c")]) := by decide +kernel
  have hnul : '\x00' ∉ (commitScript lines test c).toList := by
    simp only [commitScript, String.toList_append, List.mem_append, not_or]
    exact ⟨by decide +kernel, noNul_shellQuote hscript⟩
  rw [Shell.read, received_of_noNul hnul, commitScript, String.toList_append,
    scan_trans hcmd (scan_shellQuote _)]
  rfl

/-! ### An operational command with `match` -/

theorem mem_of_mem_unquoteShell {c : Char} {s : String} (h : c ∈ (unquoteShell s).toList) :
    c ∈ s.toList := by
  unfold unquoteShell at h
  split at h
  · next q d ds hs =>
    split at h
    · rw [String.toList_ofList] at h
      rw [hs]
      exact List.mem_cons_of_mem q (List.dropLast_subset _ h)
    · exact h
  · exact h

/-- The filter ` match P` trims to `match ` and the pattern less its
trailing blanks, which trims as the pattern does. -/
theorem trim_match {P : String} (hP : ∃ c ∈ P.toList, Text.isSpace c = false) :
    ∃ T, Text.trim (" match " ++ P) = "match " ++ T ∧ Text.trim T = Text.trim P := by
  refine ⟨String.ofList (Text.trimEnd P.toList), ?_, ?_⟩
  · rw [← String.toList_inj, Text.toList_trim, String.toList_append,
      show (" match " : String).toList = ' ' :: "match ".toList from rfl, List.cons_append,
      List.dropWhile_cons, if_pos (by decide),
      show ("match " : String).toList = 'm' :: "atch ".toList from rfl, List.cons_append,
      List.dropWhile_cons, if_neg (by decide), ← List.cons_append, Text.trimEnd_append hP]
    simp
  · -- the pattern is the kept part followed by blanks
    have hP' : P = String.ofList (Text.trimEnd P.toList) ++
        String.ofList (P.toList.reverse.takeWhile Text.isSpace).reverse := by
      rw [← String.toList_inj, String.toList_append, String.toList_ofList, String.toList_ofList,
        Text.trimEnd_append_trailing]
    conv => rhs; rw [hP']
    rw [Text.trim_append_blank]
    intro c hc
    simp only [String.toList_ofList, List.mem_reverse] at hc
    exact Text.isSpace_of_mem_takeWhile hc

theorem cut_pipe {B rest : String} (h : '|' ∉ B.toList) :
    Text.cut (B ++ "|" ++ rest) "|" = some (B, rest) := by
  have hframe : ¬ ['|'] <:+: B.toList ++ ['|'].dropLast := by
    intro hi
    exact h (by simpa using hi.subset (List.mem_singleton_self '|'))
  have hcut : Text.cutChars ['|'] (B.toList ++ '|' :: rest.toList) = some (B.toList, rest.toList) := by
    simpa using Text.cutChars_frame (b := rest.toList) (List.cons_ne_nil '|' []) hframe
  simp [Text.cut, hcut]


/-- The text of `B | match P`: the op-mode command of `B`, a pipe into
`grep -E`, and the pattern without its quotes, quoted for the shell. -/
theorem opCommand_match {B P : String} (hpipe : '|' ∉ B.toList)
    (hP : ∃ c ∈ P.toList, Text.isSpace c = false) :
    opCommand (B ++ " | match " ++ P) =
      opWrapper ++ " " ++ Text.trim B ++ " | grep -E " ++ shellQuote (unquoteShell (Text.trim P)) := by
  obtain ⟨T, hT, hTP⟩ := trim_match hP
  have hsplit : B ++ " | match " ++ P = (B ++ " ") ++ "|" ++ (" match " ++ P) := by
    simp only [String.append_assoc]
    rfl
  have hpipe' : '|' ∉ (B ++ " ").toList := by simp [hpipe]
  have hbase : Text.trim (B ++ " ") = Text.trim B := Text.trim_append_blank _ _ (by simp [Text.isSpace])
  have hstarts : ("match " ++ T).startsWith "match " = true :=
    String.startsWith_string_iff.2 (by simp)
  have hdrop : (("match " ++ T).drop 6).toString = T := by
    rw [← String.toList_inj]
    simp [String.toList_copy_drop]
  rw [opCommand, hsplit, cut_pipe hpipe']
  simp only [hbase, hT, hstarts, if_true, hdrop, hTP]


/-- A shell reads `B | match P` as the words of the op-mode command of `B`,
a pipe, `grep`, `-E` and one word, the pattern trimmed and without its
quotes. -/
theorem read_opCommand_match {B P : String} {ts : List Token} (hpipe : '|' ∉ B.toList)
    (hB : scan .blank (Text.trim B ++ " ").toList = some (.blank, ts))
    (hP : ∃ c ∈ P.toList, Text.isSpace c = false) (hBnul : '\x00' ∉ B.toList)
    (hPnul : '\x00' ∉ P.toList) :
    read (opCommand (B ++ " | match " ++ P)) = some (.word (plain opWrapper) :: ts ++
      [.op "|", .word (plain "grep"), .word (plain "-E"), .word (quoted (unquoteShell (Text.trim P)))]) := by
  have hu : '\x00' ∉ (unquoteShell (Text.trim P)).toList :=
    fun h => hPnul (Text.mem_of_mem_trim (mem_of_mem_unquoteShell h))
  have htB : '\x00' ∉ (Text.trim B).toList := fun h => hBnul (Text.mem_of_mem_trim h)
  have hwrap : scan .blank (opWrapper ++ " ").toList = some (.blank, [.word (plain opWrapper)]) := by
    decide +kernel
  have hgrep : scan .blank "| grep -E ".toList =
      some (.blank, [.op "|", .word (plain "grep"), .word (plain "-E")]) := by decide +kernel
  -- the blank before the pipe ends the words of `B`
  have htext : (opCommand (B ++ " | match " ++ P)).toList = (opWrapper ++ " ").toList ++
      (Text.trim B ++ " ").toList ++ "| grep -E ".toList ++ (shellQuote (unquoteShell (Text.trim P))).toList := by
    rw [opCommand_match hpipe hP]
    simp only [String.toList_append, List.append_assoc]
    rfl
  have hnul : '\x00' ∉ (opCommand (B ++ " | match " ++ P)).toList := by
    have hw : '\x00' ∉ opWrapper.toList := by decide +kernel
    rw [htext]
    simp [hw, htB, noNul_shellQuote hu]
  rw [Shell.read, received_of_noNul hnul, htext,
    scan_trans (scan_trans (scan_trans hwrap hB) hgrep) (scan_shellQuote _)]
  simp [finish]

end NetFleet.Router
