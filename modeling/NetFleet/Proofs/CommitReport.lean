import NetFleet.Proofs.SessionScript

/-!
# The commit report against the script's decision

A session decides twice whether anything changed. The script's `case`
statement looks at the difference `d` as the shell holds it, and commits
unless `d` is empty or begins with `No changes` (`unchangedDiff d`). The
report reads the same difference back from the session's output, between
the two markers, trims its white space, and reports a change unless the
trimmed text is unchanged in the same sense (`parseCommit_sessionOutput`).

The two agree in one direction: a reported change was committed
(`unchangedDiff_trim`). They part exactly on a difference that begins with
white space and trims to nothing or to `No changes…`: the script commits it
and the report says the router was already configured
(`changed_unreported_iff`).
-/

namespace NetFleet.Router

open NetFleet.Shell

/-- The output of a session: text before the markers, the difference printed
between them on lines of its own, and text after them. -/
def sessionOutput (pre d post : String) : String :=
  pre ++ diffStart ++ "\n" ++ d ++ "\n" ++ diffEnd ++ "\n" ++ post

/-! ### Reading the difference back -/

theorem cut_sessionOutput {pre d post : String} (hpre : ¬ (diffStart ++ "\n").toList <:+: pre.toList) :
    Text.cut (sessionOutput pre d post) (diffStart ++ "\n") = some (pre, d ++ "\n" ++ diffEnd ++ "\n" ++ post) := by
  have hsep : (diffStart ++ "\n").toList = diffStart.toList ++ ['\n'] := by simp
  have hx : '\n' ∉ diffStart.toList := by decide +kernel
  -- the start marker's line end stands nowhere else in it
  have hframe := Text.not_infix_of_last hx (hsep ▸ hpre)
  rw [← hsep] at hframe
  have hcut := Text.cutChars_frame (b := (d ++ "\n" ++ diffEnd ++ "\n" ++ post).toList) (by simp) hframe
  have htext : (sessionOutput pre d post).toList =
      pre.toList ++ (diffStart ++ "\n").toList ++ (d ++ "\n" ++ diffEnd ++ "\n" ++ post).toList := by
    simp [sessionOutput]
  rw [Text.cut, if_neg (by decide +kernel), htext, hcut]
  simp [String.append_assoc]

theorem cut_diffEnd {d rest : String} (hd : ¬ diffEnd.toList <:+: d.toList) :
    Text.cut (d ++ "\n" ++ diffEnd ++ rest) diffEnd = some (d ++ "\n", rest) := by
  have hx : '\n' ∉ diffEnd.toList := by decide +kernel
  -- the difference's line end stands nowhere in the end marker
  have hframe := Text.not_infix_of_stop hx hd
  have hcut := Text.cutChars_frame (b := rest.toList) (by decide +kernel) hframe
  have htext : (d ++ "\n" ++ diffEnd ++ rest).toList = d.toList ++ ['\n'] ++ diffEnd.toList ++ rest.toList := by
    simp
  rw [Text.cut, if_neg (by decide +kernel), htext, hcut]
  simp

/-- The report of a session's output is decided on its difference, trimmed. -/
theorem parseCommit_sessionOutput {pre d post : String} (test : Bool)
    (hpre : ¬ (diffStart ++ "\n").toList <:+: pre.toList) (hd : ¬ diffEnd.toList <:+: d.toList) :
    parseCommit (sessionOutput pre d post) test =
      if unchangedDiff (Text.trim d) then { comment := "Already configured.", alreadyConfigured := true, diff := "" }
      else
        { comment := if test then "Configuration discarded." else "Configuration changed!"
          diff := Text.trim d } := by
  have htrim : Text.trim (d ++ "\n") = Text.trim d := Text.trim_append_blank _ _ (by simp [Text.isSpace])
  have hrest : d ++ "\n" ++ diffEnd ++ "\n" ++ post = d ++ "\n" ++ diffEnd ++ ("\n" ++ post) := by
    simp [String.append_assoc]
  simp only [parseCommit, cut_sessionOutput hpre, hrest, cut_diffEnd hd, htrim]
  by_cases hs : (Text.trim d).startsWith "No changes" <;> by_cases he : Text.trim d = "" <;>
    cases test <;> simp [hs, he, unchangedDiff]

/-! ### Where the two decisions part -/

theorem unchangedDiff_iff (s : String) :
    unchangedDiff s = true ↔ s = "" ∨ "No changes".toList <+: s.toList := by
  simp [unchangedDiff, String.startsWith_string_iff]

/-- Trimming keeps the text of a difference that begins with a character
other than white space, less its trailing white space. -/
theorem toList_trim_of_head {d : String} {x : Char} {rest : List Char} (hd : d.toList = x :: rest)
    (hx : Text.isSpace x = false) : (Text.trim d).toList = Text.trimEnd d.toList := by
  rw [Text.toList_trim, hd, List.dropWhile_cons_of_neg (by simp [hx])]

/-- An unchanged difference is unchanged once trimmed: the report never calls
changed what the script discarded. -/
theorem unchangedDiff_trim {d : String} (h : unchangedDiff d = true) : unchangedDiff (Text.trim d) = true := by
  rcases (unchangedDiff_iff d).1 h with rfl | ⟨r, hr⟩
  · rfl
  · rw [unchangedDiff_iff]
    right
    rw [toList_trim_of_head (hr.symm.trans (List.cons_append ..)) (by decide), ← hr]
    exact Text.prefix_trimEnd (y := 's') (by decide +kernel) (by decide)

/-- A difference that begins with a character other than white space is
changed once trimmed when it is changed. -/
theorem changed_trim_of_head {d : String} {x : Char} {rest : List Char} (hd : d.toList = x :: rest)
    (hx : Text.isSpace x = false) (h : unchangedDiff d = false) : unchangedDiff (Text.trim d) = false := by
  have htrim := toList_trim_of_head hd hx
  have hne : Text.trimEnd d.toList ≠ [] := Text.trimEnd_ne_nil ⟨x, by simp [hd], hx⟩
  rw [← Bool.not_eq_true, unchangedDiff_iff]
  rintro (he | hp)
  · exact hne (by rw [← htrim, he]; rfl)
  · rw [htrim] at hp
    have := (unchangedDiff_iff d).2 (Or.inr (hp.trans (Text.trimEnd_prefix_self _)))
    simp [h] at this

/-- The script commits and the report calls the router already configured
exactly when the difference begins with white space and trims to an
unchanged one. -/
theorem changed_unreported_iff (d : String) :
    (unchangedDiff d = false ∧ unchangedDiff (Text.trim d) = true) ↔
      (∃ x rest, d.toList = x :: rest ∧ Text.isSpace x = true) ∧ unchangedDiff (Text.trim d) = true := by
  constructor
  · rintro ⟨hd, ht⟩
    refine ⟨?_, ht⟩
    rcases hcs : d.toList with _ | ⟨x, rest⟩
    · have : d = "" := String.toList_inj.1 (by simpa using hcs)
      simp [this, unchangedDiff] at hd
    · cases hx : Text.isSpace x
      · simp [changed_trim_of_head hcs hx hd] at ht
      · exact ⟨x, rest, rfl, hx⟩
  · rintro ⟨⟨x, rest, hcs, hx⟩, ht⟩
    refine ⟨?_, ht⟩
    rw [← Bool.not_eq_true, unchangedDiff_iff]
    rintro (he | hp)
    · simp [he] at hcs
    · -- the difference would begin with `N`, which is no white space
      obtain ⟨t, ht⟩ := hp
      rw [hcs, show "No changes".toList = 'N' :: "o changes".toList from rfl, List.cons_append,
        List.cons.injEq] at ht
      rw [← ht.1] at hx
      exact absurd hx (by decide)

/-! ### The two decisions -/

/-- The script's `case` statement and the report decide on one difference
`d`: the script commits unless `d` is unchanged, the report calls it a change
unless `d` trimmed is unchanged. A reported change was committed; a commit
goes unreported exactly when `d` begins with white space and trims to an
unchanged difference. -/
theorem script_and_report_decisions (c d pre post : String) (env : String → String)
    (hc : '\x00' ∉ c.toList) (henv : env "diff" = d)
    (hpre : ¬ (diffStart ++ "\n").toList <:+: pre.toList) (hd : ¬ diffEnd.toList <:+: d.toList) :
    caseRuns env (scriptFinish false c) = some (if unchangedDiff d then discardCommand else commitCommand c) ∧
    parseCommit (sessionOutput pre d post) false =
      (if unchangedDiff (Text.trim d) then
        { comment := "Already configured.", alreadyConfigured := true, diff := "" }
      else { comment := "Configuration changed!", diff := Text.trim d }) ∧
    (unchangedDiff d = true → unchangedDiff (Text.trim d) = true) ∧
    ((unchangedDiff d = false ∧ unchangedDiff (Text.trim d) = true) ↔
      (∃ x rest, d.toList = x :: rest ∧ Text.isSpace x = true) ∧ unchangedDiff (Text.trim d) = true) := by
  refine ⟨?_, ?_, unchangedDiff_trim, changed_unreported_iff d⟩
  · rw [caseRuns_scriptFinish hc, henv]
  · rw [parseCommit_sessionOutput false hpre hd]
    rfl

theorem script_and_report_decisions_at_blank :
    ('\x00' ∉ "x".toList ∧ ¬ (diffStart ++ "\n").toList <:+: "".toList ∧ ¬ diffEnd.toList <:+: " ".toList) ∧
    caseRuns (fun _ => " ") (scriptFinish false "x") =
      some (if unchangedDiff " " then discardCommand else commitCommand "x") ∧
    parseCommit (sessionOutput "" " " "") false =
      (if unchangedDiff (Text.trim " ") then
        { comment := "Already configured.", alreadyConfigured := true, diff := "" }
      else { comment := "Configuration changed!", diff := Text.trim " " }) := by
  have hpre : ¬ (diffStart ++ "\n").toList <:+: "".toList := by simp
  have hd : ¬ diffEnd.toList <:+: " ".toList := fun h => absurd h.length_le (by decide +kernel)
  have h := script_and_report_decisions "x" " " "" "" (fun _ => " ") (by decide) rfl hpre hd
  exact ⟨⟨by decide, hpre, hd⟩, h.1, h.2.1⟩

/-- A difference of one blank: the script commits it, and the report says
the router was already configured. -/
theorem blank_diff_committed_unreported :
    caseRuns (fun _ => " ") (scriptFinish false "x") = some (commitCommand "x") ∧
    (parseCommit (sessionOutput "" " " "") false).alreadyConfigured = true := by
  constructor
  · rw [caseRuns_scriptFinish (by decide)]
    decide +kernel
  · decide +kernel

end NetFleet.Router
