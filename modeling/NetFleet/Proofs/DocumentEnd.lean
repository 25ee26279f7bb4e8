import Mathlib
import NetFleet.Proofs.ColumnEntry

/-!
# Where a column document ends

A column document is read as the first JSON value of its text; what follows that
value is looked at only for whether the stream goes on (`Json.moreAfter`): blanks,
and a closing bracket or brace after them, do not count as more. Every fault of
reading a document is a validation fault (`decode_fault_validation`). So:

* an accepted text is one value with blanks around it, followed by nothing or by a
  closing bracket or brace and whatever comes after that;
* a text whose first value is followed, after blanks, by anything else is refused
  with a validation fault (`decode_reads_one_value`);
* a closing bracket after the document is passed over: `{"column":{}}]` is an
  accepted firewall document (`closing_bracket_after_document_accepted`).
-/

namespace NetFleet.Column.Document

open Json

variable {k : Kind} {text : String}

/-! ### Faults -/

/-- Every fault of preparing a document is a validation fault. -/
theorem prepare_fault_validation {f : Fault} (h : prepare k text = .error f) :
    ∃ msgs, f = .validation msgs := by
  unfold prepare at h
  simp only [bind, Except.bind, pure, Except.pure, throw, throwThe, MonadExceptOf.throw] at h
  repeat' split at h
  all_goals first | (cases h; exact ⟨_, rfl⟩) | cases h

/-- Every fault of reading a document is a validation fault. -/
theorem decode_fault_validation {f : Fault} (h : decode k text = .error f) : ∃ msgs, f = .validation msgs := by
  simp only [decode, decodeIn, bind, Except.bind] at h
  split at h
  · cases h
    exact prepare_fault_validation ‹_›
  · unfold checkRules at h
    split at h
    · cases h
    · cases h
      exact ⟨_, rfl⟩

/-! ### What follows the first value -/

/-- The first value of a stream, read from the text of that value after blanks. -/
theorem parseFirst_sound {s : String} {v : Json} {rest : List Char} (h : parseFirst s = .ok (v, rest)) :
    ∃ ws c, s.toList = ws ++ c ++ rest ∧ Blanks ws ∧ Text c v := by
  simp only [parseFirst] at h
  split at h
  · cases h
  · obtain ⟨ws, c, hs, hws, hc, -⟩ := readValue_sound (Nat.zero_le _) h
    exact ⟨ws, c, hs, hws, hc⟩

/-- The stream goes on after its first value unless blanks, and then nothing or a
closing bracket or brace, follow it. -/
theorem moreAfter_eq_false_iff (rest : List Char) :
    moreAfter rest = false ↔ ∃ ws tail, rest = ws ++ tail ∧ Blanks ws ∧
      (tail = [] ∨ tail.head? = some ']' ∨ tail.head? = some '}') := by
  obtain ⟨ws, hws, hrest, hhead⟩ := skipBlanks_spec rest
  constructor
  · intro h
    refine ⟨ws, skipBlanks rest, hrest, hws, ?_⟩
    unfold moreAfter at h
    split at h
    · exact .inl ‹_›
    · next x t hx =>
      rw [hx]
      simp only [Bool.and_eq_false_iff, decide_eq_false_iff_not, not_not] at h
      simpa using h
  · rintro ⟨ws', tail, rfl, hws', htail⟩
    unfold moreAfter
    rw [skipBlanks_append hws']
    rcases htail with rfl | htail | htail
    · rfl
    all_goals
      cases tail with
      | nil => cases htail
      | cons x t =>
        simp only [List.head?_cons, Option.some.injEq] at htail
        subst htail
        simp [skipBlanks, isBlank]

/-- A first value followed by more is refused, if nothing before refused it. -/
theorem prepare_of_moreAfter {j : Json} {rest : List Char} (hp : parseFirst text = .ok (j, rest))
    (hm : moreAfter rest = true) : ∃ f, prepare k text = .error f := by
  unfold prepare
  simp only [hp, bind, Except.bind, pure, Except.pure, throw, throwThe, MonadExceptOf.throw]
  split
  · exact ⟨_, rfl⟩
  · split
    · rw [if_pos hm]
      exact ⟨_, rfl⟩
    · exact ⟨_, rfl⟩

theorem prepare_of_parseFirst_error {e : SyntaxError} (hp : parseFirst text = .error e) :
    prepare k text = .error (invalid e.streamMessage) := by
  simp [prepare, hp, bind, Except.bind, throw, throwThe, MonadExceptOf.throw]

theorem decode_of_prepare_error {f : Fault} (h : prepare k text = .error f) : decode k text = .error f := by
  simp [decode, decodeIn, h, bind, Except.bind]

/-- A document that is accepted had its first value followed by nothing more. -/
theorem prepare_ok {node : Schema.Node} (h : prepare k text = .ok node) :
    ∃ j rest, parseFirst text = .ok (j, rest) ∧ moreAfter rest = false := by
  rcases hp : parseFirst text with e | ⟨j, rest⟩
  · rw [prepare_of_parseFirst_error hp] at h
    cases h
  · refine ⟨j, rest, rfl, ?_⟩
    by_contra hm
    obtain ⟨f, hf⟩ := prepare_of_moreAfter hp (by simpa using hm)
    rw [hf] at h
    cases h

/-! ### The text of an accepted document -/

/-- An accepted document is the text of one value with blanks around it, followed
by nothing or by a closing bracket or brace; a first value followed, after
blanks, by any other character is refused with a validation fault. -/
theorem decode_reads_one_value (k : Kind) (text : String) :
    (∀ d, decode k text = .ok d → ∃ ws c v ws' tail, text.toList = ws ++ c ++ ws' ++ tail ∧
      Blanks ws ∧ Text c v ∧ Blanks ws' ∧ (tail = [] ∨ tail.head? = some ']' ∨ tail.head? = some '}')) ∧
    (∀ ws c v ws' x r, text.toList = ws ++ c ++ ws' ++ x :: r → Blanks ws → Text c v → Blanks ws' →
      Follows (ws' ++ x :: r) → isBlank x = false → x ≠ ']' → x ≠ '}' →
        ∃ msgs, decode k text = .error (.validation msgs)) := by
  constructor
  · intro d h
    simp only [decode, decodeIn, bind, Except.bind] at h
    split at h
    · cases h
    next node hn =>
    obtain ⟨j, rest, hp, hm⟩ := prepare_ok hn
    obtain ⟨ws, c, htext, hws, hc⟩ := parseFirst_sound hp
    obtain ⟨ws', tail, rfl, hws', htail⟩ := (moreAfter_eq_false_iff rest).1 hm
    exact ⟨ws, c, j, ws', tail, by simp [htext], hws, hc, hws', htail⟩
  · intro ws c v ws' x r htext hws hc hws' hfollow hx hx₁ hx₂
    -- the text is refused somewhere; every refusal is a validation fault
    suffices hf : ∃ f, decode k text = .error f by
      obtain ⟨f, hf⟩ := hf
      obtain ⟨msgs, rfl⟩ := decode_fault_validation hf
      exact ⟨msgs, hf⟩
    have hs : text = String.ofList (ws ++ c ++ (ws' ++ x :: r)) := by
      rw [← List.append_assoc, ← htext, String.ofList_toList]
    rcases Nat.lt_or_ge maxDepth (height v) with hdeep | hfit
    · rw [hs] at ⊢
      exact ⟨_, decode_of_parseFirst_error (parseFirst_tooDeep hws hc _ hdeep)⟩
    · have hp : parseFirst text = .ok (v, ws' ++ x :: r) := by
        rw [hs]
        exact parseFirst_text hws hc hfollow hfit
      have hm : moreAfter (ws' ++ x :: r) = true := by
        simp [moreAfter, skipBlanks_append hws', skipBlanks_cons hx, hx₁, hx₂]
      obtain ⟨f, hf⟩ := prepare_of_moreAfter (k := k) hp hm
      exact ⟨f, decode_of_prepare_error hf⟩

/-- A letter after a firewall document gets the document refused with a validation
fault. -/
theorem letter_after_document_refused :
    ∃ msgs, decode .firewall "\x7b\"column\":\x7b\x7d\x7d x" = .error (.validation msgs) := by
  have hp : parseFirst "\x7b\"column\":\x7b\x7d\x7d x" = .ok (.obj [("column", .obj [])], [' ', 'x']) := by
    with_unfolding_all rfl
  obtain ⟨ws, c, htext, hws, hc⟩ := parseFirst_sound hp
  exact (decode_reads_one_value .firewall _).2 ws c _ [' '] 'x' [] (by rw [htext]; simp) hws hc
    (by simp [Blanks, isBlank]) (follows_cons (by decide)) (by decide) (by decide) (by decide)

/-- A closing bracket after a firewall document is passed over, and the document
is accepted. -/
theorem closing_bracket_after_document_accepted :
    parseFirst "\x7b\"column\":\x7b\x7d\x7d]" = .ok (.obj [("column", .obj [])], [']']) ∧
      (decode .firewall "\x7b\"column\":\x7b\x7d\x7d]").isOk :=
  ⟨by with_unfolding_all rfl, by decide +kernel⟩

end NetFleet.Column.Document
