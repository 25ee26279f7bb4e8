import Mathlib
import NetFleet.Proofs.FailClosed

/-!
# Changes of the overlay that do not return

A change of a router's list (`Lists.update`) decodes the document under its key
whatever text is stored there. A missing key, an empty text or a JSON object
decodes; a JSON `null` decodes too, as a document with no lists at all; any
other text (malformed, an array, a scalar) does not, and the change is refused
with a failure of the store, a backend fault (`decodeDocument_ok_iff`).

A `null` document reads as holding no list, yet a list cannot be stored in it:
a change whose step succeeds there crashes (`update_crashed_iff`). Removing an
entry from no list is refused before that point, so only adding can crash, and
adding a non-empty entry into a `null` document always does
(`changes_return_but_null_add`, `add_into_null_crashes`).
-/

namespace NetFleet.Overlay

open NetFleet (Fault)

/-! ### Stored texts that decode -/

/-- A stored text decodes exactly when it is missing or empty, or reads as `null`
or as an object. -/
theorem decodeDocument_ok_iff (key : String) (raw : Option String) :
    (∃ doc, decodeDocument key raw = .ok doc) ↔
      raw = none ∨ raw = some "" ∨
        ∃ text, raw = some text ∧ (Json.parse text = .ok .null ∨ ∃ ms, Json.parse text = .ok (.obj ms)) := by
  unfold decodeDocument
  split
  · simp
  · simp
  · next text hne =>
    -- a non-empty text decodes exactly when it reads as `null` or as an object
    dsimp only
    split <;> simp_all

/-- A stored text decodes to the document `null` exactly when it reads as `null`. -/
theorem decodeDocument_eq_null_iff (key : String) (raw : Option String) :
    decodeDocument key raw = .ok none ↔ ∃ text, raw = some text ∧ Json.parse text = .ok .null := by
  unfold decodeDocument
  split
  · simp
  · -- the empty text is no JSON value
    have h : Json.parse "" ≠ .ok .null := by
      have hb : (Json.parse "").toBool = false := by decide +kernel
      intro h
      rw [h] at hb
      cases hb
    simpa using h
  · dsimp only
    split <;> simp_all

/-! ### Crashes -/

variable {o : Lists} {st : Store} {key : String} {step : List String → Except Fault (List String)}

/-- A change crashes exactly when the store takes updates, the document under the
key is `null`, and the step succeeds on the empty list that it reads as. -/
theorem update_crashed_iff :
    o.update st key step = .crashed ↔
      st.updateError = none ∧ decodeDocument key (st.lookup key) = .ok none ∧ ∃ es, step [] = .ok es := by
  unfold Lists.update
  cases hu : st.updateError with
  | some e => simp
  | none =>
    rcases hd : decodeDocument key (st.lookup key) with f | doc
    · simp
    · cases doc with
      | none =>
        -- a `null` document holds no list, so the step sees the empty one
        have hl : Document.list none o.router = none := rfl
        simp only [hl, Option.getD_none]
        rcases step [] with f | es <;> simp
      | some ms =>
        simp only [reduceCtorEq, Except.ok.injEq, false_and, and_false, iff_false]
        split <;> simp

/-- Removing an entry never crashes: from the empty list it is refused. -/
theorem remove_ne_crashed (o : Lists) (st : Store) (key entry : String) :
    o.remove st key entry ≠ .crashed := by
  unfold Lists.remove
  split
  · simp
  · rw [Ne, update_crashed_iff]
    simp

/-- Adding an entry crashes exactly when it is not empty, the store takes updates,
and the document under the key is `null`. -/
theorem add_crashed_iff (o : Lists) (st : Store) (key entry : String) :
    o.add st key entry = .crashed ↔
      entry ≠ "" ∧ st.updateError = none ∧ decodeDocument key (st.lookup key) = .ok none := by
  unfold Lists.add
  split
  · next h =>
    have he : entry = "" := by
      simp only [checkEntry] at h
      split at h
      · assumption
      · cases h
    simp [he]
  · next h =>
    have he : entry ≠ "" := by
      simp only [checkEntry] at h
      split at h
      · cases h
      · assumption
    rw [update_crashed_iff]
    simp [he]

/-! ### Store failures are backend faults -/

/-- A failure of the store is answered with the kind of a backend fault. -/
theorem StoreFailure.kind {f : Fault} (h : StoreFailure f) : f.kind = "BackendError" := by
  obtain ⟨msg, rfl | ⟨ctx, rfl⟩⟩ := h <;>
    simp [Fault.kind, storeFault, Fault.within, Fault.validation?, Fault.precondition?,
      Fault.columnNotFound?, Fault.hasMethod, Fault.hasBackend]

/-- **Overlay changes return, but for adding into `null`.** Whatever text is stored
under the key, removing a non-empty entry returns a list or a fault, and so does
adding one, unless the store takes updates and the text reads as `null`: then
adding crashes. A stored text that is not empty, `null` or an object (malformed
text, an array, a scalar) makes both refuse with a backend fault. -/
theorem changes_return_but_null_add (o : Lists) (st : Store) (key entry : String) (he : entry ≠ "") :
    o.remove st key entry ≠ .crashed ∧
      (o.add st key entry = .crashed ↔
        st.updateError = none ∧ ∃ text, st.lookup key = some text ∧ Json.parse text = .ok .null) ∧
      ∀ text, st.lookup key = some text → text ≠ "" →
        (∀ j, Json.parse text = .ok j → j ≠ .null ∧ ∀ ms, j ≠ .obj ms) →
        ∀ c ∈ [o.add st key entry, o.remove st key entry],
          ∃ f, c = .refused none f ∧ f.kind = "BackendError" := by
  refine ⟨remove_ne_crashed o st key entry, ?_, ?_⟩
  · rw [add_crashed_iff, decodeDocument_eq_null_iff]
    simp [he]
  · intro text hl hne hj c hc
    -- the text does not decode, so the store cannot be written under the key
    have hw : ¬ st.Writable key := by
      rintro ⟨-, doc, hd⟩
      rcases (decodeDocument_ok_iff key _).1 ⟨doc, hd⟩ with h | h | ⟨t, ht, hp⟩
      · rw [hl] at h; cases h
      · rw [hl] at h; cases h; exact hne rfl
      · rw [hl] at ht
        cases ht
        rcases hp with hp | ⟨ms, hp⟩
        · exact (hj _ hp).1 rfl
        · exact (hj _ hp).2 ms rfl
    obtain ⟨disable, rfl⟩ : ∃ disable, c = o.mark st key entry disable := by
      simp only [List.mem_cons, List.not_mem_nil, or_false] at hc
      rcases hc with rfl | rfl
      · exact ⟨true, rfl⟩
      · exact ⟨false, rfl⟩
    obtain ⟨f, hc, hf⟩ := mark_unwritable o disable he hw
    exact ⟨f, hc, hf.kind⟩

/-- A document that does not read, like `[1]`, is refused with a backend fault. -/
theorem array_document_refused :
    Json.parse "[1]" = .ok (.arr [.num "1"]) ∧
      ∃ f, (Lists.mk "SIN1").add { data := [(ethernetKey, "[1]")] } ethernetKey "eth0" = .refused none f ∧
        f.kind = "BackendError" := by
  have hp : Json.parse "[1]" = .ok (.arr [.num "1"]) := by cbv
  refine ⟨hp, ?_⟩
  obtain ⟨-, -, h⟩ := changes_return_but_null_add (Lists.mk "SIN1") { data := [(ethernetKey, "[1]")] }
    ethernetKey "eth0" (by decide)
  refine h "[1]" rfl (by decide) (fun j hj => ?_) _ (by simp)
  rw [hp] at hj
  cases hj
  exact ⟨by simp, by simp⟩

/-- Adding an entry into a document stored as `null` crashes. -/
theorem add_into_null_crashes :
    (Lists.mk "SIN1").add { data := [(ethernetKey, "null")] } ethernetKey "eth0" = .crashed := by
  cbv

end NetFleet.Overlay
