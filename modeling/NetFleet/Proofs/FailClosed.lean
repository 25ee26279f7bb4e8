import Mathlib
import NetFleet.Proofs.Overlay

/-!
# Overlay writes fail closed

A change of a router's list reads the document under one key and, when it goes
through, writes that key's document back whole (`Lists.update`). So a change
that is refused writes nothing, and one that is written replaces the value under
its key and no other (`Store.lookup_set`, `mark_confined`).

An empty entry is refused before the store is touched. Any other change is
refused with a failure of the store itself (`StoreFailure`) when the store
cannot be written under the key: updates fail, or the document there does not
read (`Store.Writable`). The envelopes answer such a failure as an error of the
system, never as a refusal; the reads answer the same way when the store cannot
be read (`Store.Readable`), so an unreadable overlay is never reported as holding
or lacking an entry. Main statement: `writes_fail_closed`.
-/

namespace NetFleet.Overlay

open NetFleet (Fault Reply)

/-! ### The store -/

namespace Store

/-- Replacing the value of `key` in place keeps every other member. -/
theorem find?_replace (l : List (String × String)) (key value k : String) :
    ((l.map fun (k', v) => if k' = key then (k', value) else (k', v)).find? (·.1 = k)).map (·.2) =
      if k = key then (l.find? (·.1 = key)).map (fun _ => value) else (l.find? (·.1 = k)).map (·.2) := by
  induction l with
  | nil => simp
  | cons p l ih =>
    obtain ⟨k', v⟩ := p
    by_cases h1 : k' = key <;> by_cases h2 : k = key <;> by_cases h3 : k' = k <;> simp_all

/-- Setting a key changes the value under that key only. -/
theorem lookup_set (s : Store) (key value k : String) :
    (s.set key value).lookup k = if k = key then some value else s.lookup k := by
  unfold set lookup
  split
  · next h =>
    -- the key is there: its member is replaced in place
    rw [find?_replace]
    split
    · rw [Option.isSome_map] at h
      obtain ⟨p, hp⟩ := Option.isSome_iff_exists.1 h
      simp [hp]
    · rfl
  · next h =>
    -- a new key goes last, after every member it could shadow
    have hnone : s.data.find? (·.1 = key) = none := by
      simpa only [Option.isSome_map, Bool.not_eq_true, Option.isSome_eq_false_iff,
        Option.isNone_iff_eq_none] using h
    rw [List.find?_append]
    by_cases hk : k = key
    · subst hk
      simp [hnone]
    · simp [hk, Ne.symm hk]

@[simp] theorem set_getError (s : Store) (key value : String) : (s.set key value).getError = s.getError := by
  unfold set; split <;> rfl

@[simp] theorem set_updateError (s : Store) (key value : String) :
    (s.set key value).updateError = s.updateError := by
  unfold set; split <;> rfl

/-- The document under `key` reads. -/
def Decodes (st : Store) (key : String) : Prop :=
  ∃ doc, decodeDocument key (st.lookup key) = .ok doc

/-- Changes can be written under `key`: updates do not fail and the document
there reads. -/
def Writable (st : Store) (key : String) : Prop := st.updateError = none ∧ st.Decodes key

/-- Lists can be read under `key`: reads do not fail and the document there reads. -/
def Readable (st : Store) (key : String) : Prop := st.getError = none ∧ st.Decodes key

end Store

/-! ### Failures of the store -/

/-- A failure of the store itself: it failed with a message, or a document under
a key did not read. -/
def StoreFailure (f : Fault) : Prop :=
  ∃ msg, f = storeFault (.plain msg) ∨ ∃ ctx, f = storeFault (.within ctx (.plain msg))

/-- A failure of the store is a backend failure and has no other cause. -/
theorem StoreFailure.isA {f : Fault} (h : StoreFailure f) (s : Sentinel) : f.isA s = (s == .backend) := by
  obtain ⟨msg, rfl | ⟨ctx, rfl⟩⟩ := h <;> simp [storeFault, Fault.within, Fault.isA]

/-- Every reply to a failed operation is a failure. -/
theorem ofFault_some_result (f : Fault) : (Reply.ofFault (some f)).result = false := by
  simp only [Reply.ofFault]
  split
  · rfl
  · split
    · rfl
    · split <;> rfl

/-- A failure of the store is answered as an error of the system. -/
theorem StoreFailure.reply {f : Fault} (h : StoreFailure f) :
    (Reply.ofFault (some f)).result = false ∧ (Reply.ofFault (some f)).error = true := by
  refine ⟨ofFault_some_result f, ?_⟩
  obtain ⟨msg, rfl | ⟨ctx, rfl⟩⟩ := h <;>
    simp [Reply.ofFault, storeFault, Fault.within, Fault.isA, Fault.precondition?, Fault.columnNotFound?]

/-- A document that does not read is a failure of the store. -/
theorem decodeDocument_error {key : String} {raw : Option String} {f : Fault}
    (h : decodeDocument key raw = .error f) : StoreFailure f := by
  simp only [decodeDocument] at h
  split at h
  · cases h
  · cases h
  · split at h
    · cases h
      exact ⟨_, .inr ⟨_, rfl⟩⟩
    · cases h
    · cases h
    · cases h
      exact ⟨_, .inr ⟨_, rfl⟩⟩

/-! ### Changes -/

variable {o : Lists} {st : Store} {key : String} {step : List String → Except Fault (List String)}

/-- A change is written, if at all, from a store that can be written under its
key, and it replaces the document there. -/
theorem update_written {es : List String} {st' : Store} (h : o.update st key step = .applied es st') :
    st.Writable key ∧ ∃ text, st' = st.set key text := by
  unfold Lists.update at h
  cases hu : st.updateError with
  | some e => simp [hu] at h
  | none =>
    rcases hd : decodeDocument key (st.lookup key) with f | doc
    · simp [hu, hd] at h
    · refine ⟨⟨hu, doc, hd⟩, ?_⟩
      simp only [hu, hd] at h
      split at h
      · cases h
      · split at h
        · cases h
        · cases h
          exact ⟨_, rfl⟩

/-- A change under a key that the store cannot write is refused with a failure
of the store, before any list is read. -/
theorem update_unwritable (h : ¬ st.Writable key) :
    ∃ f, o.update st key step = .refused none f ∧ StoreFailure f := by
  unfold Lists.update
  cases hu : st.updateError with
  | some e => exact ⟨_, rfl, _, .inl rfl⟩
  | none =>
    rcases hd : decodeDocument key (st.lookup key) with f | doc
    · exact ⟨f, rfl, decodeDocument_error hd⟩
    · exact absurd ⟨hu, doc, hd⟩ h

/-- A mark of an empty entry is refused before the store is touched; any other
is a change of the list under the key. -/
theorem mark_cases (o : Lists) (st : Store) (key entry : String) (disable : Bool) :
    (entry = "" ∧ o.mark st key entry disable = .refused none (.validation ["entry: must not be empty"])) ∨
      (entry ≠ "" ∧ ∃ step, o.mark st key entry disable = o.update st key step) := by
  by_cases he : entry = ""
  · subst he
    left
    cases disable <;> simp [Lists.mark, Lists.add, Lists.remove, checkEntry]
  · right
    refine ⟨he, ?_⟩
    cases disable <;> simp [Lists.mark, Lists.add, Lists.remove, checkEntry, he]

/-- A mark changes the value under its key and no other, and only when it is
written; the faults the store reports are kept. -/
theorem mark_confined (o : Lists) (st : Store) (key entry : String) (disable : Bool) :
    let c := o.mark st key entry disable
    (c.store st).getError = st.getError ∧ (c.store st).updateError = st.updateError ∧
      ∀ k, (c.store st).lookup k ≠ st.lookup k → k = key ∧ ∃ es st', c = .applied es st' := by
  intro c
  rcases hc : c with ⟨es, st'⟩ | ⟨es, f⟩ | _
  · -- a written mark is a change of the list under the key
    obtain ⟨step, hstep⟩ : ∃ step, c = o.update st key step := by
      rcases mark_cases o st key entry disable with ⟨-, h⟩ | ⟨-, h⟩
      · exact absurd (h.symm.trans hc) (by simp)
      · exact h
    obtain ⟨-, text, rfl⟩ := update_written (hstep.symm.trans hc)
    refine ⟨by simp [Change.store], by simp [Change.store], fun k hk => ⟨?_, es, _, rfl⟩⟩
    by_contra hne
    simp [Change.store, Store.lookup_set, hne] at hk
  · simp [Change.store]
  · simp [Change.store]

/-- A mark that is written came from a store that could be written. -/
theorem mark_written {disable : Bool} {entry : String} {es : List String} {st' : Store}
    (h : o.mark st key entry disable = .applied es st') : st.Writable key := by
  rcases mark_cases o st key entry disable with ⟨-, h'⟩ | ⟨-, step, h'⟩
  · rw [h'] at h; cases h
  · rw [h'] at h; exact (update_written h).1

/-- A mark of a non-empty entry under a key that the store cannot write is
refused with a failure of the store. -/
theorem mark_unwritable (o : Lists) (disable : Bool) {entry : String} (he : entry ≠ "")
    (h : ¬ st.Writable key) : ∃ f, o.mark st key entry disable = .refused none f ∧ StoreFailure f := by
  rcases mark_cases o st key entry disable with ⟨he', -⟩ | ⟨-, step, h'⟩
  · exact absurd he' he
  · rw [h']; exact update_unwritable h

/-! ### Envelopes -/

/-- An envelope of a change fails closed: it is a success exactly when the change
was written, and a change of a non-empty entry that the store cannot write is
answered as an error. -/
def ChangeFailsClosed (st : Store) (key entry : String) (x : Change × Option Reply) : Prop :=
  (∀ r, x.2 = some r → (r.result = true ↔ ∃ es st', x.1 = .applied es st')) ∧
    (entry ≠ "" → ¬ st.Writable key → ∃ r, x.2 = some r ∧ r.result = false ∧ r.error = true)

/-- An envelope of a read fails closed: it is a success only when the store
could be read, and an error whenever it could not. -/
def ReadFailsClosed (st : Store) (key : String) (r : Reply) : Prop :=
  (r.result = true → st.Readable key) ∧ (¬ st.Readable key → r.result = false ∧ r.error = true)

/-- The reply to a change succeeds exactly when the change was written. -/
theorem reply_result {c : Change} {done refusal : String} {refused : Sentinel} {r : Reply}
    (h : c.reply done refusal refused = some r) : r.result = true ↔ ∃ es st', c = .applied es st' := by
  cases c with
  | applied es st' =>
    simp only [Change.reply, Option.some.injEq] at h
    subst h
    simp [Reply.ok]
  | refused es f =>
    simp only [Change.reply, Option.some.injEq] at h
    subst h
    split <;> simp [Reply.fail, ofFault_some_result]
  | crashed => simp [Change.reply] at h

/-- A change refused by a failure of the store is answered as an error, whichever
refusal the envelope names. -/
theorem reply_storeFailure (es : Option (List String)) {f : Fault} (hf : StoreFailure f)
    (done refusal : String) {refused : Sentinel} (hr : refused ≠ .backend) :
    ∃ r, (Change.refused es f).reply done refusal refused = some r ∧ r.result = false ∧ r.error = true := by
  have hnot : f.isA refused = false := by simp [hf.isA, hr]
  exact ⟨_, by simp [Change.reply, hnot], hf.reply⟩

theorem markEntry_fails_closed (o : Lists) (st : Store) (key entry : String) (disable : Bool)
    {done refusal : String} {refused : Sentinel} (hr : refused ≠ .backend) :
    ChangeFailsClosed st key entry
      (o.mark st key entry disable, (o.mark st key entry disable).reply done refusal refused) := by
  refine ⟨fun r h => reply_result h, fun he hw => ?_⟩
  obtain ⟨f, hc, hf⟩ := mark_unwritable o disable he hw
  rw [hc]
  exact reply_storeFailure none hf done refusal hr

/-- A list that reads came from a readable store; one that does not, from an
unreadable store, is a failure of the store. -/
theorem entries_readable (o : Lists) (st : Store) (key : String) :
    (∀ x, o.entries st key = .ok x → st.Readable key) ∧
      (¬ st.Readable key → ∃ f, o.entries st key = .error f ∧ StoreFailure f) := by
  unfold Lists.entries loadDocument Store.get
  cases hg : st.getError with
  | some e =>
    refine ⟨fun x h => ?_, fun _ => ⟨_, rfl, _, .inl rfl⟩⟩
    cases h
  | none =>
    rcases hd : decodeDocument key (st.lookup key) with f | doc
    · refine ⟨fun x h => ?_, fun _ => ⟨f, ?_, decodeDocument_error hd⟩⟩
      · simp [bind, Except.bind, pure, Except.pure, hd] at h
      · simp [bind, Except.bind, pure, Except.pure, hd]
    · exact ⟨fun _ _ => ⟨hg, doc, hd⟩, fun h => absurd ⟨hg, doc, hd⟩ h⟩

/-- A read's envelope fails closed when it answers a failed list with its fault
and anything else as a success. -/
theorem readFailsClosed_of (o : Lists) {r : Reply} {x : Except Fault (List String × Bool)}
    (hx : x = o.entries st key) (herr : ∀ f, x = .error f → r = Reply.ofFault (some f))
    (hok : r.result = true → ∃ y, x = .ok y) : ReadFailsClosed st key r := by
  obtain ⟨hread, hbad⟩ := entries_readable o st key
  refine ⟨fun h => ?_, fun h => ?_⟩
  · obtain ⟨y, hy⟩ := hok h
    exact hread y (hx ▸ hy)
  · obtain ⟨f, hf, hsf⟩ := hbad h
    rw [herr f (hx.trans hf)]
    exact hsf.reply

theorem checkEntry_fails_closed (o : Lists) (st : Store) (key entry : String) :
    ReadFailsClosed st key (o.checkEntry st key entry) := by
  refine readFailsClosed_of o rfl (fun f hf => ?_) (fun h => ?_)
  · simp [Lists.checkEntry, Lists.contains, hf, bind, Except.bind]
  · unfold Lists.checkEntry Lists.contains at h
    rcases he : o.entries st key with f | y
    · simp [he, bind, Except.bind, ofFault_some_result] at h
    · exact ⟨y, rfl⟩

theorem getEntries_fails_closed (o : Lists) (st : Store) (key : String) :
    ReadFailsClosed st key (o.getEntries st key) := by
  refine readFailsClosed_of o rfl (fun f hf => ?_) (fun h => ?_)
  · simp [Lists.getEntries, hf]
  · unfold Lists.getEntries at h
    rcases he : o.entries st key with f | y
    · simp [he, ofFault_some_result] at h
    · exact ⟨y, rfl⟩

/-- **Overlay writes fail closed.** Adding or removing an entry changes the
stored value under its key and no other, and only when the change is written,
from a store that could be written there. The envelopes of adding and removing
succeed exactly when the change was written and answer a store that cannot be
written with an error; the envelopes of the reads succeed only on a store that
can be read and answer any other with an error. -/
theorem writes_fail_closed (o : Lists) (st : Store) (key entry : String) :
    (∀ disable, let c := o.mark st key entry disable
      (c.store st).getError = st.getError ∧ (c.store st).updateError = st.updateError ∧
        (∀ k, (c.store st).lookup k ≠ st.lookup k → k = key ∧ ∃ es st', c = .applied es st') ∧
        ∀ es st', c = .applied es st' → st.Writable key) ∧
      ChangeFailsClosed st key entry (o.addEntry st key entry) ∧
      ChangeFailsClosed st key entry (o.removeEntry st key entry) ∧
      ReadFailsClosed st key (o.checkEntry st key entry) ∧
      ReadFailsClosed st key (o.getEntries st key) :=
  ⟨fun disable => ⟨(mark_confined o st key entry disable).1, (mark_confined o st key entry disable).2.1,
      (mark_confined o st key entry disable).2.2, fun _ _ h => mark_written h⟩,
    markEntry_fails_closed o st key entry true (by decide),
    markEntry_fails_closed o st key entry false (by decide),
    checkEntry_fails_closed o st key entry, getEntries_fails_closed o st key⟩

end NetFleet.Overlay
