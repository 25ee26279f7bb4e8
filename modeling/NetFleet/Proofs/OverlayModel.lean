import Mathlib
import NetFleet.Proofs.OverlayDocument
import NetFleet.Proofs.FailClosed

/-!
# The overlay follows its rules

The rules of the overlay speak of one list per key and router: adding an entry
appends it unless it is there, removing one deletes it unless it is not, and a
list once written stays, if only as `[]`. The store holds all routers' lists
under a key in one document that every change decodes, edits and writes back
whole.

`Model` is the rules as a state machine, together with the faults injected into
the store, and `Holds st M` says that the store `st` holds the lists of `M`
under every key. From the empty store, whatever calls are made and faults
injected, the store holds the model the rules build, every answer agrees with
the model's, every list is free of duplicates, and a list that was just written
reads as found (`lists_follow_rules`).

The invariant rests on one step (`Holds.write`): a document that decodes,
written back with one router's list set, decodes to a document whose lists are
the old ones but for that router's (`Proofs/OverlayDocument`).
-/

namespace NetFleet.Overlay

open NetFleet (Json Fault)

/-! ### Calls and the rules -/

/-- A call made through the lists of a router, or on the store itself: setting
the faults its reads and updates report from then on. -/
inductive Call where
  | add (router key entry : String)
  | remove (router key entry : String)
  | entries (router key : String)
  | contains (router key entry : String)
  | inject (getError updateError : Option String)

/-- The store after a call. -/
def Call.store : Call → Store → Store
  | .add r k e, st => ((Lists.mk r).add st k e).store st
  | .remove r k e, st => ((Lists.mk r).remove st k e).store st
  | .entries .., st => st
  | .contains .., st => st
  | .inject g u, st => { st with getError := g, updateError := u }

/-- The store after a run of calls. -/
def runStore (calls : List Call) (st : Store) : Store := calls.foldl (fun st c => c.store st) st

/-- The overlay as its rules describe it: each router's list under each key,
`none` until the router has one, and whether reads and writes of the store fail. -/
structure Model where
  lists : String → String → Option (List String)
  readsFail : Bool
  writesFail : Bool

/-- No lists, and a store that works. -/
def Model.empty : Model := ⟨fun _ _ => none, false, false⟩

/-- A router's list under a key, empty when it has none. -/
def Model.list (M : Model) (key router : String) : List String := (M.lists key router).getD []

/-- Adding appends an entry that is not there and refuses one that is. -/
def addRule (entry : String) (l : List String) : Except Sentinel (List String) :=
  if entry ∈ l then .error .alreadyExists else .ok (l ++ [entry])

/-- Removing deletes an entry that is there, keeping the others in order, and
refuses one that is not. -/
def removeRule (entry : String) (l : List String) : Except Sentinel (List String) :=
  if entry ∈ l then .ok (l.erase entry) else .error .notFound

/-- A change by a rule: an empty entry is invalid, and a store that cannot be
written fails, before the rule sees the router's list. -/
def Model.change (M : Model) (router key entry : String)
    (rule : String → List String → Except Sentinel (List String)) : Except Sentinel (List String) :=
  if entry = "" then .error .validationFailed
  else if M.writesFail then .error .backend
  else rule entry (M.list key router)

/-- A router's list under a key and whether it has one. -/
def Model.entries (M : Model) (router key : String) : Except Sentinel (List String × Bool) :=
  if M.readsFail then .error .backend else .ok (M.list key router, (M.lists key router).isSome)

/-- Whether an entry is in a router's list under a key. -/
def Model.contains (M : Model) (router key entry : String) : Except Sentinel Bool :=
  if M.readsFail then .error .backend else .ok (decide (entry ∈ M.list key router))

/-- The model with a router's list under a key set. -/
def Model.set (M : Model) (key router : String) (l : List String) : Model :=
  { M with lists := fun k r => if k = key ∧ r = router then some l else M.lists k r }

/-- The model after a change: the router's list is written when the change goes through. -/
def Model.write (M : Model) (key router : String) : Except Sentinel (List String) → Model
  | .ok l => M.set key router l
  | .error _ => M

/-- The model after a call. -/
def Model.step (M : Model) : Call → Model
  | .add r k e => M.write k r (M.change r k e addRule)
  | .remove r k e => M.write k r (M.change r k e removeRule)
  | .entries .. => M
  | .contains .. => M
  | .inject g u => { M with readsFail := g.isSome, writesFail := u.isSome }

/-- The model after a run of calls. -/
def Model.run (M : Model) (calls : List Call) : Model := calls.foldl Model.step M

/-- Every list of the model is free of duplicates. -/
def Model.Nodup (M : Model) : Prop := ∀ key router l, M.lists key router = some l → l.Nodup

/-! ### Agreeing with the rules -/

/-- A read agrees with the model's answer: the same value, or a fault of the
model's kind. -/
def Agrees {α : Type} : Except Fault α → Except Sentinel α → Prop
  | .ok a, .ok b => a = b
  | .error f, .error s => f.isA s = true
  | _, _ => False

/-- A change agrees with the model's answer: written with the model's list, or
refused with a fault of the model's kind. A change that crashes agrees with
nothing. -/
def Change.Agrees : Change → Except Sentinel (List String) → Prop
  | .applied es _, .ok l => es = l
  | .refused _ f, .error s => f.isA s = true
  | _, _ => False

/-- The answer to a call agrees with the model's. -/
def Call.Agrees : Call → Store → Model → Prop
  | .add r k e, st, M => ((Lists.mk r).add st k e).Agrees (M.change r k e addRule)
  | .remove r k e, st, M => ((Lists.mk r).remove st k e).Agrees (M.change r k e removeRule)
  | .entries r k, st, M => Overlay.Agrees ((Lists.mk r).entries st k) (M.entries r k)
  | .contains r k e, st, M => Overlay.Agrees ((Lists.mk r).contains st k e) (M.contains r k e)
  | .inject .., _, _ => True

/-- The store holds the model: it fails as the model says, and under every key
it has a document that decodes, with the model's list for every router. -/
structure Holds (st : Store) (M : Model) : Prop where
  reads : st.getError.isSome = M.readsFail
  writes : st.updateError.isSome = M.writesFail
  lists : ∀ key, ∃ ms, decodeDocument key (st.lookup key) = .ok (some ms) ∧
    ∀ router, Document.list (some ms) router = M.lists key router

theorem holds_empty : Holds {} Model.empty where
  reads := rfl
  writes := rfl
  lists _ := ⟨[], rfl, fun _ => rfl⟩

theorem Agrees.eq_ok {α : Type} {x : Except Fault α} {b : α} (h : Agrees x (.ok b)) : x = .ok b := by
  cases x with
  | error f => cases h
  | ok a => cases h; rfl

/-! ### Writing a list -/

section Store

variable {st : Store} {M : Model}

/-- The document under a key of a store that holds a model has the model's lists. -/
theorem Holds.document (h : Holds st M) {key : String} {ms : List (String × String)}
    (hd : decodeDocument key (st.lookup key) = .ok (some ms)) (router : String) :
    Document.list (some ms) router = M.lists key router := by
  obtain ⟨ms', hd', hl⟩ := h.lists key
  rw [hd] at hd'
  cases hd'
  exact hl router

/-- Writing one router's list into the document under a key leaves the store
holding the model with that list set. -/
theorem Holds.write (h : Holds st M) {key router : String} {ms : List (String × String)}
    (hd : decodeDocument key (st.lookup key) = .ok (some ms)) (l : List String) :
    Holds (st.set key (renderDocument (putMember router (renderList l) ms))) (M.set key router l) := by
  obtain ⟨hs, hv⟩ := decodeDocument_ok hd
  have hs' : Sorted (putMember router (renderList l) ms) := hs.putMember
  have hv' : Valued (putMember router (renderList l) ms) := hv.putMember (renderList_valued l)
  refine ⟨by simpa [Model.set] using h.reads, by simpa [Model.set] using h.writes, fun key' => ?_⟩
  by_cases hk : key' = key
  · -- the key written: its document reads back with the router's list replaced
    subst hk
    refine ⟨_, by rw [Store.lookup_set, if_pos rfl, decodeDocument_render key' hs' hv'], fun r => ?_⟩
    rw [list_compact hv', list_putMember]
    by_cases hr : router = r
    · subst hr
      simp [Model.set, list_renderList]
    · simp [Model.set, hr, Ne.symm hr, h.document hd r]
  · -- every other key keeps its document
    obtain ⟨ms', hd', hl⟩ := h.lists key'
    refine ⟨ms', by rw [Store.lookup_set, if_neg hk]; exact hd', fun r => ?_⟩
    simp [Model.set, hk, hl r]

theorem update_of_updateError {e : String} (hu : st.updateError = some e) (o : Lists) (key : String)
    (step : List String → Except Fault (List String)) :
    o.update st key step = .refused none (storeFault (.plain e)) := by
  simp [Lists.update, hu]

/-- A change that the step refuses is refused with the step's fault. -/
theorem Holds.update_error (h : Holds st M) (hu : st.updateError = none) {router key : String}
    {step : List String → Except Fault (List String)} {f : Fault} (hs : step (M.list key router) = .error f) :
    (Lists.mk router).update st key step = .refused (M.lists key router) f := by
  obtain ⟨ms, hd, hl⟩ := h.lists key
  have hs' : step ((M.lists key router).getD []) = .error f := hs
  simp only [Lists.update, hu, hd, hl, hs']

/-- A change that the step takes is written, and the store holds the model with
the step's list set. -/
theorem Holds.update_ok (h : Holds st M) (hu : st.updateError = none) {router key : String}
    {step : List String → Except Fault (List String)} {l : List String} (hs : step (M.list key router) = .ok l) :
    ∃ st', (Lists.mk router).update st key step = .applied l st' ∧ Holds st' (M.set key router l) := by
  obtain ⟨ms, hd, hl⟩ := h.lists key
  have hs' : step ((M.lists key router).getD []) = .ok l := hs
  refine ⟨_, ?_, h.write hd l⟩
  simp only [Lists.update, hu, hd, hl, hs']

/-- A change through the store agrees with the model's answer whenever its step
does, and leaves the store holding the model that answer writes. -/
theorem Holds.update_agrees (h : Holds st M) {router key : String} {step : List String → Except Fault (List String)}
    {answer : Except Sentinel (List String)} (hstep : Agrees (step (M.list key router)) answer) :
    ((Lists.mk router).update st key step).Agrees (if M.writesFail then .error .backend else answer) ∧
      Holds (((Lists.mk router).update st key step).store st)
        (M.write key router (if M.writesFail then .error .backend else answer)) := by
  cases hu : st.updateError with
  | some e =>
    -- the store cannot be written: refused as a failure of the store
    have hw : M.writesFail = true := by rw [← h.writes, hu]; rfl
    rw [update_of_updateError hu, hw, if_pos rfl]
    exact ⟨by simp [Change.Agrees, storeFault, Fault.isA], h⟩
  | none =>
    have hw : M.writesFail = false := by rw [← h.writes, hu]; rfl
    rw [hw, if_neg (by decide)]
    rcases hs : step (M.list key router) with f | l <;> rw [hs] at hstep <;> cases answer <;>
      simp only [Agrees] at hstep
    · -- refused by the step, as by the rule
      rw [h.update_error hu hs]
      exact ⟨hstep, h⟩
    · -- written with the rule's list
      subst hstep
      obtain ⟨st', hc, hst'⟩ := h.update_ok hu hs
      rw [hc]
      exact ⟨rfl, hst'⟩

/-! ### Adding and removing -/

theorem add_empty (o : Lists) (st : Store) (key : String) :
    o.add st key "" = .refused none (.validation ["entry: must not be empty"]) := by
  simp [Lists.add, checkEntry]

theorem remove_empty (o : Lists) (st : Store) (key : String) :
    o.remove st key "" = .refused none (.validation ["entry: must not be empty"]) := by
  simp [Lists.remove, checkEntry]

theorem add_eq (o : Lists) (st : Store) (key : String) {entry : String} (he : entry ≠ "") :
    o.add st key entry = o.update st key fun es =>
      if es.contains entry then .error (entryFault entry key .alreadyExists) else .ok (es ++ [entry]) := by
  simp [Lists.add, checkEntry, he]

theorem remove_eq (o : Lists) (st : Store) (key : String) {entry : String} (he : entry ≠ "") :
    o.remove st key entry = o.update st key fun es =>
      if es.contains entry then .ok (es.erase entry) else .error (entryFault entry key .notFound) := by
  simp [Lists.remove, checkEntry, he]

theorem entryFault_isA (entry key : String) (s : Sentinel) : (entryFault entry key s).isA s = true := by
  simp [entryFault, Fault.isA]

/-- The step of adding agrees with the rule of adding on every list. -/
theorem addStep_agrees (entry key : String) (l : List String) :
    Agrees (if l.contains entry then .error (entryFault entry key .alreadyExists) else .ok (l ++ [entry]))
      (addRule entry l) := by
  by_cases hl : entry ∈ l <;> simp [addRule, hl, Agrees, entryFault_isA]

/-- The step of removing agrees with the rule of removing on every list. -/
theorem removeStep_agrees (entry key : String) (l : List String) :
    Agrees (if l.contains entry then .ok (l.erase entry) else .error (entryFault entry key .notFound))
      (removeRule entry l) := by
  by_cases hl : entry ∈ l <;> simp [removeRule, hl, Agrees, entryFault_isA]

/-- A change of an entry agrees with its rule when it refuses an empty entry
and otherwise goes through `update` with a step that agrees with the rule. -/
theorem Holds.change_agrees (h : Holds st M) {router key entry : String} {c : Change}
    {step : List String → Except Fault (List String)} {rule : String → List String → Except Sentinel (List String)}
    (hempty : entry = "" → c = .refused none (.validation ["entry: must not be empty"]))
    (hupd : entry ≠ "" → c = (Lists.mk router).update st key step) (hstep : ∀ l, Agrees (step l) (rule entry l)) :
    c.Agrees (M.change router key entry rule) ∧ Holds (c.store st) (M.write key router (M.change router key entry rule)) := by
  by_cases he : entry = ""
  · rw [hempty he]
    simp only [Model.change, he, if_true, Model.write]
    exact ⟨by simp [Change.Agrees, Fault.isA], h⟩
  · rw [hupd he]
    simp only [Model.change, he, if_false]
    exact h.update_agrees (hstep _)

theorem Holds.add (h : Holds st M) (router key entry : String) :
    ((Lists.mk router).add st key entry).Agrees (M.change router key entry addRule) ∧
      Holds (((Lists.mk router).add st key entry).store st) (M.write key router (M.change router key entry addRule)) :=
  h.change_agrees (fun he => he ▸ add_empty _ _ _) (add_eq _ _ _) (addStep_agrees entry key)

theorem Holds.remove (h : Holds st M) (router key entry : String) :
    ((Lists.mk router).remove st key entry).Agrees (M.change router key entry removeRule) ∧
      Holds (((Lists.mk router).remove st key entry).store st)
        (M.write key router (M.change router key entry removeRule)) :=
  h.change_agrees (fun he => he ▸ remove_empty _ _ _) (remove_eq _ _ _) (removeStep_agrees entry key)

/-! ### Reading -/

theorem Holds.entries (h : Holds st M) (router key : String) :
    Agrees ((Lists.mk router).entries st key) (M.entries router key) := by
  cases hg : st.getError with
  | some e =>
    -- the store cannot be read: a failure of the store
    have hr : M.readsFail = true := by rw [← h.reads, hg]; rfl
    simp [Lists.entries, loadDocument, Store.get, hg, Model.entries, hr, Agrees, storeFault, Fault.isA, bind,
      Except.bind, throw, throwThe, MonadExceptOf.throw]
  | none =>
    have hr : M.readsFail = false := by rw [← h.reads, hg]; rfl
    obtain ⟨ms, hd, hl⟩ := h.lists key
    simp only [Lists.entries, loadDocument, Store.get, hg, Model.entries, hr, hd, hl, bind, Except.bind, pure,
      Except.pure]
    cases hl' : M.lists key router <;> simp [Agrees, Model.list, hl']

theorem Holds.contains (h : Holds st M) (router key entry : String) :
    Agrees ((Lists.mk router).contains st key entry) (M.contains router key entry) := by
  have he := h.entries router key
  unfold Model.entries at he
  unfold Model.contains Lists.contains
  cases hr : M.readsFail <;> simp only [hr] at he ⊢ <;>
    rcases hx : (Lists.mk router).entries st key with f | ⟨es, found⟩ <;> rw [hx] at he
  · cases he
  · cases he
    simp [bind, Except.bind, pure, Except.pure, Agrees]
  · simpa [bind, Except.bind, Agrees] using he
  · cases he

end Store

/-! ### Lists free of duplicates -/

theorem Model.Nodup.list {M : Model} (h : M.Nodup) (key router : String) : (M.list key router).Nodup := by
  unfold Model.list
  cases hl : M.lists key router with
  | none => exact List.nodup_nil
  | some l => exact h key router l hl

theorem Model.Nodup.write {M : Model} (h : M.Nodup) {key router : String} {a : Except Sentinel (List String)}
    (ha : ∀ l, a = .ok l → l.Nodup) : (M.write key router a).Nodup := by
  cases a with
  | error s => exact h
  | ok l =>
    intro k r l' hl'
    simp only [Model.write, Model.set] at hl'
    split at hl'
    · cases hl'
      exact ha l rfl
    · exact h k r l' hl'

theorem change_ok {M : Model} {router key entry : String} {rule : String → List String → Except Sentinel (List String)}
    {l : List String} (h : M.change router key entry rule = .ok l) : rule entry (M.list key router) = .ok l := by
  unfold Model.change at h
  split at h
  · cases h
  split at h
  · cases h
  · exact h

/-- The rules keep a list free of duplicates. -/
theorem Model.Nodup.step {M : Model} (h : M.Nodup) (c : Call) : (M.step c).Nodup := by
  cases c with
  | add r k e =>
    refine h.write fun l hl => ?_
    have hr := change_ok hl
    unfold addRule at hr
    split at hr
    · cases hr
    · next hne =>
      cases hr
      have hnd := h.list k r
      simp only [List.nodup_append, List.nodup_cons, List.not_mem_nil, not_false_eq_true, List.nodup_nil, and_true,
        List.mem_singleton, true_and]
      refine ⟨hnd, ?_⟩
      rintro a ha b rfl rfl
      exact hne ha
  | remove r k e =>
    refine h.write fun l hl => ?_
    have hr := change_ok hl
    unfold removeRule at hr
    split at hr
    · cases hr
      exact (h.list k r).erase e
    · cases hr
  | entries => exact h
  | contains => exact h
  | inject => exact h

/-! ### Runs -/

section Run

variable {st : Store} {M : Model}

/-- One call: its answer agrees with the model's, and the store after it holds
the model after it. -/
theorem Holds.step (h : Holds st M) (c : Call) : c.Agrees st M ∧ Holds (c.store st) (M.step c) := by
  cases c with
  | add r k e => exact h.add r k e
  | remove r k e => exact h.remove r k e
  | entries r k => exact ⟨h.entries r k, h⟩
  | contains r k e => exact ⟨h.contains r k e, h⟩
  | inject g u =>
    -- the faults change; the documents do not
    exact ⟨trivial, ⟨rfl, rfl, h.lists⟩⟩

/-- A run of calls keeps the store holding the model, and the model's lists free
of duplicates. -/
theorem Holds.run (h : Holds st M) (hn : M.Nodup) (calls : List Call) :
    Holds (runStore calls st) (M.run calls) ∧ (M.run calls).Nodup := by
  induction calls generalizing st M with
  | nil => exact ⟨h, hn⟩
  | cons c calls ih => exact ih (h.step c).2 (hn.step c)

/-- A change that was written agrees with an answer that writes its list. -/
theorem Change.Agrees.written {c : Change} {a : Except Sentinel (List String)} {key router : String}
    {es : List String} {st' : Store} (ha : c.Agrees a) (hh : Holds (c.store st) (M.write key router a))
    (hc : c = .applied es st') : Holds st' (M.set key router es) := by
  subst hc
  cases a with
  | error s => cases ha
  | ok l =>
    cases ha
    exact hh

/-- A list that was just written reads as found, with the list written. -/
theorem Holds.found_after_write (h : Holds st M) (hg : st.getError = none) {r k e : String} {es : List String}
    {st' : Store} (hw : (Lists.mk r).add st k e = .applied es st' ∨ (Lists.mk r).remove st k e = .applied es st') :
    (Lists.mk r).entries st' k = .ok (es, true) := by
  -- the change agrees with its rule, so the model writes the list it answered
  have hst' : Holds st' (M.set k r es) := by
    rcases hw with hw | hw
    · exact (h.add r k e).1.written (h.add r k e).2 hw
    · exact (h.remove r k e).1.written (h.remove r k e).2 hw
  have hr : M.readsFail = false := by rw [← h.reads, hg]; rfl
  have hm : (M.set k r es).entries r k = .ok (es, true) := by
    simp [Model.entries, Model.set, Model.list, hr]
  exact (hm ▸ hst'.entries r k).eq_ok

end Run

/-- **The overlay follows its rules.** Start from the empty store and make any
calls through the lists of any routers on any keys, injecting faults into the
store at will. Throughout, the store holds the lists the rules build: every
router's list under every key is the model's and free of duplicates. Every
answer agrees with the model's: adding appends an absent entry and refuses a
present one as already there, removing deletes a present entry keeping the
others in order and refuses an absent one as not found, and an entry is
reported in a list exactly when it is in the model's. A list that was just
written, emptied or not, reads as found. -/
theorem lists_follow_rules (calls : List Call) :
    Holds (runStore calls {}) (Model.empty.run calls) ∧ (Model.empty.run calls).Nodup ∧
      (∀ c : Call, c.Agrees (runStore calls {}) (Model.empty.run calls)) ∧
      ∀ r k e es st', ((Lists.mk r).add (runStore calls {}) k e = .applied es st' ∨
          (Lists.mk r).remove (runStore calls {}) k e = .applied es st') →
        (runStore calls {}).getError = none → (Lists.mk r).entries st' k = .ok (es, true) := by
  obtain ⟨h, hn⟩ := holds_empty.run (fun _ _ _ hl => by cases hl) calls
  exact ⟨h, hn, fun c => (h.step c).1, fun r k e es st' hw hg => h.found_after_write hg hw⟩

end NetFleet.Overlay
