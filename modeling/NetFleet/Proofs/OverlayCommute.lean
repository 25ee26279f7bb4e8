import Mathlib
import NetFleet.Proofs.OverlayModel

/-!
# Routers do not get in each other's way

All routers' lists under a key share one document, and a change of one router's
list decodes that document and writes it back whole, every other member
compacted. Still, changes by different routers, or under different keys, do not
interfere (`routers_commute`):

* a change by one router leaves every other router's value as JSON as it was,
  whatever that value is (`routerValue_mark`);
* made in either order, two such changes give the same answers and leave the
  same text under every key.

A change depends on the store only through what it reads: whether updates fail,
and its own router's view of the document under its key (`SameView`,
`mark_answer_eq`). The other change leaves that view as it was
(`sameView_after`), so each change answers the same in either order. Where both
write the same document, the texts agree because compacting twice is compacting
once and members of different names go in either order (`renderDocument_comm`).
-/

namespace NetFleet.Overlay

open NetFleet (Json Fault)

/-- What a change answers, leaving aside the store it leaves: the list written,
or the list as it was with the fault; `none` when it crashed. -/
def Change.answer : Change → Option (Except (Option (List String) × Fault) (List String))
  | .applied es _ => some (.ok es)
  | .refused es f => some (.error (es, f))
  | .crashed => none

/-- A router's value in the document under a key, read as JSON: `none` when the
document does not decode or has no member of that name. -/
def Store.routerValue (st : Store) (key router : String) : Option Json :=
  match decodeDocument key (st.lookup key) with
  | .ok (some ms) => (ms.find? (·.1 = router)).bind fun m => (Json.parse m.2).toOption
  | _ => none

/-- What a router sees of a decoded document: the same failure, both `null`, or
the same list of its own. -/
def SameView (router : String) : Except Fault Document → Except Fault Document → Prop
  | .error f, .error f' => f = f'
  | .ok none, .ok none => True
  | .ok (some ms), .ok (some ms') => Document.list (some ms) router = Document.list (some ms') router
  | _, _ => False

theorem SameView.refl (router : String) (d : Except Fault Document) : SameView router d d := by
  rcases d with f | _ | ms <;> simp [SameView]

/-! ### What a change reads -/

section Reads

variable {o : Lists} {st st' : Store} {key : String}

/-- A change through `update` answers the same on two stores whose updates fail
alike and whose documents under its key look the same to its router. -/
theorem update_answer_eq {step : List String → Except Fault (List String)} (hu : st.updateError = st'.updateError)
    (hv : SameView o.router (decodeDocument key (st.lookup key)) (decodeDocument key (st'.lookup key))) :
    (o.update st key step).answer = (o.update st' key step).answer := by
  unfold Lists.update
  rw [hu]
  cases st'.updateError with
  | some e => rfl
  | none =>
    revert hv
    generalize decodeDocument key (st.lookup key) = d
    generalize decodeDocument key (st'.lookup key) = d'
    intro hv
    rcases d with f | _ | ms <;> rcases d' with f' | _ | ms' <;> simp only [SameView] at hv
    · subst hv
      rfl
    · rfl
    · -- the step sees the same list of the router in both documents
      simp only [hv]
      split <;> rfl

/-- A mark other than of the empty entry is a change through `update` with a step
that does not depend on the store. -/
theorem mark_update (o : Lists) (key : String) {entry : String} (he : entry ≠ "") (d : Bool) :
    ∃ step, ∀ st, o.mark st key entry d = o.update st key step := by
  cases d
  · exact ⟨_, fun st => by simp only [Lists.mark, Bool.false_eq_true, if_false]; exact remove_eq o st key he⟩
  · exact ⟨_, fun st => by simp only [Lists.mark, if_true]; exact add_eq o st key he⟩

theorem mark_answer_eq (hu : st.updateError = st'.updateError)
    (hv : SameView o.router (decodeDocument key (st.lookup key)) (decodeDocument key (st'.lookup key)))
    (entry : String) (d : Bool) : (o.mark st key entry d).answer = (o.mark st' key entry d).answer := by
  by_cases he : entry = ""
  · subst he
    cases d <;> simp [Lists.mark, add_empty, remove_empty]
  · obtain ⟨step, hstep⟩ := mark_update o key he d
    rw [hstep st, hstep st']
    exact update_answer_eq hu hv

/-- A mark either writes nothing and answers no list written, or answers the list
it wrote into the document it read. -/
theorem mark_store (o : Lists) (st : Store) (key entry : String) (d : Bool) :
    ((o.mark st key entry d).store st = st ∧ ∀ es, (o.mark st key entry d).answer ≠ some (.ok es)) ∨
      ∃ es ms, (o.mark st key entry d).answer = some (.ok es) ∧ st.updateError = none ∧
        decodeDocument key (st.lookup key) = .ok (some ms) ∧
        (o.mark st key entry d).store st = st.set key (renderDocument (putMember o.router (renderList es) ms)) := by
  rcases hc : o.mark st key entry d with ⟨es, st''⟩ | ⟨es, f⟩ | _
  · -- a written mark went through `update`
    have he : entry ≠ "" := by
      rintro rfl
      cases d <;> simp [Lists.mark, add_empty, remove_empty] at hc
    obtain ⟨step, hstep⟩ := mark_update o key he d
    obtain ⟨ms, hu, hd, -, rfl⟩ := update_applied_inv ((hstep st).symm.trans hc)
    exact .inr ⟨es, ms, rfl, hu, hd, rfl⟩
  · exact .inl ⟨rfl, fun _ h => by cases h⟩
  · exact .inl ⟨rfl, fun _ h => by cases h⟩

theorem mark_store_of_not_ok {entry : String} {d : Bool}
    (h : ∀ es, (o.mark st key entry d).answer ≠ some (.ok es)) : (o.mark st key entry d).store st = st := by
  rcases mark_store o st key entry d with ⟨hs, -⟩ | ⟨es, -, hans, -⟩
  · exact hs
  · exact absurd hans (h es)

theorem mark_store_of_ok {entry : String} {d : Bool} {es : List String}
    (h : (o.mark st key entry d).answer = some (.ok es)) :
    ∃ ms, st.updateError = none ∧ decodeDocument key (st.lookup key) = .ok (some ms) ∧
      (o.mark st key entry d).store st = st.set key (renderDocument (putMember o.router (renderList es) ms)) := by
  rcases mark_store o st key entry d with ⟨-, hne⟩ | ⟨es', ms, hans, hu, hd, hs⟩
  · exact absurd h (hne es)
  · rw [hans] at h
    cases h
    exact ⟨ms, hu, hd, hs⟩

end Reads

/-! ### Another router's change -/

section Other

variable {r₁ r₂ k₁ k₂ : String}

theorem lookup_set_set_self (st : Store) (key a b k : String) :
    ((st.set key a).set key b).lookup k = (st.set key b).lookup k := by
  simp only [Store.lookup_set]
  split <;> rfl

theorem lookup_set_set_comm (st : Store) (hk : k₁ ≠ k₂) (a b k : String) :
    ((st.set k₁ a).set k₂ b).lookup k = ((st.set k₂ b).set k₁ a).lookup k := by
  simp only [Store.lookup_set]
  by_cases h₁ : k = k₁
  · subst h₁
    simp [hk]
  · simp [h₁]

/-- The document a mark writes decodes to the members it put, each value
compacted. -/
theorem decodeDocument_written {st : Store} {key : String} {ms : List (String × String)}
    (hd : decodeDocument key (st.lookup key) = .ok (some ms)) (router : String) (es : List String) :
    decodeDocument key ((st.set key (renderDocument (putMember router (renderList es) ms))).lookup key) =
      .ok (some ((putMember router (renderList es) ms).map fun m => (m.1, Json.compactText m.2))) := by
  obtain ⟨hsort, hval⟩ := decodeDocument_ok hd
  rw [Store.lookup_set, if_pos rfl,
    decodeDocument_render key hsort.putMember (hval.putMember (renderList_valued es))]

/-- A mark by one router leaves what another router sees under that key, and what
any router sees under another key. -/
theorem sameView_after (h : r₁ ≠ r₂ ∨ k₁ ≠ k₂) (st : Store) (e₂ : String) (d₂ : Bool) :
    SameView r₁ (decodeDocument k₁ ((((Lists.mk r₂).mark st k₂ e₂ d₂).store st).lookup k₁))
      (decodeDocument k₁ (st.lookup k₁)) := by
  rcases mark_store (Lists.mk r₂) st k₂ e₂ d₂ with ⟨hs, -⟩ | ⟨es, ms, -, -, hd, hs⟩
  · rw [hs]
    exact SameView.refl _ _
  · rw [hs]
    by_cases hk : k₁ = k₂
    · -- the same document, written back with the other router's list replaced
      subst hk
      have hr : r₂ ≠ r₁ := fun e => h.elim (fun h' => h' e.symm) (fun h' => h' rfl)
      rw [decodeDocument_written hd, hd]
      simp only [SameView]
      rw [list_compact ((decodeDocument_ok hd).2.putMember (renderList_valued es)), list_putMember, if_neg hr]
    · rw [Store.lookup_set, if_neg hk]
      exact SameView.refl _ _

/-- A mark by one router answers the same after a mark by another router, or
under another key. -/
theorem answer_after (h : r₁ ≠ r₂ ∨ k₁ ≠ k₂) (st : Store) (e₁ e₂ : String) (d₁ d₂ : Bool) :
    ((Lists.mk r₁).mark (((Lists.mk r₂).mark st k₂ e₂ d₂).store st) k₁ e₁ d₁).answer =
      ((Lists.mk r₁).mark st k₁ e₁ d₁).answer :=
  mark_answer_eq (mark_confined _ _ _ _ _).2.1 (sameView_after h st e₂ d₂) e₁ d₁

/-- A mark by one router leaves another router's value, as JSON, under every key;
and any router's value under another key. -/
theorem routerValue_mark (h : r₁ ≠ r₂ ∨ k₁ ≠ k₂) (st : Store) (e₁ : String) (d₁ : Bool) :
    (((Lists.mk r₁).mark st k₁ e₁ d₁).store st).routerValue k₂ r₂ = st.routerValue k₂ r₂ := by
  rcases mark_store (Lists.mk r₁) st k₁ e₁ d₁ with ⟨hs, -⟩ | ⟨es, ms, -, -, hd, hs⟩
  · rw [hs]
  · rw [hs]
    unfold Store.routerValue
    by_cases hk : k₂ = k₁
    · -- the other routers' members are kept, each value compacted
      subst hk
      have hr : r₁ ≠ r₂ := fun e => h.elim (fun h' => h' e) (fun h' => h' rfl)
      rw [decodeDocument_written hd, hd]
      simp only
      rw [find?_map_compact, find?_putMember, if_neg hr]
      cases hf : ms.find? (·.1 = r₂) with
      | none => rfl
      | some m =>
        obtain ⟨j, hj, hh⟩ := (decodeDocument_ok hd).2 m (List.mem_of_find?_eq_some hf)
        simp only [Option.map_some, Option.bind_some, parse_compactText_eq hj hh.le]
    · rw [Store.lookup_set, if_neg hk]

/-- Two marks that both write: in either order they leave the same text under
every key. -/
theorem lookup_written_comm (h : r₁ ≠ r₂ ∨ k₁ ≠ k₂) {st : Store} {e₁ e₂ : String} {d₁ d₂ : Bool}
    {es₁ es₂ : List String} (hw₁ : ((Lists.mk r₁).mark st k₁ e₁ d₁).answer = some (.ok es₁))
    (hw₂ : ((Lists.mk r₂).mark st k₂ e₂ d₂).answer = some (.ok es₂)) (k : String) :
    let s₁ := ((Lists.mk r₁).mark st k₁ e₁ d₁).store st
    let s₂ := ((Lists.mk r₂).mark st k₂ e₂ d₂).store st
    (((Lists.mk r₂).mark s₁ k₂ e₂ d₂).store s₁).lookup k = (((Lists.mk r₁).mark s₂ k₁ e₁ d₁).store s₂).lookup k := by
  intro s₁ s₂
  -- each mark answers, and so writes, the same list in the other order
  obtain ⟨ms₁, -, hd₁, hs₁⟩ := mark_store_of_ok hw₁
  obtain ⟨ms₂, -, hd₂, hs₂⟩ := mark_store_of_ok hw₂
  obtain ⟨ms₁₂, -, hd₁₂, hs₁₂⟩ := mark_store_of_ok ((answer_after (h.imp Ne.symm Ne.symm) st e₂ e₁ d₂ d₁).trans hw₂)
  obtain ⟨ms₂₁, -, hd₂₁, hs₂₁⟩ := mark_store_of_ok ((answer_after h st e₁ e₂ d₁ d₂).trans hw₁)
  simp only [s₁, s₂] at hs₁₂ hs₂₁ hd₁₂ hd₂₁ ⊢
  rw [hs₁₂, hs₂₁]
  rw [hs₁] at hd₁₂ ⊢
  rw [hs₂] at hd₂₁ ⊢
  by_cases hk : k₁ = k₂
  · -- one document: each wrote the other's members back compacted
    subst hk
    have hr : r₁ ≠ r₂ := fun e => h.elim (fun h' => h' e) (fun h' => h' rfl)
    obtain rfl : ms₂ = ms₁ := by
      rw [hd₁] at hd₂
      cases hd₂
      rfl
    rw [decodeDocument_written hd₁] at hd₁₂ hd₂₁
    cases hd₁₂
    cases hd₂₁
    rw [lookup_set_set_self, lookup_set_set_self, renderDocument_comm (decodeDocument_ok hd₁).1 hr]
  · -- two documents: each mark read the document the other left alone
    rw [Store.lookup_set, if_neg (Ne.symm hk), hd₂] at hd₁₂
    rw [Store.lookup_set, if_neg hk, hd₁] at hd₂₁
    cases hd₁₂
    cases hd₂₁
    exact lookup_set_set_comm st hk _ _ k

/-- Made in either order, two marks by different routers, or under different
keys, leave the same text under every key. -/
theorem lookup_marks_comm (h : r₁ ≠ r₂ ∨ k₁ ≠ k₂) (st : Store) (e₁ e₂ : String) (d₁ d₂ : Bool) (k : String) :
    let s₁ := ((Lists.mk r₁).mark st k₁ e₁ d₁).store st
    let s₂ := ((Lists.mk r₂).mark st k₂ e₂ d₂).store st
    (((Lists.mk r₂).mark s₁ k₂ e₂ d₂).store s₁).lookup k = (((Lists.mk r₁).mark s₂ k₁ e₁ d₁).store s₂).lookup k := by
  intro s₁ s₂
  have ha₂₁ := answer_after h st e₁ e₂ d₁ d₂
  have ha₁₂ := answer_after (h.imp Ne.symm Ne.symm) st e₂ e₁ d₂ d₁
  -- a mark that writes in one order writes in the other, as its answer is the same
  by_cases hw₁ : ∃ es, ((Lists.mk r₁).mark st k₁ e₁ d₁).answer = some (.ok es)
  · by_cases hw₂ : ∃ es, ((Lists.mk r₂).mark st k₂ e₂ d₂).answer = some (.ok es)
    · obtain ⟨es₁, hw₁⟩ := hw₁
      obtain ⟨es₂, hw₂⟩ := hw₂
      exact lookup_written_comm h hw₁ hw₂ k
    · -- only the first writes, whichever goes first
      have hn₁₂ : ∀ es, ((Lists.mk r₂).mark s₁ k₂ e₂ d₂).answer ≠ some (.ok es) :=
        fun es he => hw₂ ⟨es, ha₁₂.symm.trans he⟩
      rw [mark_store_of_not_ok hn₁₂]
      simp only [s₁, s₂]
      rw [mark_store_of_not_ok (not_exists.1 hw₂)]
  · -- the first writes in neither order
    have hn₂₁ : ∀ es, ((Lists.mk r₁).mark s₂ k₁ e₁ d₁).answer ≠ some (.ok es) :=
      fun es he => hw₁ ⟨es, ha₂₁.symm.trans he⟩
    rw [mark_store_of_not_ok hn₂₁]
    simp only [s₁, s₂]
    rw [mark_store_of_not_ok (not_exists.1 hw₁)]

end Other

/-- Marks by different routers, or under different keys, do not get in each
other's way. A mark by the first router leaves the second router's value as it
was, as JSON, whatever that value is; made in either order, each mark answers the
same, and both leave the same text under every key. -/
theorem routers_commute (st : Store) {r₁ r₂ k₁ k₂ : String} (h : r₁ ≠ r₂ ∨ k₁ ≠ k₂)
    (e₁ e₂ : String) (d₁ d₂ : Bool) :
    let c₁ := (Lists.mk r₁).mark st k₁ e₁ d₁
    let c₂ := (Lists.mk r₂).mark st k₂ e₂ d₂
    let c₁₂ := (Lists.mk r₂).mark (c₁.store st) k₂ e₂ d₂
    let c₂₁ := (Lists.mk r₁).mark (c₂.store st) k₁ e₁ d₁
    (c₁.store st).routerValue k₂ r₂ = st.routerValue k₂ r₂ ∧
      c₁₂.answer = c₂.answer ∧ c₂₁.answer = c₁.answer ∧
      ∀ k, (c₁₂.store (c₁.store st)).lookup k = (c₂₁.store (c₂.store st)).lookup k :=
  ⟨routerValue_mark h st e₁ d₁, answer_after (h.imp Ne.symm Ne.symm) st e₂ e₁ d₂ d₁,
    answer_after h st e₁ e₂ d₁ d₂, lookup_marks_comm h st e₁ e₂ d₁ d₂⟩

/-- Two routers adding an entry each under one key of the empty store. -/
theorem routers_commute_adds :
    ("edge" ≠ "core" ∨ "acl" ≠ "acl") ∧
      let c₁ := (Lists.mk "edge").mark {} "acl" "10.0.0.1" true
      let c₂ := (Lists.mk "core").mark {} "acl" "10.0.0.2" true
      let c₁₂ := (Lists.mk "core").mark (c₁.store {}) "acl" "10.0.0.2" true
      let c₂₁ := (Lists.mk "edge").mark (c₂.store {}) "acl" "10.0.0.1" true
      (c₁.store {}).routerValue "acl" "core" = Store.routerValue {} "acl" "core" ∧
        c₁₂.answer = c₂.answer ∧ c₂₁.answer = c₁.answer ∧
        ∀ k, (c₁₂.store (c₁.store {})).lookup k = (c₂₁.store (c₂.store {})).lookup k :=
  ⟨.inl (by decide), routers_commute {} (.inl (by decide)) "10.0.0.1" "10.0.0.2" true true⟩

end NetFleet.Overlay
