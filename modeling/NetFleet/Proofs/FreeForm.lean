import Mathlib
import NetFleet.Proofs.JsonRender
import NetFleet.Proofs.DoubleText
import NetFleet.Schema.Decode

/-!
# Free-form JSON

A value of a document read as free-form JSON keeps its structure and has its
numbers made doubles (`Schema.untyped`). What matters about such a value is told
by its numbers alone (`Json.Leaves`):

* a value whose numbers are JSON numbers has a text (`exists_text_of_leaves`),
  and every value read from a text is one (`Text.leaves`);
* `untyped` keeps the height of a value and writes each number as a double
  (`untyped_leaves`), and leaves a value whose numbers are all written doubles as
  it is (`untyped_of_doubles`), since the text of a double reads back as itself.
-/

namespace NetFleet.Json

/-- Every number of the value satisfies `P`. -/
def Leaves (P : String → Prop) : Json → Prop
  | .num t => P t
  | .arr xs => ∀ x ∈ xs, Leaves P x
  | .obj ms => ∀ kv ∈ ms, Leaves P kv.2
  | _ => True
decreasing_by
  · have := List.sizeOf_lt_of_mem ‹x ∈ xs›
    simp only [Json.arr.sizeOf_spec]
    omega
  · have := List.sizeOf_lt_of_mem ‹kv ∈ ms›
    obtain ⟨k, v⟩ := kv
    simp only [Json.obj.sizeOf_spec, Prod.mk.sizeOf_spec] at this ⊢
    omega

/-- The numbers of a value that has a text: JSON numbers. -/
abbrev Numbers : Json → Prop := Leaves fun t => NumText t.toList

variable {P Q : String → Prop}

theorem Leaves.mono (hPQ : ∀ t, P t → Q t) {j : Json} (h : Leaves P j) : Leaves Q j := by
  fun_induction Leaves P j with
  | case1 t => rw [Leaves]; exact hPQ t h
  | case2 xs ih =>
    rw [Leaves]
    exact fun x hx => ih x hx (h x hx)
  | case3 ms ih =>
    rw [Leaves]
    exact fun kv hkv => ih kv hkv (h kv hkv)
  | case4 j hn ha ho => cases j <;> simp_all [Leaves]

mutual

/-- A value read from a text has JSON numbers. -/
theorem Text.leaves {c : List Char} {v : Json} (h : Text c v) : Numbers v := by
  match h with
  | .null => simp [Leaves]
  | .true_ => simp [Leaves]
  | .false_ => simp [Leaves]
  | .num hl => rw [Numbers, Leaves]; simpa using hl
  | .str _ => simp [Leaves]
  | .arrNil _ => simp [Leaves]
  | .arr hi => rw [Numbers, Leaves]; exact hi.leaves
  | .objNil _ => simp [Leaves]
  | .obj hm => rw [Numbers, Leaves]; exact hm.leaves

theorem Items.leaves {t : List Char} {vs : List Json} (h : Items t vs) : ∀ v ∈ vs, Numbers v := by
  match h with
  | .last _ hc _ => simpa using hc.leaves
  | .cons _ hc _ ht => simpa using ⟨hc.leaves, ht.leaves⟩

theorem Members.leaves {t : List Char} {ms : List (String × Json)} (h : Members t ms) :
    ∀ kv ∈ ms, Numbers kv.2 := by
  match h with
  | .last _ _ _ _ hc _ => simpa using hc.leaves
  | .cons _ _ _ _ hc _ ht =>
    intro kv hkv
    rcases List.mem_cons.1 hkv with rfl | hkv
    · exact hc.leaves
    · exact ht.leaves kv hkv

end

/-- Items that each have a text have a text together. -/
theorem exists_items {xs : List Json} (hne : xs ≠ []) (h : ∀ x ∈ xs, ∃ c, Text c x) : ∃ t, Items t xs := by
  induction xs with
  | nil => exact absurd rfl hne
  | cons x xs ih =>
    obtain ⟨c, hc⟩ := h x List.mem_cons_self
    rcases xs with _ | ⟨y, ys⟩
    · exact ⟨_, Items.last blanks_nil hc blanks_nil⟩
    · obtain ⟨t, ht⟩ := ih (by simp) fun z hz => h z (List.mem_cons_of_mem _ hz)
      exact ⟨_, Items.cons blanks_nil hc blanks_nil ht⟩

/-- Members whose values each have a text have a text together. -/
theorem exists_members {ms : List (String × Json)} (hne : ms ≠ []) (h : ∀ kv ∈ ms, ∃ c, Text c kv.2) :
    ∃ t, Members t ms := by
  induction ms with
  | nil => exact absurd rfl hne
  | cons kv ms ih =>
    obtain ⟨k, v⟩ := kv
    obtain ⟨c, hc⟩ := h (k, v) List.mem_cons_self
    rcases ms with _ | ⟨m, ms⟩
    · exact ⟨_, Members.last blanks_nil (quote_text .html k) blanks_nil blanks_nil hc blanks_nil⟩
    · obtain ⟨t, ht⟩ := ih (by simp) fun z hz => h z (List.mem_cons_of_mem _ hz)
      exact ⟨_, Members.cons blanks_nil (quote_text .html k) blanks_nil blanks_nil hc blanks_nil ht⟩

/-- A value whose numbers are JSON numbers has a text. -/
theorem exists_text_of_leaves {j : Json} (h : Numbers j) : ∃ c, Text c j := by
  unfold Numbers at h
  fun_induction Leaves (fun t => NumText t.toList) j with
  | case1 t => exact ⟨t.toList, by simpa using Text.num h⟩
  | case2 xs ih =>
    rcases xs with _ | ⟨x, xs⟩
    · exact ⟨_, Text.arrNil blanks_nil⟩
    · obtain ⟨t, ht⟩ := exists_items (by simp) fun y hy => ih y hy (h y hy)
      exact ⟨_, Text.arr ht⟩
  | case3 ms ih =>
    rcases ms with _ | ⟨m, ms⟩
    · exact ⟨_, Text.objNil blanks_nil⟩
    · obtain ⟨t, ht⟩ := exists_members (by simp) fun kv hkv => ih kv hkv (h kv hkv)
      exact ⟨_, Text.obj ht⟩
  | case4 j hn ha ho =>
    cases j with
    | null => exact ⟨_, Text.null⟩
    | bool b => cases b with
      | false => exact ⟨_, Text.false_⟩
      | true => exact ⟨_, Text.true_⟩
    | str s => exact ⟨_, quote_text .html s⟩
    | num t => exact absurd rfl (hn t)
    | arr xs => exact absurd rfl (ha xs)
    | obj ms => exact absurd rfl (ho ms)

end NetFleet.Json

namespace NetFleet.Schema

open Json (Leaves height heightItems heightMembers)

/-- A step of a run in `Except` that succeeds was given a value that succeeds. -/
theorem exists_ok_of_bind {ε α β : Type} {x : Except ε α} {f : α → Except ε β} {b : β}
    (h : x >>= f = .ok b) : ∃ a, x = .ok a ∧ f a = .ok b := by
  cases x with
  | error e => cases h
  | ok a => exact ⟨a, rfl, h⟩

/-- A number written as a double in the data layout. -/
def WrittenDouble (t : String) : Prop := ∃ lit, Decimal.dataText? lit = some t

/-- Free-form JSON keeps its structure and its height, and every number it holds
comes out written as a double. -/
theorem untyped_leaves (path : List String) (j : Json) :
    ∀ j', untyped path j = .ok j' → Leaves WrittenDouble j' ∧ height j' = height j := by
  refine untyped.induct
    (fun path j => ∀ j', untyped path j = .ok j' → Leaves WrittenDouble j' ∧ height j' = height j)
    (fun path ms => ∀ ms', untypedMembers path ms = .ok ms' →
      (∀ kv ∈ ms', Leaves WrittenDouble kv.2) ∧ heightMembers ms' = heightMembers ms)
    (fun path i xs => ∀ xs', untypedItems path i xs = .ok xs' →
      (∀ x ∈ xs', Leaves WrittenDouble x) ∧ heightItems xs' = heightItems xs)
    ?_ ?_ ?_ ?_ ?_ ?_ ?_ ?_ ?_ path j
  · -- a number becomes its double
    intro path lit t ht j' h
    simp only [untyped, ht] at h
    cases h
    exact ⟨by rw [Leaves]; exact ⟨lit, by simpa only [doubleText?] using ht⟩, rfl⟩
  · intro path lit ht j' h
    simp [untyped, ht] at h
  · intro path xs ih j' h
    obtain ⟨ys, hys, h⟩ := exists_ok_of_bind h
    cases h
    obtain ⟨hl, hh⟩ := ih ys hys
    exact ⟨by rw [Leaves]; exact hl, by simp [height, hh]⟩
  · intro path ms ih j' h
    obtain ⟨ms', hms, h⟩ := exists_ok_of_bind h
    cases h
    obtain ⟨hl, hh⟩ := ih ms' hms
    exact ⟨by rw [Leaves]; exact hl, by simp [height, hh]⟩
  · -- everything else is kept as it is
    intro path j hn ha ho j' h
    have : untyped path j = .ok j := by
      cases j with
      | num lit => exact absurd rfl (hn lit)
      | arr xs => exact absurd rfl (ha xs)
      | obj ms => exact absurd rfl (ho ms)
      | _ => rfl
    rw [this] at h
    cases h
    refine ⟨?_, rfl⟩
    cases j <;> simp_all [Leaves]
  · intro path i xs' h
    cases h
    simp
  · intro path i x xs ihx ihxs xs' h
    obtain ⟨y, hy, h⟩ := exists_ok_of_bind h
    obtain ⟨ys, hys, h⟩ := exists_ok_of_bind h
    cases h
    obtain ⟨hl, hh⟩ := ihx y hy
    obtain ⟨hls, hhs⟩ := ihxs ys hys
    exact ⟨by simpa using ⟨hl, hls⟩, by simp [heightItems, hh, hhs]⟩
  · intro path ms' h
    cases h
    simp
  · intro path k v ms ihv ihms ms' h
    obtain ⟨v', hv, h⟩ := exists_ok_of_bind h
    obtain ⟨ms'', hms, h⟩ := exists_ok_of_bind h
    cases h
    obtain ⟨hl, hh⟩ := ihv v' hv
    obtain ⟨hls, hhs⟩ := ihms ms'' hms
    refine ⟨?_, by simp [heightMembers, hh, hhs]⟩
    intro kv hkv
    rcases List.mem_cons.1 hkv with rfl | hkv
    · exact hl
    · exact hls kv hkv

/-- Free-form JSON whose numbers are all written doubles is left as it is. -/
theorem untyped_of_doubles (path : List String) (j : Json)
    (h : Leaves (fun t => Decimal.dataText? t = some t) j) : untyped path j = .ok j := by
  refine untyped.induct
    (fun path j => Leaves (fun t => Decimal.dataText? t = some t) j → untyped path j = .ok j)
    (fun path ms => (∀ kv ∈ ms, Leaves (fun t => Decimal.dataText? t = some t) kv.2) →
      untypedMembers path ms = .ok ms)
    (fun path i xs => (∀ x ∈ xs, Leaves (fun t => Decimal.dataText? t = some t) x) →
      untypedItems path i xs = .ok xs)
    ?_ ?_ ?_ ?_ ?_ ?_ ?_ ?_ ?_ path j h
  · intro path lit t ht h
    rw [Leaves] at h
    have : t = lit := by simpa only [doubleText?, h, Option.some.injEq] using ht.symm
    subst this
    simp only [untyped, ht]
    rfl
  · intro path lit ht h
    rw [Leaves] at h
    simp only [doubleText?, h, reduceCtorEq] at ht
  · intro path xs ih h
    rw [Leaves] at h
    simp only [untyped, ih h]
    rfl
  · intro path ms ih h
    rw [Leaves] at h
    simp only [untyped, ih h]
    rfl
  · intro path j hn ha ho _
    cases j with
    | num lit => exact absurd rfl (hn lit)
    | arr xs => exact absurd rfl (ha xs)
    | obj ms => exact absurd rfl (ho ms)
    | _ => rfl
  · intro path i _
    rfl
  · intro path i x xs ihx ihxs h
    simp only [untypedItems, ihx (h x List.mem_cons_self), ihxs fun y hy => h y (List.mem_cons_of_mem _ hy)]
    rfl
  · intro path _
    rfl
  · intro path k v ms ihv ihms h
    simp only [untypedMembers, ihv (h (k, v) List.mem_cons_self),
      ihms fun kv hkv => h kv (List.mem_cons_of_mem _ hkv)]
    rfl

/-- A written double reads back as itself and is a JSON number. -/
theorem WrittenDouble.settled {t : String} (h : WrittenDouble t) :
    Decimal.dataText? t = some t ∧ Json.NumText t.toList := by
  obtain ⟨lit, hlit⟩ := h
  exact ⟨Decimal.dataText?_dataText hlit, Decimal.dataText?_numText hlit⟩

/-- Free-form JSON read once is read again as itself, whatever its path. -/
theorem untyped_untyped {path : List String} {j j' : Json} (h : untyped path j = .ok j') (path' : List String) :
    untyped path' j' = .ok j' :=
  untyped_of_doubles path' j' (((untyped_leaves path j j' h).1).mono fun _ ht => ht.settled.1)

/-- Free-form JSON read once has a text. -/
theorem untyped_numbers {path : List String} {j j' : Json} (h : untyped path j = .ok j') : Json.Numbers j' :=
  ((untyped_leaves path j j' h).1).mono fun _ ht => ht.settled.2

end NetFleet.Schema
