import Mathlib
import NetFleet.Proofs.SchemaRoundTrip

/-!
# What decoding keeps

Decoding a value into a node that fits its shape gives a node that fits it
(`decodeInto_keeps`), as long as the value's numbers are JSON numbers: the
scalar checks of the decoder are what `Fits` asks of scalars, a dictionary is
built by `insertEntry`, which keeps its entries sorted, and a record by
`setMember`, which keeps its members. The same induction bounds how deeply the
node nests (`Node.Within`): no deeper than the value read, the node it was read
into, or its shape.

A node within a depth is written as JSON of at most that height
(`height_encode`), which is what the reader of the written text asks.
-/

namespace NetFleet.Json

theorem heightItems_le_iff {xs : List Json} {H : ℕ} : heightItems xs ≤ H ↔ ∀ x ∈ xs, height x ≤ H := by
  induction xs with
  | nil => simp [heightItems]
  | cons x xs ih => simp [heightItems, ih]

theorem heightMembers_le_iff {ms : List (String × Json)} {H : ℕ} :
    heightMembers ms ≤ H ↔ ∀ kv ∈ ms, height kv.2 ≤ H := by
  induction ms with
  | nil => simp [heightMembers]
  | cons kv ms ih =>
    obtain ⟨k, v⟩ := kv
    simp [heightMembers, ih]

theorem height_item {xs : List Json} {H : ℕ} (h : height (.arr xs) ≤ H) : ∀ x ∈ xs, height x ≤ H - 1 :=
  heightItems_le_iff.1 (by rw [height] at h; omega)

theorem height_member {ms : List (String × Json)} {H : ℕ} (h : height (.obj ms) ≤ H) :
    ∀ kv ∈ ms, height kv.2 ≤ H - 1 :=
  heightMembers_le_iff.1 (by rw [height] at h; omega)

theorem Numbers.item {xs : List Json} (h : Numbers (.arr xs)) : ∀ x ∈ xs, Numbers x := by
  rw [Numbers, Leaves] at h
  exact h

theorem Numbers.member {ms : List (String × Json)} (h : Numbers (.obj ms)) : ∀ kv ∈ ms, Numbers kv.2 := by
  rw [Numbers, Leaves] at h
  exact h

end NetFleet.Json

namespace NetFleet.Schema

open Json (height heightItems heightMembers)

/-! ### Depths -/

/-- Node `n` nests at most `H` deep, counting lists, dictionaries and records,
and the height of the JSON it holds. -/
def Node.Within : ℕ → Node → Prop
  | H, .json j => height j ≤ H
  | H, .some x => Node.Within H x
  | H, .list xs => 0 < H ∧ ∀ x ∈ xs, Node.Within (H - 1) x
  | H, .dict es => 0 < H ∧ ∀ kv ∈ es, Node.Within (H - 1) kv.2
  | H, .record fs => 0 < H ∧ ∀ kv ∈ fs, Node.Within (H - 1) kv.2
  | H, .openRecord fs extra =>
    0 < H ∧ (∀ kv ∈ fs, Node.Within (H - 1) kv.2) ∧ ∀ kv ∈ extra, height kv.2 ≤ H - 1
  | _, _ => True
termination_by _ n => n
decreasing_by
  all_goals simp_wf
  · have := List.sizeOf_lt_of_mem ‹x ∈ xs›
    omega
  all_goals
    have := List.sizeOf_lt_of_mem ‹kv ∈ _›
    obtain ⟨k, v⟩ := kv
    simp only [Prod.mk.sizeOf_spec] at this ⊢
    omega

mutual

/-- How deeply the nodes of a shape nest. -/
def Shape.depth : Shape → ℕ
  | .opt e => e.depth
  | .list e => e.depth + 1
  | .dict _ e => e.depth + 1
  | .record _ ms => Shape.membersDepth ms + 1
  | .openRecord _ _ ms => Shape.membersDepth ms + 1
  | _ => 0

/-- The greatest depth of the members of a record. -/
def Shape.membersDepth : List Member → ℕ
  | [] => 0
  | .mk _ _ s :: ms => max s.depth (Shape.membersDepth ms)

end

theorem Shape.depth_le_membersDepth {ms : List Member} {m : Member} (hm : m ∈ ms) :
    m.shape.depth ≤ Shape.membersDepth ms := by
  induction ms with
  | nil => cases hm
  | cons m' ms ih =>
    obtain ⟨n, r, s⟩ := m'
    rcases List.mem_cons.1 hm with rfl | hm
    · exact le_max_left _ _
    · exact (ih hm).trans (le_max_right _ _)

theorem Node.Within.mono {H H' : ℕ} (hH : H ≤ H') {n : Node} (h : n.Within H) : n.Within H' := by
  induction H, n using Node.Within.induct generalizing H' with
  | case1 H j => rw [Node.Within] at h ⊢; omega
  | case2 H x ih => rw [Node.Within] at h ⊢; exact ih hH h
  | case3 H xs ih =>
    rw [Node.Within] at h ⊢
    exact ⟨by omega, fun x hx => ih x hx (by omega) (h.2 x hx)⟩
  | case4 H es ih =>
    rw [Node.Within] at h ⊢
    exact ⟨by omega, fun kv hkv => ih kv hkv (by omega) (h.2 kv hkv)⟩
  | case5 H fs ih =>
    rw [Node.Within] at h ⊢
    exact ⟨by omega, fun kv hkv => ih kv hkv (by omega) (h.2 kv hkv)⟩
  | case6 H fs extra ih =>
    rw [Node.Within] at h ⊢
    exact ⟨by omega, fun kv hkv => ih kv hkv (by omega) (h.2.1 kv hkv),
      fun kv hkv => (h.2.2 kv hkv).trans (by omega)⟩
  | case7 H n _ _ _ _ _ _ => cases n <;> simp_all [Node.Within]

theorem Node.within_memberNode {H : ℕ} {fs : List (String × Node)} (h : ∀ kv ∈ fs, kv.2.Within H)
    (k : String) : (memberNode fs k).Within H := by
  induction fs with
  | nil => simp [Node.Within]
  | cons f fs ih =>
    obtain ⟨k', v⟩ := f
    rw [memberNode_cons]
    split
    · exact h _ List.mem_cons_self
    · exact ih fun kv hkv => h kv (List.mem_cons_of_mem _ hkv)

mutual

/-- The zero node of a shape nests no deeper than the shape. -/
theorem Node.within_zero : ∀ s : Shape, s.zero.Within s.depth
  | .record _ ms => by
    rw [Shape.zero, Node.Within, Shape.depth, zeroMembers_eq]
    refine ⟨by omega, fun kv hkv => ?_⟩
    obtain ⟨m, hm, rfl⟩ := List.mem_map.1 hkv
    exact (Node.within_zeroMembers ms m hm).mono (by simpa using Shape.depth_le_membersDepth hm)
  | .openRecord _ _ ms => by
    rw [Shape.zero, Node.Within, Shape.depth, zeroMembers_eq]
    refine ⟨by omega, fun kv hkv => ?_, by simp⟩
    obtain ⟨m, hm, rfl⟩ := List.mem_map.1 hkv
    exact (Node.within_zeroMembers ms m hm).mono (by simpa using Shape.depth_le_membersDepth hm)
  | .text _ | .flag | .int _ | .addr | .cidr | .any | .raw | .opt _ | .list _ | .dict _ _ => by
    simp [Shape.zero, Node.Within, height]

/-- The zero node of each member nests no deeper than its shape. -/
theorem Node.within_zeroMembers : ∀ ms : List Member, ∀ m ∈ ms, m.shape.zero.Within m.shape.depth
  | [] => by simp
  | .mk _ _ s :: ms => by
    intro m hm
    rcases List.mem_cons.1 hm with rfl | hm
    · exact Node.within_zero s
    · exact Node.within_zeroMembers ms m hm

end

/-- A node within a depth is written as JSON no higher than it. -/
theorem height_encode {s : Shape} {n : Node} (h : Fits s n) {H : ℕ} (hH : n.Within H) :
    height (encode s n) ≤ H := by
  induction h generalizing H with
  | any hj => simpa [encode, Node.Within] using hH
  | raw hj => simpa [encode, Node.Within] using hH
  | @some e x hx ih =>
    rw [Node.Within] at hH
    simpa [encode] using ih hH
  | @list e xs hxs ih =>
    rw [Node.Within] at hH
    have : heightItems (xs.map fun x => encode e x) ≤ H - 1 :=
      Json.heightItems_le_iff.2 fun j hj => by
        obtain ⟨x, hx, rfl⟩ := List.mem_map.1 hj
        exact ih x hx (hH.2 x hx)
    simp only [encode, height]
    omega
  | @dict k e es sorted keys values ih =>
    rw [Node.Within] at hH
    have : heightMembers (es.map fun kv => (kv.1.render, encode e kv.2)) ≤ H - 1 :=
      Json.heightMembers_le_iff.2 fun p hp => by
        obtain ⟨kv, hkv, rfl⟩ := List.mem_map.1 hp
        exact ih kv hkv (hH.2 kv hkv)
    simp only [encode, height]
    omega
  | @record ty ms fs names fields ih =>
    rw [Node.Within] at hH
    have : heightMembers (written ms fs) ≤ H - 1 :=
      Json.heightMembers_le_iff.2 fun kv hkv => by
        obtain ⟨m, hm, -, rfl⟩ := mem_written.1 hkv
        exact ih m hm (Node.within_memberNode hH.2 m.name)
    rw [encode_record, height]
    omega
  | @openRecord ty inner ms fs extra names fields sorted undeclared unfolded values ih =>
    rw [Node.Within] at hH
    have hw : ∀ kv ∈ written ms fs, height kv.2 ≤ H - 1 := fun kv hkv => by
      obtain ⟨m, hm, -, rfl⟩ := mem_written.1 hkv
      exact ih m hm (Node.within_memberNode hH.2.1 m.name)
    rw [encode_openRecord]
    split
    · have := Json.heightMembers_le_iff.2 hw
      rw [height]
      omega
    · have : heightMembers (Json.dictOf (written ms fs ++ extra.filter fun kv =>
          !(written ms fs).any (·.1 = kv.1))) ≤ H - 1 :=
        Json.heightMembers_le_iff.2 fun kv hkv => by
          rcases List.mem_append.1 (Json.mem_of_mem_dictOf hkv) with hkv | hkv
          · exact hw kv hkv
          · exact hH.2.2 kv (List.mem_filter.1 hkv).1
      rw [height]
      omega
  | _ => simp [encode, height]

/-! ### Runs that keep an invariant -/

/-- A fold whose every step keeps `P` keeps it. -/
theorem foldlM_invariant {α β ε : Type} {f : β → α → Except ε β} {P : β → Prop} {l : List α}
    (hstep : ∀ b a b', a ∈ l → P b → f b a = .ok b' → P b') :
    ∀ {b r : β}, P b → l.foldlM f b = .ok r → P r := by
  induction l with
  | nil =>
    intro b r hb h
    cases h
    exact hb
  | cons a l ih =>
    intro b r hb h
    rw [List.foldlM_cons] at h
    obtain ⟨b', hb', hr⟩ := exists_ok_of_bind h
    exact ih (fun b a b' ha => hstep b a b' (List.mem_cons_of_mem _ ha)) (hstep b a b' List.mem_cons_self hb hb') hr

/-- Every result of a map that succeeds comes from an item. -/
theorem mem_of_mapM {α β ε : Type} {f : α → Except ε β} :
    ∀ {l : List α} {ys : List β}, l.mapM f = .ok ys → ∀ y ∈ ys, ∃ x ∈ l, f x = .ok y
  | [], ys, h => by
    cases h
    simp
  | a :: l, ys, h => by
    rw [List.mapM_cons] at h
    obtain ⟨b, hb, h⟩ := exists_ok_of_bind h
    obtain ⟨bs, hbs, h⟩ := exists_ok_of_bind h
    cases h
    intro y hy
    rcases List.mem_cons.1 hy with rfl | hy
    · exact ⟨a, List.mem_cons_self, hb⟩
    · obtain ⟨x, hx, hfx⟩ := mem_of_mapM hbs y hy
      exact ⟨x, List.mem_cons_of_mem _ hx, hfx⟩

/-! ### Dictionaries and records under construction -/

/-- Entries of a dictionary of kind `k` and shape `e` as decoding keeps them,
each nesting at most `H` deep. -/
def EntriesFit (H : ℕ) (k : KeyKind) (e : Shape) (es : List (Key × Node)) : Prop :=
  (es.map (·.1.render)).Pairwise (· < ·) ∧ (∀ kv ∈ es, kv.1.Fits k) ∧ (∀ kv ∈ es, Fits e kv.2) ∧
    ∀ kv ∈ es, kv.2.Within H

theorem EntriesFit.insertEntry {H : ℕ} {k : KeyKind} {e : Shape} {es : List (Key × Node)} {key : Key}
    {x : Node} (h : EntriesFit H k e es) (hk : key.Fits k) (hx : Fits e x) (hxH : x.Within H) :
    EntriesFit H k e (insertEntry key x es) := by
  obtain ⟨hs, hks, hvs, hws⟩ := h
  refine ⟨sorted_insertEntry hs fun kv hkv he => Key.render_inj (hks kv hkv) hk he, fun kv hkv => ?_,
    fun kv hkv => ?_, fun kv hkv => ?_⟩
  all_goals rcases mem_insertEntry hkv with rfl | hkv
  exacts [hk, hks kv hkv, hx, hvs kv hkv, hxH, hws kv hkv]

/-- Members of a record of members `ms` as decoding keeps them, each nesting at
most `H` deep. -/
def MembersFit (H : ℕ) (ms : List Member) (fs : List (String × Node)) : Prop :=
  fs.map (·.1) = ms.map Member.name ∧ (∀ m ∈ ms, Fits m.shape (memberNode fs m.name)) ∧
    ∀ kv ∈ fs, kv.2.Within H

theorem mem_setMember {k : String} {x : Node} {fs : List (String × Node)} {kv : String × Node}
    (h : kv ∈ setMember k x fs) : kv = (k, x) ∨ kv ∈ fs := by
  induction fs with
  | nil => cases h
  | cons f fs ih =>
    obtain ⟨k', v⟩ := f
    unfold setMember at h
    split_ifs at h with hk
    · subst hk
      rcases List.mem_cons.1 h with h | h
      · exact .inl h
      · exact .inr (List.mem_cons_of_mem _ h)
    · rcases List.mem_cons.1 h with h | h
      · exact .inr (h ▸ List.mem_cons_self)
      · exact (ih h).imp_right (List.mem_cons_of_mem _)

theorem MembersFit.setMember {H : ℕ} {ms : List Member} {fs : List (String × Node)} {m : Member}
    {x : Node} (hn : (ms.map Member.name).Nodup) (h : MembersFit H ms fs) (hm : m ∈ ms)
    (hx : Fits m.shape x) (hxH : x.Within H) : MembersFit H ms (setMember m.name x fs) := by
  obtain ⟨hnames, hfs, hws⟩ := h
  refine ⟨by rw [names_setMember, hnames], fun m' hm' => ?_, fun kv hkv => ?_⟩
  · rw [memberNode_setMember]
    split_ifs with he
    · obtain rfl : m' = m := List.inj_on_of_nodup_map hn hm' hm he.1
      exact hx
    · exact hfs m' hm'
  · rcases mem_setMember hkv with rfl | hkv
    · exact hxH
    · exact hws kv hkv

theorem MembersFit.zeroMembers {H : ℕ} {ms : List Member} (hn : (ms.map Member.name).Nodup)
    (hw : ∀ m ∈ ms, m.shape.wf = true) (hd : Shape.membersDepth ms ≤ H) :
    MembersFit H ms (Shape.zeroMembers ms) := by
  refine ⟨by simp [zeroMembers_eq], fun m hm => ?_, fun kv hkv => ?_⟩
  · rw [zeroMembers_eq, memberNode_map hn hm]
    exact Fits.zero (hw m hm)
  · rw [zeroMembers_eq] at hkv
    obtain ⟨m, hm, rfl⟩ := List.mem_map.1 hkv
    exact (Node.within_zero m.shape).mono ((Shape.depth_le_membersDepth hm).trans hd)

/-! ### Decoding keeps the invariant -/

/-- Decoding a value whose numbers are JSON numbers into a node that fits the
shape gives a node that fits it, no deeper than the value, the node or the
shape. -/
theorem decodeInto_keeps {s : Shape} {cur : Node} {path : List String} {j : Json} {n : Node} {H : ℕ}
    (h : decodeInto s cur path j = .ok n) (hw : s.wf = true) (hc : Fits s cur) (hcH : cur.Within H)
    (hj : Json.Numbers j) (hjH : height j ≤ H) (hsH : s.depth ≤ H) : Fits s n ∧ n.Within H := by
  fun_induction decodeInto s cur path j generalizing n H with
  -- values put in as read
  | case1 | case4 | case12 =>
    cases h
    exact ⟨by constructor, by simp [Node.Within]⟩
  | case7 cur path ty lit i hi hr =>
    cases h
    exact ⟨.int ty hr.1 hr.2, by simp [Node.Within]⟩
  | case16 cur path v p hp =>
    cases h
    refine ⟨.cidr fun q hq => ?_, by simp [Node.Within]⟩
    subst hq
    simp only [Net.Prefix.parseText] at hp
    split at hp
    · cases hp
    · cases hq : Net.Prefix.parse v with
      | error e => simp [hq, Except.map] at hp
      | ok q' =>
        simp only [hq, Except.map, Except.ok.injEq, Option.some.injEq] at hp
        exact hp ▸ Net.Prefix.canonical_of_parse hq
  | case20 cur path j =>
    obtain ⟨j', hj', hn⟩ := exists_ok_of_bind h
    cases hn
    obtain ⟨hl, hheight⟩ := untyped_leaves path j j' hj'
    exact ⟨.any hl, by rw [Node.Within, hheight]; exact hjH⟩
  | case21 cur path j =>
    cases h
    exact ⟨.raw hj, by rw [Node.Within]; exact hjH⟩
  -- `null` keeps the node, or clears it
  | case2 | case5 | case10 | case14 | case18 | case30 =>
    cases h
    exact ⟨hc, hcH⟩
  | case22 | case24 | case27 =>
    cases h
    exact ⟨by constructor, by simp [Node.Within]⟩
  | case33 cur path ty inner ms =>
    cases h
    simp only [Shape.wf, Bool.and_eq_true, decide_eq_true_eq, Shape.membersWf_iff] at hw
    exact ⟨Fits.zero (s := .openRecord ty inner ms) (by simpa [Shape.wf] using hw),
      (Node.within_zero (.openRecord ty inner ms)).mono hsH⟩
  -- an optional value is read into what it holds
  | case23 =>
    rename_i cur path j e inner hnull ih
    obtain ⟨x, hx, hn⟩ := exists_ok_of_bind h
    cases hn
    simp only [Shape.wf, Bool.and_eq_true] at hw
    have hinner : Fits e inner ∧ inner.Within H := by
      simp only [inner]
      cases hc with
      | none => exact ⟨Fits.zero hw.2, (Node.within_zero e).mono hsH⟩
      | some hfx => exact ⟨hfx, by simpa [Node.Within] using hcH⟩
    obtain ⟨hfx, hxH⟩ := ih hx hw.2 hinner.1 hinner.2 hj hjH hsH
    exact ⟨.some hfx, by rw [Node.Within]; exact hxH⟩
  -- a list is read item by item from zero
  | case25 cur path e xs ih =>
    obtain ⟨ys, hys, hn⟩ := exists_ok_of_bind h
    cases hn
    simp only [Shape.wf] at hw
    have hd : e.depth + 1 ≤ H := hsH
    have hy : ∀ y ∈ ys, Fits e y ∧ y.Within (H - 1) := fun y hy => by
      obtain ⟨⟨x, i⟩, hxi, hxy⟩ := mem_of_mapM hys y hy
      have hx := List.fst_mem_of_mem_zipIdx hxi
      exact ih x i hxy hw (Fits.zero hw) ((Node.within_zero e).mono (by omega)) (hj.item x hx)
        (Json.height_item hjH x hx) (by omega)
    exact ⟨.list fun y hy' => (hy y hy').1, by rw [Node.Within]; exact ⟨by omega, fun y hy' => (hy y hy').2⟩⟩
  -- a dictionary is read entry by entry into the entries it had
  | case28 =>
    rename_i cur path k e L start step ih
    obtain ⟨es, hes, hn⟩ := exists_ok_of_bind h
    cases hn
    simp only [Shape.wf] at hw
    have hd : e.depth + 1 ≤ H := hsH
    have hstart : EntriesFit (H - 1) k e start := by
      simp only [start]
      split
      · rename_i es' 
        cases hc with
        | dict sorted keys values =>
          rw [Node.Within] at hcH
          exact ⟨sorted, keys, values, hcH.2⟩
      · simp [EntriesFit]
    have hfit := foldlM_invariant (P := EntriesFit (H - 1) k e) (fun acc kv acc' hkv hacc hstep => by
      simp only [step] at hstep
      obtain ⟨key, hkey, hstep⟩ := exists_ok_of_bind hstep
      obtain ⟨x, hx, hstep⟩ := exists_ok_of_bind hstep
      cases hstep
      obtain ⟨hfx, hxH⟩ := ih kv hx hw (Fits.zero hw) ((Node.within_zero e).mono (by omega))
        (hj.member kv hkv) (Json.height_member hjH kv hkv) (by omega)
      exact hacc.insertEntry (Key.fits_of_decodeKey hkey) hfx hxH) hstart hes
    exact ⟨.dict hfit.1 hfit.2.1 hfit.2.2.1, by rw [Node.Within]; exact ⟨by omega, hfit.2.2.2⟩⟩
  -- a record is read member by member into the members it had
  | case31 =>
    rename_i cur path ty ms L start step ih
    obtain ⟨fs, hfs, hn⟩ := exists_ok_of_bind h
    cases hn
    simp only [Shape.wf, Bool.and_eq_true, decide_eq_true_eq, Shape.membersWf_iff] at hw
    have hd : Shape.membersDepth ms + 1 ≤ H := hsH
    have hstart : MembersFit (H - 1) ms start := by
      simp only [start]
      split
      · cases hc with
        | record names fields =>
          rw [Node.Within] at hcH
          exact ⟨names, fields, hcH.2⟩
      · exact MembersFit.zeroMembers hw.1 hw.2 (by omega)
    have hfit := foldlM_invariant (P := MembersFit (H - 1) ms) (fun acc kv acc' hkv hacc hstep => by
      simp only [step] at hstep
      split at hstep
      · rename_i m hm _
        obtain ⟨x, hx, hstep⟩ := exists_ok_of_bind hstep
        cases hstep
        obtain ⟨hfx, hxH⟩ := ih acc kv m hm hx (hw.2 m hm) (hacc.2.1 m hm)
          (Node.within_memberNode hacc.2.2 m.name) (hj.member kv hkv) (Json.height_member hjH kv hkv)
          (by have := Shape.depth_le_membersDepth hm; omega)
        exact hacc.setMember hw.1 hm hfx hxH
      · cases hstep) hstart hfs
    exact ⟨.record hfit.1 hfit.2.1, by rw [Node.Within]; exact ⟨by omega, hfit.2.2⟩⟩
  -- an open record is read into zero members, and keeps the names it does not declare
  | case35 =>
    rename_i cur path ty inner ms L dict known hnone ih
    simp only [Shape.wf, Bool.and_eq_true, decide_eq_true_eq, Shape.membersWf_iff] at hw
    have hknown : known = ms.map Member.name := by simp [known]
    have hd : Shape.membersDepth ms + 1 ≤ H := hsH
    simp only [← hknown, hnone] at h
    split at h
    · cases h
    rename_i fs hfs
    cases h
    have hfit := foldlM_invariant (P := MembersFit (H - 1) ms) (fun acc kv acc' hkv hacc hstep => by
      split at hstep
      · rename_i m hm hfind
        have hname : m.name = kv.1 := by simpa using List.find?_some hfind
        obtain ⟨x, hx, hstep⟩ := exists_ok_of_bind hstep
        cases hstep
        rw [← hname] at hx ⊢
        obtain ⟨hfx, hxH⟩ := ih acc kv m hm (hname ▸ hx) (hw.2 m hm) (hname ▸ hacc.2.1 m hm)
          (Node.within_memberNode hacc.2.2 _) (hj.member kv hkv) (Json.height_member hjH kv hkv)
          (by have := Shape.depth_le_membersDepth hm; omega)
        exact hacc.setMember hw.1 hm hfx hxH
      · cases hstep
        exact hacc) (MembersFit.zeroMembers hw.1 hw.2 (by omega)) hfs
    have hextra : ∀ kv ∈ dict.filter (fun kv => !known.contains kv.1), kv ∈ dict ∧ kv.1 ∉ known :=
      fun kv hkv => by simpa using List.mem_filter.1 hkv
    refine ⟨.openRecord hfit.1 hfit.2.1 (Json.sorted_dictOf.sublist (List.filter_sublist.map _))
      (fun kv hkv => hknown ▸ (hextra kv hkv).2)
      (fun kv hkv => by simpa [← hknown] using List.find?_eq_none.1 hnone kv (hextra kv hkv).1)
      (fun kv hkv => hj.member kv (Json.mem_of_mem_dictOf (hextra kv hkv).1)), ?_⟩
    rw [Node.Within]
    exact ⟨by omega, hfit.2.2,
      fun kv hkv => Json.height_member hjH kv (Json.mem_of_mem_dictOf (hextra kv hkv).1)⟩
  -- a name matching a declared one only up to letter case is refused
  | case34 =>
    rename_i cur path ty inner ms L dict known k v hsome ih
    have hknown : known = ms.map Member.name := by simp [known]
    simp only [← hknown, hsome] at h
    cases h
  -- everything else is refused
  | _ => cases h

/-- A whole document decoded from a value with JSON numbers, against a
well-formed shape, fits the shape and nests no deeper than the value or the shape. -/
theorem decodeDocument_keeps {s : Shape} {root : String} {j : Json} {n : Node} {H : ℕ}
    (h : decodeDocument s root j = .ok n) (hw : s.wf = true) (hj : Json.Numbers j) (hjH : height j ≤ H)
    (hsH : s.depth ≤ H) : Fits s n ∧ n.Within H := by
  unfold decodeDocument at h
  split at h
  · cases h
  next hd =>
    cases h
    exact decodeInto_keeps hd hw (Fits.zero hw) ((Node.within_zero s).mono hsH) hj hjH hsH

end NetFleet.Schema
