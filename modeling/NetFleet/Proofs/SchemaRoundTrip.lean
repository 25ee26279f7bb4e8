import Mathlib
import NetFleet.Proofs.NodeFit

/-!
# Writing a node and reading it back

A node that fits its shape is read back from its written form as `settle s n`,
the node with every member that was left out made zero:

    decodeInto s s.zero path (encode s n) = .ok (settle s n)

and what comes back is written as the node was (`encode_settle`). Every member
name of the written form is one the shape declares (`unknownMember?_encode`),
and every number in it is a JSON number (`numbers_encode`), so the written form
has a text.

A record is written member by member in declaration order and read back into
its zero members one name at a time; an open record that keeps undeclared
members is written as one dictionary sorted by name. Either way each name is
met once, so reading it back sets each written member from zero
(`foldlM_setMember`), whatever the order.
-/

namespace NetFleet.Schema

/-! ### Written forms -/

/-- The members of a record as written: those not left out, in declaration order. -/
def written (ms : List Member) (fs : List (String × Node)) : List (String × Json) :=
  ms.filterMap fun m =>
    if omitted m.rule (memberNode fs m.name) then none else some (m.name, encode m.shape (memberNode fs m.name))

theorem encode_record (ty : String) (ms : List Member) (fs : List (String × Node)) :
    encode (.record ty ms) (.record fs) = .obj (written ms fs) := by
  rw [encode, List.filterMap_subtype (fun _ _ => rfl), List.unattach_attach]
  rfl

theorem encode_openRecord (ty inner : String) (ms : List Member) (fs : List (String × Node))
    (extra : List (String × Json)) :
    encode (.openRecord ty inner ms) (.openRecord fs extra) =
      if extra.isEmpty then .obj (written ms fs)
      else .obj (Json.dictOf (written ms fs ++ extra.filter fun kv => !(written ms fs).any (·.1 = kv.1))) := by
  rw [encode, List.filterMap_subtype (fun _ _ => rfl), List.unattach_attach]
  rfl

section Written

variable {ms : List Member} {fs : List (String × Node)}

theorem mem_written {kv : String × Json} : kv ∈ written ms fs ↔
    ∃ m ∈ ms, omitted m.rule (memberNode fs m.name) = false ∧
      kv = (m.name, encode m.shape (memberNode fs m.name)) := by
  simp only [written, List.mem_filterMap]
  constructor
  · rintro ⟨m, hm, h⟩
    split_ifs at h with ho
    exact ⟨m, hm, by simpa using ho, (Option.some.inj h).symm⟩
  · rintro ⟨m, hm, ho, rfl⟩
    exact ⟨m, hm, by simp [ho]⟩

theorem names_written : (written ms fs).map (·.1) =
    (ms.filter fun m => !omitted m.rule (memberNode fs m.name)).map Member.name := by
  induction ms with
  | nil => rfl
  | cons m ms ih =>
    by_cases ho : omitted m.rule (memberNode fs m.name) = true
    · simp [written, ho, ← ih]
    · simp [written, ho, ← ih]

/-- A member is written exactly when it is not left out. -/
theorem mem_names_written {m : Member} (hn : (ms.map Member.name).Nodup) (hm : m ∈ ms) :
    m.name ∈ (written ms fs).map (·.1) ↔ omitted m.rule (memberNode fs m.name) = false := by
  rw [names_written, List.mem_map]
  constructor
  · rintro ⟨m', hm', he⟩
    rw [List.mem_filter] at hm'
    have : m' = m := List.inj_on_of_nodup_map hn hm'.1 hm he
    subst this
    simpa using hm'.2
  · intro ho
    exact ⟨m, List.mem_filter.2 ⟨hm, by simp [ho]⟩, rfl⟩

theorem nodup_names_written (hn : (ms.map Member.name).Nodup) : ((written ms fs).map (·.1)).Nodup := by
  rw [names_written]
  exact hn.sublist (List.filter_sublist.map _)

theorem declared_of_mem_written {kv : String × Json} (h : kv ∈ written ms fs) : kv.1 ∈ ms.map Member.name := by
  obtain ⟨m, hm, -, rfl⟩ := mem_written.1 h
  exact List.mem_map_of_mem hm

end Written

/-! ### Member names -/

section Names

variable {ms : List Member} {m : Member} (hn : (ms.map Member.name).Nodup) (hm : m ∈ ms)
include hn hm

theorem find?_name : ms.find? (·.name = m.name) = some m := by
  induction ms with
  | nil => cases hm
  | cons m' ms ih =>
    rw [List.map_cons, List.nodup_cons] at hn
    rcases List.mem_cons.1 hm with rfl | hm'
    · simp
    · have : m'.name ≠ m.name := fun h => hn.1 (h ▸ List.mem_map_of_mem hm')
      simp [this, ih hn.2 hm']

theorem find?_attach_name : ms.attach.find? (·.1.name = m.name) = some ⟨m, hm⟩ := by
  have hsub : (ms.attach.find? (·.1.name = m.name)).map Subtype.val = some m := by
    rw [@List.find?_subtype _ _ ms.attach (fun x => decide (x.1.name = m.name))
      (fun x => decide (x.name = m.name)) (fun _ _ => rfl), List.unattach_attach, find?_name hn hm]
  obtain ⟨⟨m', hm'⟩, hfind, rfl⟩ := Option.map_eq_some_iff.1 hsub
  exact hfind

/-- A declared name is read into the member of that name. -/
theorem pickMember_name : pickMember ms m.name = some ⟨m, hm⟩ := by
  simp [pickMember, find?_attach_name hn hm]

end Names

theorem setMember_of_not_mem {k : String} {n : Node} {fs : List (String × Node)} (h : k ∉ fs.map (·.1)) :
    setMember k n fs = fs := by
  induction fs with
  | nil => rfl
  | cons f fs ih =>
    obtain ⟨k', v⟩ := f
    simp only [List.map_cons, List.mem_cons, not_or] at h
    simp [setMember, Ne.symm h.1, ih h.2]

theorem foldsToAny_of_mem {k : String} {known : List String} (h : k ∈ known) : foldsToAny k known = false := by
  simp [foldsToAny, h]

/-! ### Reading members back one name at a time -/

section Fold

variable {t : String → Node}

theorem names_foldl_setMember (L : List (String × Json)) (acc : List (String × Node)) :
    (L.foldl (fun acc kv => setMember kv.1 (t kv.1) acc) acc).map (·.1) = acc.map (·.1) := by
  induction L generalizing acc with
  | nil => rfl
  | cons kv L ih => rw [List.foldl_cons, ih, names_setMember]

/-- Setting the members named in `L` changes just those the record has. -/
theorem memberNode_foldl_setMember (L : List (String × Json)) (acc : List (String × Node)) (k : String) :
    memberNode (L.foldl (fun acc kv => setMember kv.1 (t kv.1) acc) acc) k =
      if k ∈ L.map (·.1) ∧ k ∈ acc.map (·.1) then t k else memberNode acc k := by
  induction L generalizing acc with
  | nil => simp
  | cons kv L ih =>
    rw [List.foldl_cons, ih, names_setMember, memberNode_setMember]
    by_cases hk : k = kv.1
    · subst hk
      by_cases ha : kv.1 ∈ acc.map (·.1) <;> simp [ha]
    · simp only [List.map_cons, List.mem_cons, hk, false_or, false_and, if_false]

/-- A fold whose every step sets the member of its name from zero, over names met
once each, sets them all. -/
theorem foldlM_setMember {step : List (String × Node) → String × Json → DecodeM (List (String × Node))}
    {L : List (String × Json)} {z : String → Node} {N : List String} (hL : (L.map (·.1)).Nodup)
    (hstep : ∀ acc, acc.map (·.1) = N → ∀ kv ∈ L, memberNode acc kv.1 = z kv.1 →
      step acc kv = .ok (setMember kv.1 (t kv.1) acc)) :
    ∀ acc, acc.map (·.1) = N → (∀ kv ∈ L, memberNode acc kv.1 = z kv.1) →
      L.foldlM step acc = .ok (L.foldl (fun acc kv => setMember kv.1 (t kv.1) acc) acc) := by
  induction L with
  | nil => intros; rfl
  | cons kv L ih =>
    intro acc hN hz
    rw [List.map_cons, List.nodup_cons] at hL
    rw [List.foldlM_cons, hstep acc hN kv List.mem_cons_self (hz kv List.mem_cons_self), List.foldl_cons]
    refine ih hL.2 (fun acc hN kv' hkv' => hstep acc hN kv' (List.mem_cons_of_mem _ hkv')) _
      (by rw [names_setMember, hN]) fun kv' hkv' => ?_
    -- the names still to come are not the one just set
    have hne : kv'.1 ≠ kv.1 := fun h => hL.1 (h ▸ List.mem_map_of_mem hkv')
    rw [memberNode_setMember, if_neg (fun h => hne h.1)]
    exact hz kv' (List.mem_cons_of_mem _ hkv')

/-- Setting the members a record writes, from zero, gives the record read back. -/
theorem foldl_settle {ms : List Member} {fs : List (String × Node)} {L : List (String × Json)}
    (hn : (ms.map Member.name).Nodup)
    (hL : ∀ m ∈ ms, m.name ∈ L.map (·.1) ↔ omitted m.rule (memberNode fs m.name) = false) :
    L.foldl (fun acc kv => setMember kv.1 (memberNode (settleMembers ms fs) kv.1) acc)
      (Shape.zeroMembers ms) = settleMembers ms fs := by
  have hz : (Shape.zeroMembers ms).map (·.1) = ms.map Member.name := by simp [zeroMembers_eq]
  have hs : (settleMembers ms fs).map (·.1) = ms.map Member.name := by simp [settleMembers_eq]
  refine fields_ext (by rw [names_foldl_setMember, hz]; exact hn)
    (by rw [names_foldl_setMember, hz, hs]) fun k hk => ?_
  rw [names_foldl_setMember, hz] at hk
  obtain ⟨m, hm, rfl⟩ := List.mem_map.1 hk
  rw [memberNode_foldl_setMember, hz]
  by_cases ho : omitted m.rule (memberNode fs m.name) = false
  · rw [if_pos ⟨(hL m hm).2 ho, hk⟩]
  · rw [if_neg fun h => ho ((hL m hm).1 h.1), zeroMembers_eq, memberNode_map hn hm, settleMembers_eq,
      memberNode_map hn hm]
    simp only [Bool.not_eq_false] at ho
    simp [settleMember, ho]

end Fold

/-! ### Reading back -/

/-- A node of a shape never written `null` is not written `null`. -/
theorem encode_ne_null {s : Shape} {n : Node} (hs : s.neverNull = true) (h : Fits s n) :
    encode s n ≠ .null := by
  cases h with
  | openRecord =>
    rw [encode_openRecord]
    split <;> simp
  | record => simp [encode_record]
  | _ => simp_all [Shape.neverNull, encode]

theorem mapM_zipIdx_encode {e : Shape} {xs : List Node} {path : List String}
    (ih : ∀ x ∈ xs, ∀ path, decodeInto e e.zero path (encode e x) = .ok (settle e x)) (i : ℕ) :
    ((xs.map (encode e)).zipIdx i).mapM (fun p => decodeInto e e.zero (path ++ [toString p.2]) p.1) =
      .ok (xs.map (settle e)) := by
  induction xs generalizing i with
  | nil => rfl
  | cons x xs ihxs =>
    rw [List.map_cons, List.zipIdx_cons, List.mapM_cons, ih x List.mem_cons_self,
      ihxs (fun y hy => ih y (List.mem_cons_of_mem _ hy))]
    rfl

/-- Entries written in key order are read back in that order, each put last. -/
theorem foldlM_insertEntry {k : KeyKind} {e : Shape} {path : List String} {es acc : List (Key × Node)}
    (hsorted : (acc.map (·.1.render) ++ es.map (·.1.render)).Pairwise (· < ·))
    (hkeys : ∀ kv ∈ es, kv.1.Fits k)
    (ih : ∀ kv ∈ es, ∀ path, decodeInto e e.zero path (encode e kv.2) = .ok (settle e kv.2)) :
    (es.map fun kv => (kv.1.render, encode e kv.2)).foldlM
      (fun acc kv => do
        let kk ← decodeKey k kv.1
        let n ← decodeInto e e.zero (path ++ [kv.1]) kv.2
        pure (insertEntry kk n acc)) acc =
      .ok (acc ++ es.map fun kv => (kv.1, settle e kv.2)) := by
  induction es generalizing acc with
  | nil => simp; rfl
  | cons kv es ihes =>
    have hlt : ∀ a ∈ acc, a.1.render < kv.1.render := fun a ha =>
      (List.pairwise_append.1 hsorted).2.2 _ (List.mem_map_of_mem ha) _
        (List.mem_map_of_mem List.mem_cons_self)
    have heq : (acc ++ [(kv.1, settle e kv.2)]).map (·.1.render) ++ es.map (·.1.render) =
        acc.map (·.1.render) ++ (kv :: es).map (·.1.render) := by simp
    simp only [List.map_cons, List.foldlM_cons, decodeKey_render (hkeys kv List.mem_cons_self),
      ih kv List.mem_cons_self]
    change List.foldlM _ (insertEntry kv.1 (settle e kv.2) acc) _ = _
    rw [insertEntry_of_lt hlt, ihes (heq ▸ hsorted) (fun kv hkv => hkeys kv (List.mem_cons_of_mem _ hkv))
      (fun kv hkv => ih kv (List.mem_cons_of_mem _ hkv))]
    simp

theorem decodeInto_record_written {ty : String} {ms : List Member} {fs : List (String × Node)}
    (hn : (ms.map Member.name).Nodup)
    (ih : ∀ m ∈ ms, ∀ path, decodeInto m.shape m.shape.zero path (encode m.shape (memberNode fs m.name)) =
      .ok (settle m.shape (memberNode fs m.name))) (path : List String) :
    decodeInto (.record ty ms) (Shape.record ty ms).zero path (.obj (written ms fs)) =
      .ok (.record (settleMembers ms fs)) := by
  have hz : (Shape.record ty ms).zero = .record (Shape.zeroMembers ms) := rfl
  rw [hz, decodeInto]
  rw [foldlM_setMember (t := memberNode (settleMembers ms fs)) (z := memberNode (Shape.zeroMembers ms))
    (N := ms.map Member.name) (nodup_names_written hn) ?_ _ (by simp [zeroMembers_eq]) fun _ _ => rfl,
    foldl_settle hn fun m hm => mem_names_written hn hm]
  · rfl
  · intro acc hacc kv hkv hz
    obtain ⟨m, hm, ho, rfl⟩ := mem_written.1 hkv
    simp only [pickMember_name hn hm]
    rw [hz, zeroMembers_eq, memberNode_map hn hm, ih m hm, settleMembers_eq, memberNode_map hn hm]
    simp [settleMember, ho]

/-- An open record given an object whose declared names each come once, as
written, and none of whose other names matches a declared one up to case, reads
back its declared members and keeps the others. -/
theorem decodeInto_openRecord_obj {ty inner : String} {ms : List Member} {fs : List (String × Node)}
    {L : List (String × Json)} {cur : Node} (hn : (ms.map Member.name).Nodup)
    (hL : (L.map (·.1)).Nodup) (hfold : ∀ kv ∈ L, foldsToAny kv.1 (ms.map Member.name) = false)
    (hwritten : ∀ kv ∈ L, kv.1 ∈ ms.map Member.name → kv ∈ written ms fs)
    (hnames : ∀ m ∈ ms, m.name ∈ L.map (·.1) ↔ omitted m.rule (memberNode fs m.name) = false)
    (ih : ∀ m ∈ ms, ∀ path, decodeInto m.shape m.shape.zero path (encode m.shape (memberNode fs m.name)) =
      .ok (settle m.shape (memberNode fs m.name))) (path : List String) :
    decodeInto (.openRecord ty inner ms) cur path (.obj L) =
      .ok (.openRecord (settleMembers ms fs)
        ((Json.dictOf L).filter fun kv => !(ms.map Member.name).contains kv.1)) := by
  have hfind : (Json.dictOf L).find? (fun kv => foldsToAny kv.1 (ms.map Member.name)) = none :=
    List.find?_eq_none.2 fun kv hkv => by simp [hfold kv (Json.mem_of_mem_dictOf hkv)]
  rw [decodeInto]
  simp only [hfind]
  rw [foldlM_setMember (t := memberNode (settleMembers ms fs)) (z := memberNode (Shape.zeroMembers ms))
    (N := ms.map Member.name) hL ?_ _ (by simp [zeroMembers_eq]) fun _ _ => rfl,
    foldl_settle hn hnames]
  · rfl
  · intro acc hacc kv hkv hz
    by_cases hk : kv.1 ∈ ms.map Member.name
    · obtain ⟨m, hm, ho, rfl⟩ := mem_written.1 (hwritten kv hkv hk)
      simp only [find?_attach_name hn hm]
      rw [hz, zeroMembers_eq, memberNode_map hn hm, ih m hm, settleMembers_eq, memberNode_map hn hm]
      simp [settleMember, ho]
    · -- an undeclared name is kept aside, and no member is set
      have hnone : ms.attach.find? (fun x => decide (x.1.name = kv.1)) = none :=
        List.find?_eq_none.2 fun x _ => by
          obtain ⟨m, hm⟩ := x
          simpa using fun (h : m.name = kv.1) => hk (h ▸ List.mem_map_of_mem hm)
      simp only [hnone]
      rw [setMember_of_not_mem (hacc ▸ hk)]
      rfl

/-- The undeclared members written beside the declared ones are the ones read
back beside them. -/
theorem extras_written {ms : List Member} {fs : List (String × Node)} {extra : List (String × Json)}
    (hn : (ms.map Member.name).Nodup) (sorted : (extra.map (·.1)).Pairwise (· < ·))
    (undeclared : ∀ kv ∈ extra, kv.1 ∉ ms.map Member.name) :
    (Json.dictOf (Json.dictOf (written ms fs ++ extra))).filter
      (fun kv => !(ms.map Member.name).contains kv.1) = extra := by
  rw [Json.dictOf_of_sorted Json.sorted_dictOf]
  have hnd : ((written ms fs ++ extra).map (·.1)).Nodup := by
    rw [List.map_append, List.nodup_append]
    exact ⟨nodup_names_written hn, sorted.nodup, fun a ha b hb hab => by
      obtain ⟨kv, hkv, rfl⟩ := List.mem_map.1 ha
      obtain ⟨kv', hkv', rfl⟩ := List.mem_map.1 hb
      exact undeclared kv' hkv' (hab ▸ declared_of_mem_written hkv)⟩
  refine Json.eq_of_sorted ?_ sorted fun kv => ?_
  · exact Json.sorted_dictOf.sublist (List.filter_sublist.map _)
  · simp only [List.mem_filter, Bool.not_eq_true', Bool.eq_false_iff, ne_eq, List.contains_iff_mem]
    constructor
    · rintro ⟨hkv, hk⟩
      rcases List.mem_append.1 (Json.mem_of_mem_dictOf hkv) with hkv | hkv
      · exact absurd (declared_of_mem_written hkv) hk
      · exact hkv
    · intro hkv
      obtain ⟨k, v⟩ := kv
      exact ⟨Json.mem_dictOf_of_nodup hnd (List.mem_append_right _ hkv), undeclared _ hkv⟩

theorem decodeInto_encode {s : Shape} {n : Node} (hw : s.wf = true) (h : Fits s n) (path : List String) :
    decodeInto s s.zero path (encode s n) = .ok (settle s n) := by
  induction h generalizing path with
  | text ty t => simp [encode, decodeInto, settle, pure, Except.pure]
  | flag b => simp [encode, decodeInto, settle, pure, Except.pure]
  | @int ty i lo hi =>
    have he : encode (.int ty) (.int i) = .num (toString i) := by simp [encode]
    rw [he, decodeInto, Decimal.Literal.toInt?_toString]
    have hr : -Int.pow 2 63 ≤ _ ∧ _ < Int.pow 2 63 := ⟨lo, hi⟩
    simp only [hr, and_self, if_true]
    rfl
  | addr a => simp [encode, decodeInto, settle, Net.Addr.parseText_render, pure, Except.pure]
  | cidr hp => simp [encode, decodeInto, settle, Net.Prefix.parseText_render hp, pure, Except.pure]
  | any hj =>
    simp [encode, decodeInto, settle, untyped_of_doubles _ _ (hj.mono fun _ h => h.settled.1)]
  | raw hj => simp [encode, decodeInto, settle, pure, Except.pure]
  | none e => simp [encode, decodeInto, settle, pure, Except.pure]
  | @some e x hx ih =>
    simp only [Shape.wf, Bool.and_eq_true] at hw
    have he : encode (.opt e) (.some x) = encode e x := by simp [encode]
    have hne := encode_ne_null hw.1 hx
    rw [he, decodeInto]
    · rw [ih hw.2]
      rfl
    all_goals simp [hne, Shape.zero]
  | listNil e => simp [encode, decodeInto, settle, pure, Except.pure]
  | @list e xs hxs ih =>
    simp only [Shape.wf] at hw
    have he : encode (.list e) (.list xs) = .arr (xs.map (encode e)) := by simp [encode]
    rw [he, decodeInto, mapM_zipIdx_encode fun x hx => ih x hx hw]
    rfl
  | dictNil k e => simp [encode, decodeInto, settle, pure, Except.pure]
  | @dict k e es sorted keys values ih =>
    simp only [Shape.wf] at hw
    have he : encode (.dict k e) (.dict es) = .obj (es.map fun kv => (kv.1.render, encode e kv.2)) := by
      simp [encode]
    have hz : (Shape.dict k e).zero = .nil := rfl
    rw [he, hz, decodeInto]
    · rw [foldlM_insertEntry (by simpa using sorted) keys fun kv hkv => ih kv hkv hw]
      rfl
    all_goals simp
  | @record ty ms fs names fields ih =>
    simp only [Shape.wf, Bool.and_eq_true, decide_eq_true_eq, Shape.membersWf_iff] at hw
    rw [encode_record, decodeInto_record_written hw.1 fun m hm => ih m hm (hw.2 m hm)]
    rfl
  | @openRecord ty inner ms fs extra names fields sorted undeclared unfolded values ih =>
    simp only [Shape.wf, Bool.and_eq_true, decide_eq_true_eq, Shape.membersWf_iff] at hw
    have ih' := fun m hm => ih m hm (hw.2 m hm)
    rw [encode_openRecord]
    split
    · -- only declared members: written in declaration order
      rename_i he
      obtain rfl := List.isEmpty_iff.1 he
      rw [decodeInto_openRecord_obj hw.1 (nodup_names_written hw.1)
        (fun kv hkv => foldsToAny_of_mem (declared_of_mem_written hkv)) (fun kv hkv _ => hkv)
        (fun m hm => mem_names_written hw.1 hm) ih']
      have hnil : (Json.dictOf (written ms fs)).filter (fun kv => !(ms.map Member.name).contains kv.1) = [] :=
        List.filter_eq_nil_iff.2 fun kv hkv => by
          simp [declared_of_mem_written (Json.mem_of_mem_dictOf hkv)]
      rw [hnil]
      rfl
    · -- undeclared members too: everything written as one dictionary
      have hkeep : (extra.filter fun kv => !(written ms fs).any (·.1 = kv.1)) = extra :=
        List.filter_eq_self.2 fun kv hkv => by
          simp only [Bool.not_eq_true', List.any_eq_false, decide_eq_true_eq]
          intro kv' hkv' h
          exact undeclared kv hkv (h ▸ declared_of_mem_written hkv')
      have hfrom : ∀ kv ∈ Json.dictOf (written ms fs ++ extra), kv ∈ written ms fs ∨ kv ∈ extra :=
        fun kv hkv => List.mem_append.1 (Json.mem_of_mem_dictOf hkv)
      rw [hkeep, decodeInto_openRecord_obj hw.1 Json.sorted_dictOf.nodup
        (fun kv hkv => (hfrom kv hkv).elim (fun h => foldsToAny_of_mem (declared_of_mem_written h))
          (unfolded kv))
        (fun kv hkv hk => (hfrom kv hkv).resolve_right fun h => undeclared kv h hk)
        (fun m hm => by
          rw [Json.mem_keys_dictOf, List.map_append, List.mem_append,
            or_iff_left fun h => by
              obtain ⟨kv, hkv, he⟩ := List.mem_map.1 h
              exact undeclared kv hkv (he ▸ List.mem_map_of_mem hm)]
          exact mem_names_written hw.1 hm) ih',
        extras_written hw.1 sorted undeclared]
      rfl

/-- A whole document written from a node reads back as the node settled. -/
theorem decodeDocument_encode {s : Shape} {n : Node} (hw : s.wf = true) (h : Fits s n) (root : String) :
    decodeDocument s root (encode s n) = .ok (settle s n) := by
  simp [decodeDocument, decodeInto_encode hw h]

/-! ### What comes back is written as the node was -/

/-- Reading back keeps whether a member is left out. -/
theorem omitted_settle (r : Omission) {s : Shape} {n : Node} (h : Fits s n) :
    omitted r (settle s n) = omitted r n := by
  cases h <;> cases r <;> simp [settle, omitted, Node.isEmpty, Node.isZero]

/-- A member left out is left out again once it is zero. -/
theorem omitted_zero {r : Omission} {s : Shape} {n : Node} (h : Fits s n) (ho : omitted r n = true) :
    omitted r s.zero = true := by
  cases h <;> cases r <;> simp_all [omitted, Node.isEmpty, Node.isZero, Shape.zero]

/-- The members written of a record read back are those written of the record. -/
theorem written_settleMembers {ms : List Member} {fs : List (String × Node)} (hn : (ms.map Member.name).Nodup)
    (fields : ∀ m ∈ ms, Fits m.shape (memberNode fs m.name))
    (ih : ∀ m ∈ ms, encode m.shape (settle m.shape (memberNode fs m.name)) = encode m.shape (memberNode fs m.name)) :
    written ms (settleMembers ms fs) = written ms fs := by
  refine List.filterMap_congr fun m hm => ?_
  rw [settleMembers_eq, memberNode_map hn hm]
  by_cases ho : omitted m.rule (memberNode fs m.name) = true
  · simp [settleMember, ho, omitted_zero (fields m hm) ho]
  · simp only [Bool.not_eq_true] at ho
    simp [settleMember, ho, omitted_settle _ (fields m hm), ih m hm]

theorem encode_settle {s : Shape} {n : Node} (hw : s.wf = true) (h : Fits s n) :
    encode s (settle s n) = encode s n := by
  induction h with
  | @some e x hx ih =>
    simp only [Shape.wf, Bool.and_eq_true] at hw
    simpa [settle, encode] using ih hw.2
  | @list e xs hxs ih =>
    simp only [Shape.wf] at hw
    simpa [settle, encode] using List.map_congr_left fun x hx => ih x hx hw
  | @dict k e es sorted keys values ih =>
    simp only [Shape.wf] at hw
    simpa [settle, encode] using List.map_congr_left fun kv hkv => ih kv hkv hw
  | @record ty ms fs names fields ih =>
    simp only [Shape.wf, Bool.and_eq_true, decide_eq_true_eq, Shape.membersWf_iff] at hw
    rw [settle, encode_record, encode_record,
      written_settleMembers hw.1 fields fun m hm => ih m hm (hw.2 m hm)]
  | @openRecord ty inner ms fs extra names fields sorted undeclared unfolded values ih =>
    simp only [Shape.wf, Bool.and_eq_true, decide_eq_true_eq, Shape.membersWf_iff] at hw
    rw [settle, encode_openRecord, encode_openRecord,
      written_settleMembers hw.1 fields fun m hm => ih m hm (hw.2 m hm)]
  | _ => rfl

/-! ### Written member names are declared -/

theorem unknownMember?_null : ∀ (s : Shape) (path : String), unknownMember? s path .null = none
  | .opt e, path => by rw [unknownMember?]; exact unknownMember?_null e path
  | .text _, _ | .flag, _ | .int _, _ | .addr, _ | .cidr, _ | .any, _ | .raw, _ | .list _, _
  | .dict _ _, _ | .record _ _, _ | .openRecord _ _ _, _ => by simp [unknownMember?]

/-- Every member name in the written form of a node is declared by its shape. -/
theorem unknownMember?_encode {s : Shape} {n : Node} (hw : s.wf = true) (h : Fits s n) (path : String) :
    unknownMember? s path (encode s n) = none := by
  induction h generalizing path with
  | none e =>
    have he : encode (.opt e) .nil = .null := by simp [encode]
    rw [he]
    exact unknownMember?_null _ path
  | @some e x hx ih =>
    simp only [Shape.wf, Bool.and_eq_true] at hw
    have he : encode (.opt e) (.some x) = encode e x := by simp [encode]
    rw [he, unknownMember?]
    exact ih hw.2 path
  | @list e xs hxs ih =>
    simp only [Shape.wf] at hw
    have he : encode (.list e) (.list xs) = .arr (xs.map (encode e)) := by simp [encode]
    rw [he, unknownMember?]
    refine firstM_eq_none.2 fun ji hp => ?_
    obtain ⟨j, i⟩ := ji
    obtain ⟨x, hx, rfl⟩ := List.mem_map.1 (List.fst_mem_of_mem_zipIdx hp)
    exact ih x hx hw _
  | @dict k e es sorted keys values ih =>
    simp only [Shape.wf] at hw
    have he : encode (.dict k e) (.dict es) = .obj (es.map fun kv => (kv.1.render, encode e kv.2)) := by
      simp [encode]
    rw [he, unknownMember?]
    refine firstM_eq_none.2 fun p hp => ?_
    obtain ⟨kv, hkv, rfl⟩ := List.mem_map.1 (Json.mem_of_mem_dictOf hp)
    exact ih kv hkv hw _
  | @record ty ms fs names fields ih =>
    simp only [Shape.wf, Bool.and_eq_true, decide_eq_true_eq, Shape.membersWf_iff] at hw
    rw [encode_record, unknownMember?]
    refine firstM_eq_none.2 fun p hp => ?_
    obtain ⟨m, hm, -, rfl⟩ := mem_written.1 (Json.mem_of_mem_dictOf hp)
    dsimp only
    rw [find?_attach_name hw.1 hm]
    exact ih m hm (hw.2 m hm) _
  | listNil e => simp [unknownMember?, encode]
  | dictNil k e => simp [unknownMember?, encode]
  | _ => simp [unknownMember?]

/-! ### Written numbers are JSON numbers -/

theorem numbers_encode {s : Shape} {n : Node} (h : Fits s n) : Json.Numbers (encode s n) := by
  induction h with
  | int ty lo hi => simpa [encode, Json.Leaves] using Json.numText_toString _
  | any hj => simpa [encode] using hj.mono fun _ ht => ht.settled.2
  | raw hj => simpa [encode] using hj
  | @some e x hx ih => simpa [encode] using ih
  | @list e xs hxs ih =>
    simp only [encode, Json.Numbers, Json.Leaves, List.mem_map]
    rintro _ ⟨x, hx, rfl⟩
    exact ih x hx
  | @dict k e es sorted keys values ih =>
    simp only [encode, Json.Numbers, Json.Leaves, List.mem_map]
    rintro _ ⟨kv, hkv, rfl⟩
    exact ih kv hkv
  | @record ty ms fs names fields ih =>
    rw [encode_record, Json.Numbers, Json.Leaves]
    intro kv hkv
    obtain ⟨m, hm, -, rfl⟩ := mem_written.1 hkv
    exact ih m hm
  | @openRecord ty inner ms fs extra names fields sorted undeclared unfolded values ih =>
    have hw : ∀ kv ∈ written ms fs, Json.Numbers kv.2 := fun kv hkv => by
      obtain ⟨m, hm, -, rfl⟩ := mem_written.1 hkv
      exact ih m hm
    rw [encode_openRecord]
    split
    · rw [Json.Numbers, Json.Leaves]
      exact hw
    · rw [Json.Numbers, Json.Leaves]
      intro kv hkv
      rcases List.mem_append.1 (Json.mem_of_mem_dictOf hkv) with hkv | hkv
      · exact hw kv hkv
      · exact values kv (List.mem_filter.1 hkv).1
  | _ => simp [encode, Json.Leaves]

end NetFleet.Schema
