import Mathlib
import NetFleet.Proofs.SettledReads
import NetFleet.Proofs.DecodeInvariant

/-!
# Defaults and reading back

Before the rules run, `applyDefaults` fills in a peer group's or neighbor's type
and the LSP MTU of IS-IS. A document read back is `settle s n`; this module shows
the defaults do not care which comes first, and that filling them in twice fills
in nothing more:

    applyDefaults k (settle k.documentShape doc) = settle k.documentShape (applyDefaults k doc)
    applyDefaults k (applyDefaults k doc) = applyDefaults k doc

and that a document with its defaults filled in still fits its shape and nests no
deeper. Each default changes the members of a record by name, so the first part
is about such changes in general (`settleMembers_map`, `Fits.record_map`).
-/

namespace NetFleet.Schema

section MapFields

variable {g : String × Node → String × Node} {fs : List (String × Node)} {ms : List Member}

/-- Changing the nodes of a record's members, each by its name, changes the node
of a member it has. -/
theorem memberNode_map_of_fst (hg : ∀ kv, (g kv).1 = kv.1) {name : String} (hk : name ∈ fs.map (·.1)) :
    memberNode (fs.map g) name = (g (name, memberNode fs name)).2 := by
  induction fs with
  | nil => cases hk
  | cons kv fs ih =>
    obtain ⟨k₀, v⟩ := kv
    have hkv : g (k₀, v) = (k₀, (g (k₀, v)).2) := Prod.ext (hg _) rfl
    rw [List.map_cons, hkv, memberNode_cons, memberNode_cons]
    rw [List.map_cons] at hk
    by_cases h : k₀ = name
    · subst h
      simp
    · simp only [h, if_false]
      exact ih ((List.mem_cons.1 hk).resolve_left (Ne.symm h))

/-- A change of member nodes that leaves the member `name` alone leaves its node alone. -/
theorem memberNode_map_of_eq (hg : ∀ kv, (g kv).1 = kv.1) {name : String} (hname : ∀ v, (g (name, v)).2 = v) :
    memberNode (fs.map g) name = memberNode fs name := by
  induction fs with
  | nil => rfl
  | cons kv fs ih =>
    obtain ⟨k₀, v⟩ := kv
    have hkv : g (k₀, v) = (k₀, (g (k₀, v)).2) := Prod.ext (hg _) rfl
    rw [List.map_cons, hkv, memberNode_cons, memberNode_cons, ih]
    by_cases h : k₀ = name
    · subst h
      simp [hname]
    · simp [h]

theorem names_map_of_fst (hg : ∀ kv, (g kv).1 = kv.1) : (fs.map g).map (·.1) = fs.map (·.1) := by
  simp [hg]

/-- A change of member nodes that commutes with reading back each member commutes
with reading back the record. -/
theorem settleMembers_map (hg : ∀ kv, (g kv).1 = kv.1) (hnames : fs.map (·.1) = ms.map Member.name)
    (hcomm : ∀ m ∈ ms, settleMember m.rule m.shape (g (m.name, memberNode fs m.name)).2 =
      (g (m.name, settleMember m.rule m.shape (memberNode fs m.name))).2) :
    settleMembers ms (fs.map g) = (settleMembers ms fs).map g := by
  rw [settleMembers_eq, settleMembers_eq, List.map_map]
  refine List.map_congr_left fun m hm => ?_
  have hk : m.name ∈ fs.map (·.1) := hnames ▸ List.mem_map_of_mem hm
  rw [memberNode_map_of_fst hg hk, hcomm m hm, Function.comp_apply]
  exact Prod.ext (hg (m.name, settleMember m.rule m.shape (memberNode fs m.name))).symm rfl

/-- A change of member nodes, each into a node of its member's shape, keeps a
record fitting its shape. -/
theorem Fits.record_map {ty : String} (h : Fits (.record ty ms) (.record fs)) (hg : ∀ kv, (g kv).1 = kv.1)
    (hfit : ∀ m ∈ ms, Fits m.shape (g (m.name, memberNode fs m.name)).2) :
    Fits (.record ty ms) (.record (fs.map g)) := by
  cases h with
  | record names fields =>
    refine .record (by rw [names_map_of_fst hg, names]) fun m hm => ?_
    rw [memberNode_map_of_fst hg (names ▸ List.mem_map_of_mem hm)]
    exact hfit m hm

theorem Node.within_record_map {H : ℕ} (h : (Node.record fs).Within H)
    (hwithin : ∀ kv ∈ fs, (g kv).2.Within (H - 1)) : (Node.record (fs.map g)).Within H := by
  rw [Node.Within] at h ⊢
  exact ⟨h.1, List.forall_mem_map.2 hwithin⟩

theorem settle_record_eq {s : Shape} {ty : String} (hs : s = .record ty ms) :
    settle s (.record fs) = .record (settleMembers ms fs) := by
  subst hs
  rfl

theorem Fits.record_cases {s : Shape} {v : Node} {ty : String} (h : Fits s v) (hs : s = .record ty ms) :
    ∃ fs, v = .record fs ∧ fs.map (·.1) = ms.map Member.name ∧ ∀ m ∈ ms, Fits m.shape (memberNode fs m.name) := by
  subst hs
  cases h with
  | record names fields => exact ⟨_, rfl, names, fields⟩


end MapFields

theorem Fits.dict_cases {k : KeyKind} {e : Shape} {v : Node} (h : Fits (.dict k e) v) :
    v = .nil ∨ ∃ es, v = .dict es ∧ ∀ kv ∈ es, Fits e kv.2 := by
  cases h with
  | dictNil => exact .inl rfl
  | dict _ _ values => exact .inr ⟨_, rfl, values⟩

/-- Changing each value of a dictionary into one of the same shape keeps it
fitting: the keys are the same. -/
theorem Fits.dict_map {k : KeyKind} {e : Shape} {es : List (Key × Node)} {f : Node → Node}
    (h : Fits (.dict k e) (.dict es)) (hf : ∀ x, Fits e x → Fits e (f x)) :
    Fits (.dict k e) (.dict (es.map fun kv => (kv.1, f kv.2))) := by
  cases h with
  | dict sorted keys values =>
    refine .dict (by simpa [Function.comp_def] using sorted) ?_ ?_
    all_goals
      simp only [List.mem_map]
      rintro _ ⟨kv, hkv, rfl⟩
    exacts [keys kv hkv, hf _ (values kv hkv)]

theorem Node.within_dict_map {H : ℕ} {es : List (Key × Node)} {f : Node → Node} (h : (Node.dict es).Within H)
    (hf : ∀ x, x.Within (H - 1) → (f x).Within (H - 1)) : (Node.dict (es.map fun kv => (kv.1, f kv.2))).Within H := by
  rw [Node.Within] at h ⊢
  exact ⟨h.1, List.forall_mem_map.2 fun kv hkv => hf _ (h.2 kv hkv)⟩

theorem settleMember_dict_of_ne_nil {r : Omission} {k : KeyKind} {e : Shape} {es : List (Key × Node)}
    (hes : es ≠ []) : settleMember r (.dict k e) (.dict es) = .dict (es.map fun kv => (kv.1, settle e kv.2)) := by
  have ho : omitted r (.dict es) = false := by
    cases r <;> simp [omitted, Node.isEmpty, Node.isZero, hes]
  simp [settleMember, ho, settle]

/-- A change of a dictionary's values that commutes with reading back each value
commutes with reading back the dictionary. -/
theorem Fits.settleMember_dict_comm {r : Omission} {k : KeyKind} {e : Shape} {v : Node} {f g : Node → Node}
    (h : Fits (.dict k e) v) (hf : ∀ x, Fits e x → f (settle e x) = settle e (f x))
    (hg : ∀ es, g (.dict es) = .dict (es.map fun kv => (kv.1, f kv.2))) (hnil : g .nil = .nil) :
    settleMember r (.dict k e) (g v) = g (settleMember r (.dict k e) v) := by
  rcases h.dict_cases with rfl | ⟨es, rfl, hes⟩
  · rw [hnil, settleMember_dict_nil, hnil]
  by_cases hne : es = []
  · -- an empty dictionary stays empty, or comes back absent
    subst hne
    rw [hg, List.map_nil]
    cases r <;> simp [settleMember, omitted, Node.isEmpty, Node.isZero, Shape.zero, settle, hg, hnil]
  · rw [hg, settleMember_dict_of_ne_nil hne, settleMember_dict_of_ne_nil (by simpa using hne), hg, List.map_map,
      List.map_map]
    exact congrArg Node.dict (List.map_congr_left fun kv hkv => by simp [hf _ (hes kv hkv)])

end NetFleet.Schema

namespace NetFleet.Column

open Schema

/-- A peer group or neighbor gets its type filled in the same whether read back
before or after. -/
theorem defaultPeerType_settle {s : Shape} {p : Node} (hs : s = peerGroup ∨ s = neighbor) (h : Fits s p) :
    defaultPeerType (settle s p) = settle s (defaultPeerType p) := by
  rcases hs with rfl | rfl <;>
  · obtain ⟨fs, rfl, names, fields⟩ := h.record_cases rfl
    simp only [defaultPeerType]
    rw [settle_record_eq (by rfl), settle_record_eq (by rfl)]
    rw [settleMembers_map ?_ names ?_]
    · rintro ⟨k, v⟩
      split <;> rfl
    · simp only [peerGroupMembers, metaMember, textE, addrZ, optRec, optInt, optInt64, optFlag, int, List.cons_append,
        List.nil_append, List.forall_mem_cons, List.not_mem_nil, IsEmpty.forall_iff, implies_true, and_true,
        Member.name_mk, Member.rule_mk, Member.shape_mk, String.reduceEq, false_and, if_false, true_and]
      rw [str_settleMember_text]
      split <;> simp [settleMember, omitted, Node.isEmpty]

theorem setDefaults_settle {k : Kind} {s : Node} (h : Fits k.setShape s) :
    setDefaults k (settle k.setShape s) = settle k.setShape (setDefaults k s) := by
  cases k with
  | bgp =>
    obtain ⟨fs, rfl, names, fields⟩ := h.record_cases (by rfl)
    simp only [setDefaults]
    rw [settle_record_eq (by rfl), settle_record_eq (by rfl)]
    rw [settleMembers_map ?_ names ?_]
    · rintro ⟨k, v⟩
      split
      · split <;> rfl
      · rfl
    · simp only [metaMember, optRec, List.forall_mem_cons, List.not_mem_nil, IsEmpty.forall_iff, implies_true,
        and_true, Member.name_mk, Member.rule_mk, Member.shape_mk] at fields ⊢
      obtain ⟨-, -, -, hgroups, hneighbors⟩ := fields
      simp only [String.reduceEq, or_self, or_false, false_or, if_false, if_true, true_and]
      -- the peer groups and the neighbors get their type entry by entry
      refine ⟨?_, ?_⟩
      · generalize memberNode fs "peer_groups" = w at hgroups ⊢
        apply hgroups.settleMember_dict_comm fun _ hx => defaultPeerType_settle (.inl rfl) hx
        · exact fun _ => rfl
        · rfl
      · generalize memberNode fs "neighbors" = w at hneighbors ⊢
        apply hneighbors.settleMember_dict_comm fun _ hx => defaultPeerType_settle (.inr rfl) hx
        · exact fun _ => rfl
        · rfl
  | protocol =>
    obtain ⟨fs, rfl, names, fields⟩ := h.record_cases (by rfl)
    simp only [setDefaults]
    rw [settle_record_eq (by rfl), settle_record_eq (by rfl)]
    rw [settleMembers_map ?_ names ?_]
    · rintro ⟨k, v⟩
      split
      · split <;> rfl
      · rfl
    · simp only [metaMember, optRec, List.forall_mem_cons, List.not_mem_nil, IsEmpty.forall_iff, implies_true,
        and_true, Member.name_mk, Member.rule_mk, Member.shape_mk] at fields ⊢
      obtain ⟨-, hisis, -, -⟩ := fields
      simp only [String.reduceEq, if_false, if_true, true_and, and_true]
      -- IS-IS: absent, or a record whose LSP MTU is filled in
      rcases hisis.opt_cases with hv | ⟨y, hv, hy⟩
      · simp [hv]
      obtain ⟨ifs, rfl, inames, ifields⟩ := hy.record_cases (by rfl)
      rw [hv]
      simp only [settleMember_opt_some]
      rw [settle_record_eq (by rfl), settle_record_eq (by rfl)]
      simp only
      rw [settleMembers_map ?_ inames ?_]
      · rintro ⟨k, v⟩
        split <;> rfl
      · simp only [metaMember, optRec, optInt, text, List.forall_mem_cons, List.not_mem_nil, IsEmpty.forall_iff,
          implies_true, and_true, Member.name_mk, Member.rule_mk, Member.shape_mk] at ifields ⊢
        obtain ⟨-, -, hmtu, -⟩ := ifields
        simp only [String.reduceEq, false_and, if_false, true_and, and_true]
        rcases hmtu.opt_cases with hw | ⟨w, hw, hw'⟩ <;> simp [hw, Node.isNil]
  | _ => rfl

/-- Filling in defaults commutes with reading back a column document. -/
theorem applyDefaults_settle {k : Kind} {doc : Node} (h : Fits k.documentShape doc) :
    applyDefaults k (settle k.documentShape doc) = settle k.documentShape (applyDefaults k doc) := by
  obtain ⟨fs, rfl, names, fields⟩ := h.record_cases (by rfl)
  simp only [applyDefaults]
  rw [settle_record_eq (by rfl), settle_record_eq (by rfl)]
  rw [settleMembers_map ?_ names ?_]
  · rintro ⟨name, v⟩
    split
    · split <;> rfl
    · rfl
  · simp only [metaMember, List.forall_mem_cons, List.not_mem_nil, IsEmpty.forall_iff, implies_true, and_true,
      Member.name_mk, Member.rule_mk, Member.shape_mk] at fields ⊢
    obtain ⟨-, -, hcolumn⟩ := fields
    simp only [String.reduceEq, if_false, if_true, true_and]
    -- every set gets its defaults
    generalize memberNode fs "column" = w at hcolumn ⊢
    apply hcolumn.settleMember_dict_comm fun _ hx => setDefaults_settle hx
    · exact fun _ => rfl
    · rfl

theorem defaultPeerType_idem (p : Node) : defaultPeerType (defaultPeerType p) = defaultPeerType p := by
  cases p with
  | record fs =>
    simp only [defaultPeerType, List.map_map]
    refine congrArg Node.record (List.map_congr_left fun kv _ => ?_)
    obtain ⟨k, v⟩ := kv
    by_cases hk : k = "type" ∧ v.str = ""
    · have hebgp : (Node.text "ebgp").str = "ebgp" := rfl
      simp [hk, hebgp]
    · simp [hk]
  | _ => rfl

theorem setDefaults_idem (k : Kind) (s : Node) : setDefaults k (setDefaults k s) = setDefaults k s := by
  cases k with
  | bgp =>
    cases s with
    | record fs =>
      simp only [setDefaults, List.map_map]
      refine congrArg Node.record (List.map_congr_left fun kv _ => ?_)
      obtain ⟨k, v⟩ := kv
      by_cases hk : k = "peer_groups" ∨ k = "neighbors"
      · cases v <;> simp [hk, defaultPeerType_idem]
      · simp [hk]
    | _ => rfl
  | protocol =>
    cases s with
    | record fs =>
      simp only [setDefaults, List.map_map]
      refine congrArg Node.record (List.map_congr_left fun kv _ => ?_)
      obtain ⟨k, v⟩ := kv
      by_cases hk : k = "isis"
      · subst hk
        cases v with
        | some x =>
          cases x with
          | record ifs =>
            simp only [Function.comp_apply, ↓reduceIte, List.map_map]
            refine congrArg (fun fs => ("isis", Node.some (Node.record fs)))
              (List.map_congr_left fun kv' _ => ?_)
            obtain ⟨k', v'⟩ := kv'
            by_cases hk' : k' = "lsp_mtu" ∧ v'.isNil = true
            · simp [hk']
            · simp [hk']
          | _ => rfl
        | _ => rfl
      · simp [hk]
    | _ => rfl
  | _ => rfl

/-- Filling in defaults twice fills in nothing more. -/
theorem applyDefaults_idem (k : Kind) (doc : Node) : applyDefaults k (applyDefaults k doc) = applyDefaults k doc := by
  cases doc with
  | record fs =>
    simp only [applyDefaults, List.map_map]
    refine congrArg Node.record (List.map_congr_left fun kv _ => ?_)
    obtain ⟨name, v⟩ := kv
    by_cases hk : name = "column"
    · cases v <;> simp [hk, setDefaults_idem]
    · simp [hk]
  | _ => rfl

/-- Defaults are filled in under `column` only. -/
theorem member_applyDefaults {k : Kind} {doc : Node} {name : String} (h : name ≠ "column") :
    (applyDefaults k doc).member name = doc.member name := by
  cases doc with
  | record fs =>
    simp only [applyDefaults, Node.member_record]
    refine memberNode_map_of_eq ?_ fun v => by simp [h]
    rintro ⟨name, v⟩
    split
    · split <;> rfl
    · rfl
  | _ => rfl

/-! ### Defaults keep a document fitting its shape -/

theorem fits_defaultPeerType {s : Shape} {p : Node} (hs : s = peerGroup ∨ s = neighbor) (h : Fits s p) :
    Fits s (defaultPeerType p) := by
  rcases hs with rfl | rfl <;>
  · obtain ⟨fs, rfl, names, fields⟩ := h.record_cases (by rfl)
    simp only [defaultPeerType]
    refine h.record_map ?_ ?_
    · rintro ⟨k, v⟩
      split <;> rfl
    · simp only [peerGroupMembers, metaMember, textE, addrZ, optRec, optInt, optInt64, optFlag, List.cons_append,
        List.nil_append, List.forall_mem_cons, List.not_mem_nil, IsEmpty.forall_iff, implies_true, and_true,
        Member.name_mk, Member.shape_mk] at fields ⊢
      simp only [String.reduceEq, false_and, if_false, true_and, fields, and_true]
      split
      · exact .text _ _
      · exact fields.2.1

theorem fits_setDefaults {k : Kind} {s : Node} (h : Fits k.setShape s) : Fits k.setShape (setDefaults k s) := by
  cases k with
  | bgp =>
    obtain ⟨fs, rfl, names, fields⟩ := h.record_cases (by rfl)
    simp only [setDefaults]
    refine h.record_map ?_ ?_
    · rintro ⟨k, v⟩
      split
      · split <;> rfl
      · rfl
    · simp only [metaMember, optRec, List.forall_mem_cons, List.not_mem_nil, IsEmpty.forall_iff, implies_true,
        and_true, Member.name_mk, Member.shape_mk] at fields ⊢
      obtain ⟨hmeta, hopts, haf, hgroups, hneighbors⟩ := fields
      simp only [String.reduceEq, or_self, or_false, false_or, if_false, if_true, hmeta, hopts, haf, true_and]
      constructor
      · rcases hgroups.dict_cases with hv | ⟨es, hv, -⟩ <;> rw [hv] at hgroups ⊢
        · exact hgroups
        · exact hgroups.dict_map fun _ hx => fits_defaultPeerType (.inl rfl) hx
      · rcases hneighbors.dict_cases with hv | ⟨es, hv, -⟩ <;> rw [hv] at hneighbors ⊢
        · exact hneighbors
        · exact hneighbors.dict_map fun _ hx => fits_defaultPeerType (.inr rfl) hx
  | protocol =>
    obtain ⟨fs, rfl, names, fields⟩ := h.record_cases (by rfl)
    simp only [setDefaults]
    refine h.record_map ?_ ?_
    · rintro ⟨k, v⟩
      split
      · split <;> rfl
      · rfl
    · simp only [metaMember, optRec, List.forall_mem_cons, List.not_mem_nil, IsEmpty.forall_iff, implies_true,
        and_true, Member.name_mk, Member.shape_mk] at fields ⊢
      obtain ⟨hmeta, hisis, hlldp, hservices⟩ := fields
      simp only [String.reduceEq, if_false, if_true, hmeta, hlldp, hservices, true_and, and_true]
      rcases hisis.opt_cases with hv | ⟨y, hv, hy⟩
      · rw [hv] at hisis ⊢
        exact hisis
      obtain ⟨ifs, rfl, inames, ifields⟩ := hy.record_cases (by rfl)
      rw [hv]
      refine .some (hy.record_map ?_ ?_)
      · rintro ⟨k, v⟩
        split <;> rfl
      · simp only [metaMember, optRec, optInt, text, List.forall_mem_cons, List.not_mem_nil, IsEmpty.forall_iff,
          implies_true, and_true, Member.name_mk, Member.shape_mk] at ifields ⊢
        obtain ⟨hm, hlevel, hmtu, hiso, hifaces, hredist⟩ := ifields
        simp only [String.reduceEq, false_and, if_false, true_and, hm, hlevel, hiso, hifaces, hredist, and_true]
        split
        · exact .some (.int _ (by norm_num) (by norm_num))
        · exact hmtu
  | _ => exact h

theorem fits_applyDefaults {k : Kind} {doc : Node} (h : Fits k.documentShape doc) :
    Fits k.documentShape (applyDefaults k doc) := by
  obtain ⟨fs, rfl, names, fields⟩ := h.record_cases (by rfl)
  simp only [applyDefaults]
  refine h.record_map ?_ ?_
  · rintro ⟨name, v⟩
    split
    · split <;> rfl
    · rfl
  · simp only [metaMember, List.forall_mem_cons, List.not_mem_nil, IsEmpty.forall_iff, implies_true, and_true,
      Member.name_mk, Member.shape_mk] at fields ⊢
    obtain ⟨hmeta, htype, hcolumn⟩ := fields
    simp only [String.reduceEq, if_false, if_true, hmeta, htype, true_and]
    rcases hcolumn.dict_cases with hv | ⟨es, hv, -⟩ <;> rw [hv] at hcolumn ⊢
    · exact hcolumn
    · exact hcolumn.dict_map fun _ hx => fits_setDefaults hx

/-! ### Defaults nest no deeper -/

theorem within_defaultPeerType {H : ℕ} {p : Node} (h : p.Within H) : (defaultPeerType p).Within H := by
  cases p with
  | record fs =>
    simp only [defaultPeerType]
    refine Node.within_record_map h fun kv hkv => ?_
    rw [Node.Within] at h
    split
    · simp [Node.Within]
    · exact h.2 kv hkv
  | _ => exact h

theorem within_setDefaults {H : ℕ} {k : Kind} {s : Node} (h : s.Within H) : (setDefaults k s).Within H := by
  cases k with
  | bgp =>
    cases s with
    | record fs =>
      simp only [setDefaults]
      refine Node.within_record_map h fun kv hkv => ?_
      obtain ⟨name, v⟩ := kv
      rw [Node.Within] at h
      have hv := h.2 _ hkv
      split
      · cases v with
        | dict es => exact Node.within_dict_map hv fun _ hx => within_defaultPeerType hx
        | _ => exact hv
      · exact hv
    | _ => exact h
  | protocol =>
    cases s with
    | record fs =>
      simp only [setDefaults]
      refine Node.within_record_map h fun kv hkv => ?_
      obtain ⟨name, v⟩ := kv
      rw [Node.Within] at h
      have hv := h.2 _ hkv
      split
      · cases v with
        | some x =>
          cases x with
          | record ifs =>
            rw [Node.Within] at hv ⊢
            refine Node.within_record_map hv fun kv' hkv' => ?_
            obtain ⟨name', v'⟩ := kv'
            rw [Node.Within] at hv
            split
            · simp [Node.Within]
            · exact hv.2 _ hkv'
          | _ => exact hv
        | _ => exact hv
      · exact hv
    | _ => exact h
  | _ => exact h

theorem within_applyDefaults {H : ℕ} {k : Kind} {doc : Node} (h : doc.Within H) :
    (applyDefaults k doc).Within H := by
  cases doc with
  | record fs =>
    simp only [applyDefaults]
    refine Node.within_record_map h fun kv hkv => ?_
    obtain ⟨name, v⟩ := kv
    rw [Node.Within] at h
    have hv := h.2 _ hkv
    split
    · cases v with
      | dict es => exact Node.within_dict_map hv fun _ hx => within_setDefaults hx
      | _ => exact hv
    · exact hv
  | _ => exact h

end NetFleet.Column