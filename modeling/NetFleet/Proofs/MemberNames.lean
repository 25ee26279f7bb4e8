import Mathlib
import NetFleet.Column.Document

/-!
# Strict member names

A column document is checked twice for the names of its members. The walk
(`Schema.unknownMember?`) refuses a name that its shape does not declare, names
compared exactly; the decoder then routes each member to the member of that
name, or else to one whose name matches it up to letter case, and refuses a name
that matches none. Device variables are an open record: decoding them refuses a
name that matches a declared variable only up to letter case, and keeps the
others.

The walk reads an object as the dictionary it denotes (`Json.dictOf`): a name
given twice counts once, with its last value. So every name the accepted text
holds where its shape has a record is declared, as long as no object of the text
names a member twice (`strict_member_names`); a name that only an earlier,
shadowed value holds is not looked at by the walk
(`shadowed_member_name_accepted`). A name that matches a declared variable only
up to letter case is refused wherever decoding reaches it, shadowed or not.
-/

namespace NetFleet

namespace Json

/-- No object of the value names a member twice. -/
def Distinct : Json → Prop
  | .arr xs => ∀ x ∈ xs, Distinct x
  | .obj ms => (ms.map (·.1)).Nodup ∧ ∀ kv ∈ ms, Distinct kv.2
  | _ => True
decreasing_by
  · have := List.sizeOf_lt_of_mem ‹x ∈ xs›
    simp only [Json.arr.sizeOf_spec]
    omega
  · have := List.sizeOf_lt_of_mem ‹kv ∈ ms›
    obtain ⟨k, v⟩ := kv
    simp only [Json.obj.sizeOf_spec, Prod.mk.sizeOf_spec] at this ⊢
    omega

variable {ms : List (String × Json)} {k : String} {v : Json}

/-- A member appended last decides the lookup of its name. -/
@[simp] theorem lookup?_append_single (ms : List (String × Json)) (k' : String) (v' : Json) :
    lookup? (ms ++ [(k', v')]) k = if k' = k then some v' else lookup? ms k := by
  simp [lookup?, List.foldl_append]

/-- A name an object holds looks up to a value it holds under that name. -/
theorem lookup?_of_mem (h : (k, v) ∈ ms) : ∃ v', lookup? ms k = some v' ∧ (k, v') ∈ ms := by
  induction ms using List.reverseRecOn with
  | nil => cases h
  | append_singleton ms kv ih =>
    obtain ⟨k', v'⟩ := kv
    by_cases hk : k' = k
    · subst hk
      exact ⟨v', by simp, by simp⟩
    · have hin : (k, v) ∈ ms := by
        rcases List.mem_append.1 h with h | h
        · exact h
        · simp only [List.mem_singleton, Prod.mk.injEq] at h
          exact absurd h.1.symm hk
      obtain ⟨w, hw, hw'⟩ := ih hin
      exact ⟨w, by simp [hk, hw], List.mem_append_left _ hw'⟩

/-- In an object that names each member once, a member is what its name looks up. -/
theorem lookup?_of_nodup (hn : (ms.map (·.1)).Nodup) (h : (k, v) ∈ ms) :
    lookup? ms k = some v := by
  obtain ⟨v', hv', hm⟩ := lookup?_of_mem h
  have := List.inj_on_of_nodup_map hn hm h rfl
  simp only [Prod.mk.injEq, true_and] at this
  rw [hv', this]

/-- A name inserted among names is there, beside the others. -/
theorem mem_insertName {x k : String} {ns : List String} :
    x ∈ insertName k ns ↔ x = k ∨ x ∈ ns := by
  induction ns with
  | nil => simp [insertName]
  | cons n ns ih =>
    unfold insertName
    split <;> simp [ih, or_left_comm]

/-- Sorting names keeps every name. -/
theorem mem_sortNames {x : String} {ks : List String} : x ∈ sortNames ks ↔ x ∈ ks := by
  induction ks with
  | nil => simp [sortNames]
  | cons k ks ih =>
    rw [sortNames, List.foldr_cons, mem_insertName, ← sortNames, ih, List.mem_cons]

/-- The dictionary of an object holds each of its names with the value the name
looks up. -/
theorem mem_dictOf {kv : String × Json} :
    kv ∈ dictOf ms ↔ kv.1 ∈ ms.map (·.1) ∧ lookup? ms kv.1 = some kv.2 := by
  obtain ⟨k, v⟩ := kv
  simp only [dictOf, names, List.mem_filterMap, mem_sortNames, List.mem_eraseDups,
    Option.map_eq_some_iff]
  constructor
  · rintro ⟨k', hk', w, hw, hkv⟩
    simp only [Prod.mk.injEq] at hkv
    obtain ⟨rfl, rfl⟩ := hkv
    exact ⟨hk', hw⟩
  · rintro ⟨hk, hv⟩
    exact ⟨k, hk, v, hv, rfl⟩

/-- Every name of an object is a name of its dictionary. -/
theorem exists_mem_dictOf (h : (k, v) ∈ ms) : ∃ v', (k, v') ∈ dictOf ms := by
  obtain ⟨v', hv', -⟩ := lookup?_of_mem h
  exact ⟨v', mem_dictOf.2 ⟨List.mem_map.2 ⟨_, h, rfl⟩, hv'⟩⟩

/-- An object that names each member once is its own dictionary, up to order. -/
theorem mem_dictOf_of_nodup (hn : (ms.map (·.1)).Nodup) (h : (k, v) ∈ ms) :
    (k, v) ∈ dictOf ms :=
  mem_dictOf.2 ⟨List.mem_map.2 ⟨_, h, rfl⟩, lookup?_of_nodup hn h⟩

end Json

namespace Schema

/-- A search that finds nothing found nothing in any item. -/
theorem firstM_eq_none {α β : Type} {f : α → Option β} {xs : List α} :
    xs.firstM f = none ↔ ∀ x ∈ xs, f x = none := by
  induction xs with
  | nil => simp [List.firstM, failure]
  | cons x xs ih => simp [List.firstM, ih]

/-- Every member name that `j` holds where shape `s` places a record is a name
that record declares, at every depth. Dictionary keys, free-form JSON, open
records, and values of a kind the shape does not expect are left free. -/
def Declared (s : Shape) (j : Json) : Prop :=
  match s, j with
  | .opt e, j => Declared e j
  | .list e, .arr xs => ∀ x ∈ xs, Declared e x
  | .dict _ e, .obj ms => ∀ kv ∈ ms, Declared e kv.2
  | .record _ members, .obj ms =>
    ∀ kv ∈ ms, ∃ m, ∃ _ : m ∈ members, m.name = kv.1 ∧ Declared m.shape kv.2
  | _, _ => True
termination_by sizeOf s
decreasing_by
  all_goals simp only [Shape.opt.sizeOf_spec, Shape.list.sizeOf_spec, Shape.dict.sizeOf_spec,
    Shape.record.sizeOf_spec]
  all_goals first
    | omega
    | exact Nat.lt_of_lt_of_le (Member.sizeOf_shape_lt (by assumption)) (by omega)

/-- The walk is sound: when it finds no undeclared name in a value that names no
member twice, every name there is declared. The induction follows the walk; the
hypothesis on names is what lets the walk's dictionaries stand for the objects. -/
theorem declared_of_walk (s : Shape) (path : String) (j : Json)
    (hw : unknownMember? s path j = none) (hd : j.Distinct) : Declared s j := by
  fun_induction unknownMember? s path j with
  | case1 path j e ih =>
    rw [Declared]
    exact ih hw hd
  | case2 path e xs ih =>
    rw [Declared]
    intro x hx
    obtain ⟨i, hi⟩ := List.mem_iff_getElem?.1 hx
    have hmem : (x, i) ∈ xs.zipIdx := List.mem_zipIdx_iff_getElem?.2 hi
    rw [Json.Distinct] at hd
    exact ih x i (firstM_eq_none.1 hw (x, i) hmem) (hd x hx)
  | case4 path key e ms ih =>
    rw [Declared]
    rintro ⟨k, v⟩ hkv
    rw [Json.Distinct] at hd
    have hmem := Json.mem_dictOf_of_nodup hd.1 hkv
    exact ih k v (firstM_eq_none.1 hw (k, v) hmem) (hd.2 _ hkv)
  | case6 path ty members ms ih =>
    rw [Declared]
    rintro ⟨k, v⟩ hkv
    rw [Json.Distinct] at hd
    have hmem := Json.mem_dictOf_of_nodup hd.1 hkv
    have hstep := firstM_eq_none.1 hw (k, v) hmem
    simp only at hstep
    split at hstep
    · rename_i m hm hfind
      have hname : m.name = k := by simpa using List.find?_some hfind
      exact ⟨m, hm, hname, ih k v m hm hstep (hd.2 _ hkv)⟩
    · cases hstep
  -- a value of a kind the walk passes over constrains nothing
  | case3 path j e hj => cases j <;> simp_all [Declared]
  | case5 path j key e hj => cases j <;> simp_all [Declared]
  | case7 path j ty members hj => cases j <;> simp_all [Declared]
  | case8 s path j ho hl hdi hr => cases s <;> simp_all [Declared]

section Refusal

variable {ε α β : Type}

/-- A fold stops at an item that no accumulator gets past. -/
theorem foldlM_error_of_mem {f : β → α → Except ε β} {x : α} {xs : List α} (hx : x ∈ xs)
    (hf : ∀ b, ∃ e, f b x = .error e) (init : β) : ∃ e, xs.foldlM f init = .error e := by
  induction xs generalizing init with
  | nil => cases hx
  | cons y ys ih =>
    rw [List.foldlM_cons]
    rcases List.mem_cons.1 hx with rfl | hx
    · obtain ⟨e, he⟩ := hf init
      exact ⟨e, by rw [he]; rfl⟩
    · rcases hy : f init y with e | b
      · exact ⟨e, rfl⟩
      · exact ih hx b

/-- A map stops at an item it cannot map. -/
theorem mapM_error_of_mem {f : α → Except ε β} {x : α} {xs : List α} (hx : x ∈ xs)
    (hf : ∃ e, f x = .error e) : ∃ e, xs.mapM f = .error e := by
  induction xs with
  | nil => cases hx
  | cons y ys ih =>
    rw [List.mapM_cons]
    rcases List.mem_cons.1 hx with rfl | hx
    · obtain ⟨e, he⟩ := hf
      exact ⟨e, by rw [he]; rfl⟩
    · rcases hy : f y with e | b
      · exact ⟨e, rfl⟩
      · obtain ⟨e, he⟩ := ih hx
        exact ⟨e, by rw [he]; rfl⟩

/-- A computation that fails fails whatever follows it. -/
theorem bind_error_of_error {x : Except ε α} {f : α → Except ε β} (h : ∃ e, x = .error e) :
    ∃ e, (x >>= f) = .error e := by
  obtain ⟨e, rfl⟩ := h
  exact ⟨e, rfl⟩

end Refusal

/-- Decoding `j` against `s` fails, whatever node it decodes into and wherever
`j` stands. -/
def Refused (s : Shape) (j : Json) : Prop :=
  ∀ cur path, ∃ e, decodeInto s cur path j = .error e

variable {ty inner : String} {members : List Member} {ms : List (String × Json)} {k : String}
  {v : Json} {e : Shape}

/-- An open record refuses an object with a name that matches a declared name
only up to letter case. -/
theorem refused_openRecord (h : (k, v) ∈ ms) (hf : foldsToAny k (members.map (·.name)) = true) :
    Refused (.openRecord ty inner members) (.obj ms) := by
  intro cur path
  obtain ⟨v', hv'⟩ := Json.exists_mem_dictOf h
  rw [decodeInto]
  cases hfind : (Json.dictOf ms).find? (fun kv => foldsToAny kv.1 (members.map (·.name))) with
  | none => exact absurd (List.find?_eq_none.1 hfind (k, v') hv') (by simpa using hf)
  | some kv =>
    obtain ⟨k', v''⟩ := kv
    exact ⟨_, rfl⟩

/-- An optional value refuses what its value refuses, `null` apart. -/
theorem refused_opt {j : Json} (h : Refused e j) (hj : j ≠ .null) : Refused (.opt e) j := by
  intro cur path
  rw [decodeInto.eq_def]
  simp only
  exact bind_error_of_error (h _ path)

/-- A list refuses an array with an item it refuses. -/
theorem refused_list {x : Json} {xs : List Json} (hx : x ∈ xs) (h : Refused e x) :
    Refused (.list e) (.arr xs) := by
  intro cur path
  obtain ⟨i, hi⟩ := List.mem_iff_getElem?.1 hx
  have hmem : (x, i) ∈ xs.zipIdx := List.mem_zipIdx_iff_getElem?.2 hi
  rw [decodeInto.eq_def]
  simp only
  apply bind_error_of_error
  exact mapM_error_of_mem hmem (h _ _)

/-- A dictionary refuses an object with an entry it refuses. -/
theorem refused_dict {key : KeyKind} (hkv : (k, v) ∈ ms) (h : Refused e v) :
    Refused (.dict key e) (.obj ms) := by
  intro cur path
  rw [decodeInto.eq_def]
  simp only
  apply bind_error_of_error
  -- the entry fails at its key or at its value, whatever came before it
  refine foldlM_error_of_mem hkv (fun es => ?_) _
  rcases decodeKey key k with err | kk
  · exact ⟨err, rfl⟩
  · obtain ⟨err, herr⟩ := h e.zero (path ++ [k])
    exact ⟨err, by simp only [herr]; rfl⟩

/-- A record refuses an object with a member whose value the member it picks refuses. -/
theorem refused_record {m : {m // m ∈ members}} (hkv : (k, v) ∈ ms)
    (hm : pickMember members k = some m) (h : Refused m.1.shape v) :
    Refused (.record ty members) (.obj ms) := by
  intro cur path
  rw [decodeInto.eq_def]
  simp only
  apply bind_error_of_error
  refine foldlM_error_of_mem hkv (fun fs => ?_) _
  simp only [hm]
  exact bind_error_of_error (h _ _)

/-- The member of a name, when one is declared by that name, is the one decoding picks. -/
theorem pickMember_of_find {m : Member} (h : members.find? (·.name = k) = some m) :
    ∃ hm, pickMember members k = some ⟨m, hm⟩ := by
  have hsub : (members.attach.find? (·.1.name = k)).map Subtype.val = some m := by
    rw [@List.find?_subtype _ _ members.attach (fun x => decide (x.1.name = k))
      (fun x => decide (x.name = k)) (fun _ _ => rfl), List.unattach_attach, h]
  obtain ⟨⟨m', hm⟩, hfind, rfl⟩ := Option.map_eq_some_iff.1 hsub
  exact ⟨hm, by simp [pickMember, hfind]⟩

/-- `j` holds, where shape `s` places an open record, a member whose name matches
a name the record declares only up to letter case; the place is reached through
members, items and entries as decoding reaches it. -/
inductive FoldClash : Shape → Json → Prop
  | here {ty inner : String} {members : List Member} {ms : List (String × Json)} {k : String}
      {v : Json} :
      (k, v) ∈ ms → foldsToAny k (members.map (·.name)) = true →
      FoldClash (.openRecord ty inner members) (.obj ms)
  | inner {e : Shape} {j : Json} : FoldClash e j → FoldClash (.opt e) j
  | item {e : Shape} {xs : List Json} {x : Json} :
      x ∈ xs → FoldClash e x → FoldClash (.list e) (.arr xs)
  | entry {key : KeyKind} {e : Shape} {ms : List (String × Json)} {k : String} {v : Json} :
      (k, v) ∈ ms → FoldClash e v → FoldClash (.dict key e) (.obj ms)
  | member {ty : String} {members : List Member} {ms : List (String × Json)} {k : String}
      {v : Json} {m : {m // m ∈ members}} :
      (k, v) ∈ ms → pickMember members k = some m → FoldClash m.1.shape v →
      FoldClash (.record ty members) (.obj ms)

/-- A clash under a member declared by its exact name. -/
theorem FoldClash.named {ty : String} {members : List Member} {ms : List (String × Json)}
    {k : String} {v : Json} {m : Member} (hkv : (k, v) ∈ ms)
    (hm : members.find? (·.name = k) = some m) (h : FoldClash m.shape v) : FoldClash (.record ty members) (.obj ms) := by
  obtain ⟨hm', hpick⟩ := pickMember_of_find hm
  exact .member hkv hpick h

/-- A clash stands in an object or an array. -/
theorem FoldClash.ne_null {s : Shape} {j : Json} (h : FoldClash s j) : j ≠ .null := by
  induction h with
  | inner _ ih => exact ih
  | _ => simp

/-- A clash is refused wherever it stands. -/
theorem FoldClash.refused {s : Shape} {j : Json} (h : FoldClash s j) : Refused s j := by
  induction h with
  | here hkv hf => exact refused_openRecord hkv hf
  | inner h ih => exact refused_opt ih h.ne_null
  | item hx _ ih => exact refused_list hx ih
  | entry hkv _ ih => exact refused_dict hkv ih
  | member hkv hm _ ih => exact refused_record hkv hm ih

end Schema

namespace Column.Document

open Schema

variable {k : Kind} {text : String} {j : Json} {rest : List Char} {msg : String}

/-- A text with a member name its shape does not declare is refused with the
walk's message. -/
theorem decode_of_unknown (hj : Json.parseFirst text = .ok (j, rest))
    (hw : unknownMember? k.documentShape "" j = some msg) :
    decode k text = .error (invalid msg) := by
  simp only [decode, decodeIn, prepare, hj, pure_bind, hw]
  rfl

/-- A text whose value the shape refuses is refused with the decoder's message. -/
theorem decode_of_refused (hj : Json.parseFirst text = .ok (j, rest))
    (hw : unknownMember? k.documentShape "" j = none)
    (hd : decodeDocument k.documentShape k.documentName j = .error msg) :
    decode k text = .error (invalid msg) := by
  simp only [decode, decodeIn, prepare, hj, pure_bind, hw, hd]
  rfl

/-- An accepted text passed the walk. -/
theorem walk_of_accepted (hj : Json.parseFirst text = .ok (j, rest))
    (hok : (decode k text).isOk) : unknownMember? k.documentShape "" j = none := by
  cases hw : unknownMember? k.documentShape "" j with
  | none => rfl
  | some msg =>
    rw [decode_of_unknown hj hw] at hok
    cases hok

/-- A text whose value the shape refuses is refused with a validation fault,
by the walk or by decoding. -/
theorem decode_of_shape_refused (hj : Json.parseFirst text = .ok (j, rest))
    (h : Refused k.documentShape j) : ∃ msgs, decode k text = .error (.validation msgs) := by
  cases hw : unknownMember? k.documentShape "" j with
  | some msg => exact ⟨[msg], decode_of_unknown hj hw⟩
  | none =>
    obtain ⟨e, he⟩ := h k.documentShape.zero []
    exact ⟨[e.message k.documentName], decode_of_refused hj hw (by simp [decodeDocument, he])⟩

/-- Member names of a column document are strict. When the text is accepted and
names no member twice in one object, every name it holds where its shape has a
record is one the record declares, exactly; and a name that matches a declared
device variable only up to letter case, wherever decoding reaches it, gets the
text refused with a validation fault. -/
theorem strict_member_names (k : Kind) (text : String) (j : Json) (rest : List Char)
    (hj : Json.parseFirst text = .ok (j, rest)) :
    ((decode k text).isOk → j.Distinct → Declared k.documentShape j) ∧
      (FoldClash k.documentShape j → ∃ msgs, decode k text = .error (.validation msgs)) :=
  ⟨fun hok hd => declared_of_walk _ _ _ (walk_of_accepted hj hok) hd,
    fun hc => decode_of_shape_refused hj hc.refused⟩

/-- A device document clashes where one of its sets holds, under `cvars`, a name
that matches a declared variable only up to letter case. -/
theorem foldClash_cvars {ms sets set cv : List (String × Json)} {id name : String} {x : Json}
    (hc : ("column", .obj sets) ∈ ms) (hs : (id, .obj set) ∈ sets)
    (hv : ("cvars", .obj cv) ∈ set) (hn : (name, x) ∈ cv)
    (hf : foldsToAny name (cvarsMembers.map (·.name)) = true) :
    FoldClash (Kind.documentShape .device) (.obj ms) :=
  .named hc rfl (.entry hs (.named hv rfl (.here hn hf)))

/-- A device set whose variables spell `router_id` as `Router_ID` is refused, and
every name of an accepted firewall document is declared. -/
theorem router_id_case_clash_refused :
    (∃ msgs, decode .device "\x7b\"column\":\x7b\"A\":\x7b\"cvars\":\x7b\"Router_ID\":\"\"\x7d\x7d\x7d\x7d" =
      .error (.validation msgs)) ∧
      Declared (Kind.documentShape .firewall) (.obj [("column", .obj [("A", .obj [("meta", .obj [])])])]) := by
  have hj : Json.parseFirst "\x7b\"column\":\x7b\"A\":\x7b\"cvars\":\x7b\"Router_ID\":\"\"\x7d\x7d\x7d\x7d" =
      .ok (.obj [("column", .obj [("A", .obj [("cvars", .obj [("Router_ID", .str "")])])])], []) := by
    with_unfolding_all rfl
  have hf : Json.parseFirst "\x7b\"column\":\x7b\"A\":\x7b\"meta\":\x7b\x7d\x7d\x7d\x7d" =
      .ok (.obj [("column", .obj [("A", .obj [("meta", .obj [])])])], []) := by
    with_unfolding_all rfl
  have hd : Json.Distinct (.obj [("column", .obj [("A", .obj [("meta", .obj [])])])]) := by
    simp [Json.Distinct]
  exact ⟨(strict_member_names .device _ _ _ hj).2
      (foldClash_cvars (List.mem_singleton_self _) (List.mem_singleton_self _)
        (List.mem_singleton_self _) (List.mem_singleton_self _) (by decide +kernel)),
    (strict_member_names .firewall _ _ _ hf).1 (by decide +kernel) hd⟩

/-- A set named twice is read from its last value, so a name that only its first
value holds goes unchecked: this firewall document is accepted although it holds
`Meta`, which no firewall set declares. -/
theorem shadowed_member_name_accepted :
    Json.parseFirst "\x7b\"column\":\x7b\"A\":\x7b\"Meta\":\x7b\x7d\x7d,\"A\":\x7b\x7d\x7d\x7d" =
        .ok (.obj [("column", .obj [("A", .obj [("Meta", .obj [])]), ("A", .obj [])])], []) ∧
      (decode .firewall "\x7b\"column\":\x7b\"A\":\x7b\"Meta\":\x7b\x7d\x7d,\"A\":\x7b\x7d\x7d\x7d").isOk ∧
      ¬ Declared (Kind.documentShape .firewall)
        (.obj [("column", .obj [("A", .obj [("Meta", .obj [])]), ("A", .obj [])])]) := by
  refine ⟨by with_unfolding_all rfl, by decide +kernel, ?_⟩
  intro h
  unfold Kind.documentShape at h
  rw [Declared] at h
  obtain ⟨m, hm, hname, hcol⟩ := h _ (List.mem_singleton_self _)
  simp only [List.mem_cons, List.mem_nil_iff, or_false] at hm
  rcases hm with rfl | rfl | rfl
  · exact absurd hname (by decide)
  · exact absurd hname (by decide)
  · rw [Member.shape, Declared] at hcol
    have hset := hcol _ List.mem_cons_self
    simp only [Kind.setShape, firewallRecord, Column.rec] at hset
    rw [Declared] at hset
    obtain ⟨m', hm', hname', -⟩ := hset _ (List.mem_singleton_self _)
    have hdecl : "Meta" ∈ _ := List.mem_map.2 ⟨m', hm', hname'⟩
    revert hdecl
    decide +kernel

end Column.Document

end NetFleet
