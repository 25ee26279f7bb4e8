import Mathlib
import NetFleet.Proofs.NodeFit
import NetFleet.Column.Rules

/-!
# Reading a node that was read back

The column rules look at a node only through a few reads: the text, number,
address or prefix of a member, whether a member is absent, the items of a list,
the entries of a dictionary, and what an optional value holds. This module says
what each read gives on `settle s n`, the node that comes back from writing a
node `n` of shape `s`, in terms of the same read on `n`:

* a member of a record read back is that member settled by its own rule and
  shape (`Fits.member_settle`);
* a scalar, or an optional scalar, comes back as it was (`Fits.settleMember_flat`);
* a list or a dictionary comes back with each item settled
  (`Fits.items_settleMember`, `Fits.entries_settleMember`), and so the messages
  of every item or entry are those of the item or entry settled
  (`Fits.eachItem_settleMember`, `Fits.eachEntry_settleMember`).
-/

namespace NetFleet.Schema

open Column

@[simp] theorem Member.name_mk (n : String) (r : Omission) (s : Shape) : (Member.mk n r s).name = n := rfl
@[simp] theorem Member.rule_mk (n : String) (r : Omission) (s : Shape) : (Member.mk n r s).rule = r := rfl
@[simp] theorem Member.shape_mk (n : String) (r : Omission) (s : Shape) : (Member.mk n r s).shape = s := rfl

/-! ### Scalars -/

/-- Shapes whose nodes read back as they are: scalars, and optional scalars. -/
def Shape.flat : Shape → Bool
  | .text _ | .flag | .int _ | .addr | .cidr => true
  | .opt e => e.flat
  | _ => false

-- Proved by `simp`, not `rfl`: a lemma proved by `rfl` cannot discharge a side
-- goal `s.flat = true` inside `simp`.
@[simp] theorem Shape.flat_text (ty : String) : (Shape.text ty).flat = true := by simp [Shape.flat]
@[simp] theorem Shape.flat_flag : Shape.flag.flat = true := by simp [Shape.flat]
@[simp] theorem Shape.flat_int (ty : String) : (Shape.int ty).flat = true := by simp [Shape.flat]
@[simp] theorem Shape.flat_addr : Shape.addr.flat = true := by simp [Shape.flat]
@[simp] theorem Shape.flat_cidr : Shape.cidr.flat = true := by simp [Shape.flat]
@[simp] theorem Shape.flat_opt (e : Shape) : (Shape.opt e).flat = e.flat := by simp [Shape.flat]

/-- Reading back a node of a flat shape changes nothing, whatever the node. -/
theorem settle_of_flat : (s : Shape) → s.flat = true → settle s = id
  | .text _, _ | .flag, _ | .int _, _ | .addr, _ | .cidr, _ => funext fun n => by cases n <;> rfl
  | .opt e, hs => funext fun n => by
    cases n <;> simp [settle, settle_of_flat e (by simpa using hs)]
  | .any, hs | .raw, hs | .list _, hs | .dict _ _, hs | .record _ _, hs | .openRecord _ _ _, hs => by
    simp [Shape.flat] at hs

@[simp] theorem settle_text (ty : String) : settle (.text ty) = id := settle_of_flat _ (by simp)
@[simp] theorem settle_int (ty : String) : settle (.int ty) = id := settle_of_flat _ (by simp)
@[simp] theorem settle_addr : settle .addr = id := settle_of_flat _ (by simp)
@[simp] theorem settle_cidr : settle .cidr = id := settle_of_flat _ (by simp)

variable {r : Omission} {s e : Shape} {v y : Node} {k : KeyKind}

/-- A scalar left out when written is its shape's zero. -/
theorem Fits.eq_zero_of_omitted (h : Fits s v) (hs : s.flat = true) (ho : omitted r v = true) :
    v = s.zero := by
  cases h with
  | text ty t => cases r <;> simp_all [omitted, Node.isEmpty, Node.isZero, Shape.zero]
  | flag b => cases b <;> cases r <;> simp_all [omitted, Node.isEmpty, Node.isZero, Shape.zero]
  | int ty lo hi => cases r <;> simp_all [omitted, Node.isEmpty, Node.isZero, Shape.zero]
  | addr a => cases a <;> cases r <;> simp_all [omitted, Node.isEmpty, Node.isZero, Shape.zero]
  | @cidr p hp => cases p <;> cases r <;> simp_all [omitted, Node.isEmpty, Node.isZero, Shape.zero]
  | none => rfl
  | some => cases r <;> simp_all [omitted, Node.isEmpty, Node.isZero]
  | _ => simp [Shape.flat] at hs

/-- A member of flat shape reads back as it was: left out, it was already zero. -/
theorem Fits.settleMember_flat (h : Fits s v) (hs : s.flat = true) : settleMember r s v = v := by
  unfold settleMember
  split
  next ho => exact (h.eq_zero_of_omitted hs ho).symm
  next => rw [settle_of_flat s hs, id]

/-- The text of a text member reads back as it was, whatever the node: a text
left out is empty. -/
@[simp] theorem str_settleMember_text (ty : String) : (settleMember r (.text ty) v).str = v.str := by
  unfold settleMember
  split
  next ho => cases v <;> cases r <;> simp_all [omitted, Node.isEmpty, Node.isZero, Node.str, Node.deref, Shape.zero]
  next => simp

/-- The address of an address member reads back as it was, whatever the node. -/
@[simp] theorem addr?_settleMember_addr : (settleMember r .addr v).addr? = v.addr? := by
  unfold settleMember
  split
  next ho =>
    cases v with
    | addr a => cases a <;> cases r <;> simp_all [omitted, Node.isEmpty, Node.isZero, Node.addr?, Shape.zero]
    | _ => cases r <;> simp_all [omitted, Node.isEmpty, Node.isZero, Node.addr?, Node.deref, Shape.zero]
  next => simp

/-! ### Absent and optional members -/

@[simp] theorem settleMember_never : settleMember .never s v = settle s v := rfl

@[simp] theorem settleMember_opt_nil : settleMember r (.opt e) .nil = .nil := by cases r <;> rfl

@[simp] theorem settleMember_opt_some : settleMember r (.opt e) (.some y) = .some (settle e y) := by
  cases r <;> rfl

@[simp] theorem settleMember_dict_nil : settleMember r (.dict k e) .nil = .nil := by cases r <;> rfl

@[simp] theorem Node.isNil_nil : Node.nil.isNil = true := rfl
@[simp] theorem Node.isNil_some : (Node.some y).isNil = false := rfl

@[simp] theorem Node.toOption_nil : Node.nil.toOption = none := rfl
@[simp] theorem Node.toOption_some : (Node.some y).toOption = Option.some y := rfl
@[simp] theorem Node.member_nil (name : String) : Node.nil.member name = .nil := rfl
@[simp] theorem Node.member_record (fs : List (String × Node)) (name : String) :
    (Node.record fs).member name = memberNode fs name := rfl

/-- Reading back keeps a node absent or present. -/
@[simp] theorem isNil_settle : (settle s v).isNil = v.isNil := by
  cases s <;> cases v <;> rfl

theorem Fits.isNil_settleMember_opt (h : Fits (.opt e) v) : (settleMember r (.opt e) v).isNil = v.isNil := by
  cases h <;> cases r <;> rfl

/-- An optional value is absent, or holds a node of its shape. -/
theorem Fits.opt_cases (h : Fits (.opt e) v) : v = .nil ∨ ∃ y, v = .some y ∧ Fits e y := by
  cases h with
  | none => exact .inl rfl
  | some hx => exact .inr ⟨_, rfl, hx⟩

/-! ### Lists and dictionaries -/

theorem items_of_omitted (h : omitted r v = true) : v.items = [] := by
  cases v <;> cases r <;> simp_all [omitted, Node.isEmpty, Node.isZero, Node.items, Node.deref]

theorem entries_of_omitted (h : omitted r v = true) : v.entries = [] := by
  cases v <;> cases r <;> simp_all [omitted, Node.isEmpty, Node.isZero, Node.entries, Node.deref]

/-- The items of a list of scalars read back as they were, whatever the node. -/
theorem items_settleMember_flat (he : e.flat = true) : (settleMember r (.list e) v).items = v.items := by
  unfold settleMember
  split
  next ho =>
    rw [items_of_omitted ho]
    rfl
  next => cases v <;> simp [settle, settle_of_flat e he, Node.items, Node.deref]

theorem items_settle_flat (he : e.flat = true) : (settle (.list e) v).items = v.items :=
  items_settleMember_flat (r := .never) he

theorem Fits.items_fit (h : Fits (.list e) v) : ∀ x ∈ v.items, Fits e x := by
  cases h with
  | listNil => simp [Node.items, Node.deref]
  | list hxs => exact hxs

theorem Fits.entries_fit (h : Fits (.dict k e) v) : ∀ kv ∈ v.entries, Fits e kv.2 := by
  cases h with
  | dictNil => simp [Node.entries, Node.deref]
  | dict _ _ values => exact values

theorem Fits.items_settleMember (h : Fits (.list e) v) :
    (settleMember r (.list e) v).items = v.items.map (settle e) := by
  unfold settleMember
  split
  next ho =>
    rw [items_of_omitted ho]
    rfl
  next => cases h <;> simp [settle, Node.items, Node.deref]

theorem Fits.entries_settleMember (h : Fits (.dict k e) v) :
    (settleMember r (.dict k e) v).entries = v.entries.map fun kv => (kv.1, settle e kv.2) := by
  unfold settleMember
  split
  next ho =>
    rw [entries_of_omitted ho]
    rfl
  next => cases h <;> simp [settle, Node.entries, Node.deref]

theorem Fits.entries_settle (h : Fits (.dict k e) v) :
    (settle (.dict k e) v).entries = v.entries.map fun kv => (kv.1, settle e kv.2) :=
  h.entries_settleMember (r := .never)

/-! ### Records -/

theorem memberNode_settleMembers {ms : List Member} {fs : List (String × Node)} {name : String} :
    memberNode (settleMembers ms fs) name =
      ((ms.find? (·.name = name)).map fun m => settleMember m.rule m.shape (memberNode fs name)).getD .nil := by
  induction ms with
  | nil => rfl
  | cons m ms ih =>
    obtain ⟨name', r, s⟩ := m
    by_cases hk : name' = name
    · subst hk
      simp
    · simp [hk, ih]

section Records

variable {ty inner : String} {ms : List Member}

/-- A member of a record read back is that member of the record, settled by the
rule and shape it is declared with. -/
theorem Fits.member_settle (h : Fits s v) (hs : s = .record ty ms) (name : String) :
    (settle s v).member name =
      ((ms.find? (·.name = name)).map fun m => settleMember m.rule m.shape (v.member name)).getD .nil := by
  subst hs
  cases h with
  | record names fields => exact memberNode_settleMembers

theorem Fits.member_settle_open (h : Fits s v) (hs : s = .openRecord ty inner ms) (name : String) :
    (settle s v).member name =
      ((ms.find? (·.name = name)).map fun m => settleMember m.rule m.shape (v.member name)).getD .nil := by
  subst hs
  cases h with
  | openRecord names fields => exact memberNode_settleMembers

theorem Fits.members (h : Fits s v) (hs : s = .record ty ms) : ∀ m ∈ ms, Fits m.shape (v.member m.name) := by
  subst hs
  cases h with
  | record names fields => exact fields

theorem Fits.members_open (h : Fits s v) (hs : s = .openRecord ty inner ms) :
    ∀ m ∈ ms, Fits m.shape (v.member m.name) := by
  subst hs
  cases h with
  | openRecord names fields => exact fields

/-- A record held by an optional value is read through it. -/
theorem Fits.member_some (h : Fits s v) (hs : s = .record ty ms) (name : String) :
    (Node.some v).member name = v.member name := by
  subst hs
  cases h
  rfl

theorem Fits.member_some_settle (h : Fits s v) (hs : s = .record ty ms) (name : String) :
    (Node.some (settle s v)).member name = (settle s v).member name := by
  subst hs
  cases h
  rfl

end Records

/-! ### The messages of items and entries -/

theorem Fits.textEntries_settleMember (h : Fits (.dict k e) v) :
    textEntries (settleMember r (.dict k e) v) = (textEntries v).map fun kv => (kv.1, settle e kv.2) := by
  simp [textEntries, h.entries_settleMember]

/-- The messages of the entries of a dictionary read back are those of its
entries, when the messages of an entry do not change as it is read back. -/
theorem Fits.eachEntry_settleMember {f : String → Node → List String} (h : Fits (.dict k e) v)
    (hf : ∀ key x, Fits e x → f key (settle e x) = f key x) :
    eachEntry (settleMember r (.dict k e) v) f = eachEntry v f := by
  simp only [eachEntry, textEntries, h.entries_settleMember, List.map_map]
  congr 1
  exact List.map_congr_left fun kv hkv => hf _ _ (h.entries_fit kv hkv)

/-- The entries of a dictionary read back draw no message when its entries draw
none, and an entry read back draws none when the entry draws none. -/
theorem Fits.eachEntry_settle_eq_nil {f : String → Node → List String} (h : Fits (.dict k e) v)
    (hf : ∀ key x, Fits e x → f key x = [] → f key (settle e x) = []) (hv : eachEntry v f = []) :
    eachEntry (settle (.dict k e) v) f = [] := by
  simp only [eachEntry, textEntries, h.entries_settle, List.map_map, List.flatten_eq_nil_iff, List.forall_mem_map,
    Function.comp] at hv ⊢
  exact fun kv hkv => hf _ _ (h.entries_fit kv hkv) (hv kv hkv)

theorem eachItem_map {xs : List Node} {g : Node → Node} {f : Nat → Node → List String} :
    eachItem (xs.map g) f = eachItem xs fun i x => f i (g x) := by
  simp [eachItem, List.zipIdx_map, Function.comp_def]

/-- The messages of the items of a list read back are those of its items, when
the messages of an item do not change as it is read back. -/
theorem Fits.eachItem_settleMember {f : Nat → Node → List String} (h : Fits (.list e) v)
    (hf : ∀ i x, Fits e x → f i (settle e x) = f i x) :
    eachItem (settleMember r (.list e) v).items f = eachItem v.items f := by
  rw [h.items_settleMember, eachItem_map, eachItem]
  congr 1
  exact List.map_congr_left fun ⟨x, i⟩ hx => hf i x (h.items_fit x (List.fst_mem_of_mem_zipIdx hx))

theorem Fits.eachItem_settle {f : Nat → Node → List String} (h : Fits (.list e) v)
    (hf : ∀ i x, Fits e x → f i (settle e x) = f i x) : eachItem (settle (.list e) v).items f = eachItem v.items f :=
  h.eachItem_settleMember (r := .never) hf

end NetFleet.Schema
