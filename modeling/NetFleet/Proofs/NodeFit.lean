import Mathlib
import NetFleet.Proofs.FreeForm
import NetFleet.Proofs.AddrText
import NetFleet.Proofs.MemberNames
import NetFleet.Proofs.DeepMerge
import NetFleet.Schema.Encode

/-!
# Nodes that fit their shape

A node decoded against a shape holds more than the shape says: its whole
numbers are of 64 bits, its prefixes are no longer than their addresses, its
dictionaries hold each key once and sorted by written key, its records hold each
declared member once, and the members an open record keeps beside its own are
sorted, undeclared, and match none of the declared ones up to letter case.
`Fits s n` collects these facts, on shapes that are well formed (`Shape.wf`):
member names are distinct, and an optional value is of a shape never written
`null`.

Writing a node and reading it back does not give the node itself. A member left
out when written comes back as zero, so an empty list under `Omission.empty`
comes back absent; `settle s n` is the node that comes back.

The module also gathers what the written forms of scalars need: an integer,
address, prefix or dictionary key that fits reads back from its text
(`Literal.toInt?_toString`, `Net.Prefix.parse_render`, `decodeKey_render`), and
the dictionary of an object (`Json.dictOf`) is sorted by name and leaves a
sorted object as it is.
-/

namespace NetFleet.Net

/-- An address is never written as the empty text. -/
theorem Addr.render_ne_empty (a : Addr) : a.render ≠ "" := fun h => by
  have := Addr.parse_render a
  rw [h] at this
  simp [Addr.parse] at this

/-- An address, set or not, reads back from its text. -/
theorem Addr.parseText_render (a : Option Addr) : Addr.parseText ((a.map Addr.render).getD "") = .ok a := by
  cases a with
  | none => rfl
  | some a => simp [Addr.parseText, Addr.render_ne_empty, Addr.parse_render, Except.map]

namespace Prefix

open Text (digitsValue_toDigits isDigit_of_mem_toDigits)

/-- A prefix its canonical text reads back as: its length fits its address, and
it has no zone. -/
def Canonical (p : Prefix) : Prop := p.bits ≤ p.addr.bitLen ∧ p.addr.zone = ""

theorem render_ne_empty (p : Prefix) : p.render ≠ "" := fun h => by
  have := congrArg String.length h
  simp [render] at this

theorem slash_not_mem_toDigits {n : ℕ} : '/' ∉ Nat.toDigits 10 n := fun h => by
  have := isDigit_of_mem_toDigits h
  revert this
  decide

/-- The text of a prefix splits at its only slash. -/
theorem span_render (p : Prefix) :
    p.render.toList.reverse.span (· ≠ '/') =
      ((Nat.toDigits 10 p.bits).reverse, '/' :: p.addr.render.toList.reverse) := by
  have hbits : (toString p.bits).toList = Nat.toDigits 10 p.bits := String.toList_ofList
  have hpos : ∀ c ∈ (Nat.toDigits 10 p.bits).reverse, decide (c ≠ '/') = true := by
    simpa using fun c hc h => slash_not_mem_toDigits (h ▸ hc)
  simp only [render, String.toList_append, List.reverse_append, hbits]
  rw [List.span_eq_takeWhile_dropWhile, List.takeWhile_append_of_pos hpos,
    List.dropWhile_append_of_pos hpos]
  simp

/-- A canonical prefix reads back from its text. -/
theorem parse_render {p : Prefix} (hp : p.Canonical) : parse p.render = .ok p := by
  obtain ⟨c, cs, hcs, hc⟩ := Text.toDigits_cons p.bits
  have hval : List.foldl (fun acc d => acc * 10 + (d.toNat - '0'.toNat)) 0 (c :: cs) = p.bits :=
    hcs ▸ digitsValue_toDigits p.bits
  -- a length of two digits or more does not start with a zero
  have hlead : cs = [] ∨ c ≠ '0' := by
    rcases Nat.eq_zero_or_pos p.bits with h0 | hpos
    · left
      rw [h0, Nat.toDigits_zero] at hcs
      exact (List.cons.inj hcs).2.symm
    · right
      have := Json.toDigits_head_ne_zero hpos
      rw [hcs] at this
      simpa using this
  have hdigits : ∀ d ∈ c :: cs, '0' ≤ d ∧ d ≤ '9' := fun d hd => by
    have := isDigit_of_mem_toDigits (hcs ▸ hd)
    simp only [Char.isDigit, Bool.and_eq_true, decide_eq_true_eq] at this
    exact this
  have hc' := hdigits c List.mem_cons_self
  have hall : ¬∃ d ∈ cs, '0' ≤ d → '9' < d := fun ⟨d, hd, h⟩ => by
    have := hdigits d (List.mem_cons_of_mem c hd)
    exact absurd (h this.1) (not_lt.2 this.2)
  have hbits : ¬9223372036854775808 ≤ p.bits := by
    have : p.addr.bitLen ≤ 128 := by cases p.addr <;> simp [Addr.bitLen]
    have := hp.1
    omega
  have hfirst : ¬(¬cs = [] ∧ (c < '1' ∨ '9' < c)) := by
    rintro ⟨hne, hlt⟩
    rcases hlead with rfl | hc0
    · exact hne rfl
    · have h48 : c.toNat ≠ 48 := fun h => hc0 (Char.ext (UInt32.toNat_inj.1 h))
      have h2 : 48 ≤ c.toNat := hc'.1
      have h3 : c.toNat ≤ 57 := hc'.2
      rcases hlt with h | h
      · have h1 : c.toNat < 49 := h
        omega
      · have h1 : 57 < c.toNat := h
        omega
  have hrange : ¬(c < '0' ∨ '9' < c) := fun h => h.elim (not_lt.2 hc'.1) (not_lt.2 hc'.2)
  simp only [parse, span_render, List.reverse_reverse, List.drop_succ_cons, List.drop_zero,
    String.ofList_toList, Addr.parse_render, hcs, hval]
  simp [hp.2, hfirst, hall, hbits, hrange, Nat.not_lt.2 hp.1]
  rfl

/-- A prefix, set or not, reads back from its text when canonical. -/
theorem parseText_render {p : Option Prefix} (hp : ∀ q ∈ p, q.Canonical) :
    parseText ((p.map render).getD "") = .ok p := by
  cases p with
  | none => rfl
  | some p => simp [parseText, render_ne_empty, parse_render (hp p rfl), Except.map]

/-- Every prefix read from a text is canonical. -/
theorem canonical_of_parse {s : String} {p : Prefix} (h : parse s = .ok p) : p.Canonical := by
  simp only [parse, bind, Except.bind, pure, Except.pure, throw, throwThe, MonadExceptOf.throw] at h
  repeat' split at h
  all_goals try simp only [reduceCtorEq] at h
  -- only the last branch returns a prefix
  rename_i a _ hzone _ _ _ _ _ _ _ hlen
  cases h
  refine ⟨Nat.le_of_not_gt hlen, ?_⟩
  cases a with
  | v4 b => rfl
  | v6 b z => simpa [Addr.is6, Addr.is4, Addr.zone] using hzone

end Prefix

end NetFleet.Net

namespace NetFleet.Decimal

open Text (digitsValue_toDigits isDigit_of_mem_toDigits)

/-- An integer written in decimal reads back as itself. -/
theorem Literal.toInt?_toString (i : ℤ) :
    (Literal.parse? (toString i)).bind Literal.toInt? = some i := by
  let n : Numeral := ⟨decide (i < 0), Nat.toDigits 10 i.natAbs, [], none, Nat.toDigits_ne_nil,
    fun _ hc => isDigit_of_mem_toDigits hc, by simp, by simp⟩
  have htext : String.ofList n.text = toString i := by
    cases i with
    | ofNat m => simp [n, Numeral.text, Numeral.expText, toString, Int.repr]; rfl
    | negSucc m => simp [n, Numeral.text, Numeral.expText, toString, Int.repr]; rfl
  rw [← htext, n.parse]
  cases i with
  | ofNat m => simp [n, Numeral.literal, Literal.toInt?, digitsValue_toDigits]
  | negSucc m => simp [n, Numeral.literal, Literal.toInt?, digitsValue_toDigits]; omega

end NetFleet.Decimal

namespace NetFleet.Json

/-! ### The dictionary of an object -/

section Dictionary

variable {ms : List (String × Json)} {k : String} {v : Json}

theorem insertName_eq (k : String) (ns : List String) : insertName k ns = ns.orderedInsert (· ≤ ·) k := by
  induction ns with
  | nil => rfl
  | cons n ns ih => simp [insertName, ih]

theorem sortNames_eq (ks : List String) : sortNames ks = ks.insertionSort (· ≤ ·) := by
  induction ks with
  | nil => rfl
  | cons k ks ih => rw [sortNames, List.foldr_cons, ← sortNames, ih, insertName_eq, List.insertionSort_cons]

theorem nodup_eraseDups : ∀ l : List String, l.eraseDups.Nodup
  | [] => by simp
  | a :: as => by
    rw [List.eraseDups_cons]
    refine List.nodup_cons.2 ⟨?_, nodup_eraseDups _⟩
    simp [List.mem_eraseDups]
termination_by l => l.length
decreasing_by exact Nat.lt_succ_of_le (List.length_filter_le _ _)

/-- The dictionary of an object holds what the object holds. -/
theorem mem_of_mem_dictOf {kv : String × Json} (h : kv ∈ dictOf ms) : kv ∈ ms :=
  mem_of_lookup? (mem_dictOf.1 h).2

/-- The names of the dictionary of an object are its names, sorted. -/
theorem keys_dictOf : (dictOf ms).map (·.1) = sortNames (names ms) := by
  have hk : ∀ k ∈ sortNames (names ms), ∃ v, lookup? ms k = some v := fun k hk => by
    simp only [mem_sortNames, names, List.mem_eraseDups, List.mem_map] at hk
    obtain ⟨⟨k', v⟩, hkv, rfl⟩ := hk
    obtain ⟨v', hv', -⟩ := lookup?_of_mem hkv
    exact ⟨v', hv'⟩
  simp only [dictOf]
  generalize sortNames (names ms) = ks at hk ⊢
  induction ks with
  | nil => rfl
  | cons k ks ih =>
    obtain ⟨v, hv⟩ := hk k List.mem_cons_self
    simp [hv, ih fun k' hk' => hk k' (List.mem_cons_of_mem _ hk')]

theorem mem_keys_dictOf : k ∈ (dictOf ms).map (·.1) ↔ k ∈ ms.map (·.1) := by
  rw [keys_dictOf, mem_sortNames, names, List.mem_eraseDups]

/-- The dictionary of an object names each member once, in ascending order. -/
theorem sorted_dictOf : ((dictOf ms).map (·.1)).Pairwise (· < ·) := by
  rw [keys_dictOf, sortNames_eq]
  have hnd : (List.insertionSort (· ≤ ·) (names ms)).Nodup :=
    (List.perm_insertionSort _ _).nodup_iff.2 (nodup_eraseDups _)
  exact (List.pairwise_insertionSort _ _).imp₂ (fun _ _ hle hne => lt_of_le_of_ne hle hne) hnd

/-- Lists sorted by name with the same entries are the same. -/
theorem eq_of_sorted {α : Type} {l₁ l₂ : List (String × α)} (h₁ : (l₁.map (·.1)).Pairwise (· < ·))
    (h₂ : (l₂.map (·.1)).Pairwise (· < ·)) (h : ∀ x, x ∈ l₁ ↔ x ∈ l₂) : l₁ = l₂ := by
  have hp := (List.perm_ext_iff_of_nodup (List.Nodup.of_map _ h₁.nodup)
    (List.Nodup.of_map _ h₂.nodup)).2 h
  exact hp.eq_of_pairwise (fun _ _ _ _ hab hba => absurd (hab.trans hba) (lt_irrefl _))
    (List.pairwise_map.1 h₁) (List.pairwise_map.1 h₂)

/-- An object sorted by name is its own dictionary. -/
theorem dictOf_of_sorted (h : (ms.map (·.1)).Pairwise (· < ·)) : dictOf ms = ms := by
  refine eq_of_sorted sorted_dictOf h fun kv => ⟨mem_of_mem_dictOf, fun hkv => ?_⟩
  obtain ⟨k, v⟩ := kv
  exact mem_dictOf_of_nodup h.nodup hkv

end Dictionary

end NetFleet.Json

namespace NetFleet.Schema

/-! ### Dictionary keys -/

/-- A key of kind `k` that reads back from its written form. -/
def Key.Fits : KeyKind → Key → Prop
  | .text, .text _ => True
  | .addr, .addr _ => True
  | .cidr, .cidr p => ∀ q ∈ p, q.Canonical
  | _, _ => False

theorem decodeKey_render {k : KeyKind} {key : Key} (h : key.Fits k) :
    decodeKey k key.render = .ok key := by
  cases k <;> cases key <;> simp only [Key.Fits] at h
  case text.text s => rfl
  case addr.addr a => simp [Key.render, decodeKey, Net.Addr.parseText_render]
  case cidr.cidr p => simp [Key.render, decodeKey, Net.Prefix.parseText_render h]

theorem Key.fits_of_decodeKey {k : KeyKind} {s : String} {key : Key} (h : decodeKey k s = .ok key) :
    key.Fits k := by
  cases k with
  | text => cases h; trivial
  | addr =>
    simp only [decodeKey] at h
    split at h
    · cases h; trivial
    · cases h
  | cidr =>
    simp only [decodeKey] at h
    split at h
    · rename_i p hp
      cases h
      intro q hq
      subst hq
      simp only [Net.Prefix.parseText] at hp
      split at hp
      · cases hp
      · cases hq : Net.Prefix.parse s with
        | error e => simp [hq, Except.map] at hp
        | ok q' =>
          simp only [hq, Except.map, Except.ok.injEq, Option.some.injEq] at hp
          exact hp ▸ Net.Prefix.canonical_of_parse hq
    · cases h

/-- Keys of one kind that fit are told apart by their written forms. -/
theorem Key.render_inj {k : KeyKind} {k₁ k₂ : Key} (h₁ : k₁.Fits k) (h₂ : k₂.Fits k)
    (h : k₁.render = k₂.render) : k₁ = k₂ := by
  have := decodeKey_render h₁
  rw [h, decodeKey_render h₂] at this
  exact (Except.ok.inj this).symm

/-! ### Well-formed shapes -/

/-- A shape none of whose values is written `null`. -/
def Shape.neverNull : Shape → Bool
  | .opt _ | .list _ | .dict _ _ | .any | .raw => false
  | _ => true

mutual

/-- A shape whose records name each member once, and whose optional values are
of shapes never written `null`. -/
def Shape.wf : Shape → Bool
  | .opt e => e.neverNull && e.wf
  | .list e => e.wf
  | .dict _ e => e.wf
  | .record _ ms => decide (ms.map Member.name).Nodup && Shape.membersWf ms
  | .openRecord _ _ ms => decide (ms.map Member.name).Nodup && Shape.membersWf ms
  | _ => true

/-- Every member is of a well-formed shape. -/
def Shape.membersWf : List Member → Bool
  | [] => true
  | .mk _ _ s :: ms => s.wf && Shape.membersWf ms

end

@[simp] theorem Shape.membersWf_iff {ms : List Member} :
    Shape.membersWf ms = true ↔ ∀ m ∈ ms, m.shape.wf = true := by
  induction ms with
  | nil => simp [Shape.membersWf]
  | cons m ms ih =>
    obtain ⟨n, r, s⟩ := m
    simp [Shape.membersWf, ih, Member.shape]

/-! ### The invariant of decoded nodes -/

/-- Node `n` is a node of shape `s` as decoding leaves it. -/
inductive Fits : Shape → Node → Prop
  | text (ty s : String) : Fits (.text ty) (.text s)
  | flag (b : Bool) : Fits .flag (.flag b)
  | int (ty : String) {i : ℤ} (lo : -2 ^ 63 ≤ i) (hi : i < 2 ^ 63) : Fits (.int ty) (.int i)
  | addr (a : Option Net.Addr) : Fits .addr (.addr a)
  | cidr {p : Option Net.Prefix} (hp : ∀ q ∈ p, q.Canonical) : Fits .cidr (.cidr p)
  | any {j : Json} (hj : Json.Leaves WrittenDouble j) : Fits .any (.json j)
  | raw {j : Json} (hj : Json.Numbers j) : Fits .raw (.json j)
  | none (e : Shape) : Fits (.opt e) .nil
  | some {e : Shape} {x : Node} (hx : Fits e x) : Fits (.opt e) (.some x)
  | listNil (e : Shape) : Fits (.list e) .nil
  | list {e : Shape} {xs : List Node} (hxs : ∀ x ∈ xs, Fits e x) : Fits (.list e) (.list xs)
  | dictNil (k : KeyKind) (e : Shape) : Fits (.dict k e) .nil
  | dict {k : KeyKind} {e : Shape} {es : List (Key × Node)}
      (sorted : (es.map (·.1.render)).Pairwise (· < ·)) (keys : ∀ kv ∈ es, kv.1.Fits k)
      (values : ∀ kv ∈ es, Fits e kv.2) : Fits (.dict k e) (.dict es)
  | record {ty : String} {ms : List Member} {fs : List (String × Node)}
      (names : fs.map (·.1) = ms.map Member.name) (fields : ∀ m ∈ ms, Fits m.shape (memberNode fs m.name)) :
      Fits (.record ty ms) (.record fs)
  | openRecord {ty inner : String} {ms : List Member} {fs : List (String × Node)}
      {extra : List (String × Json)}
      (names : fs.map (·.1) = ms.map Member.name) (fields : ∀ m ∈ ms, Fits m.shape (memberNode fs m.name))
      (sorted : (extra.map (·.1)).Pairwise (· < ·)) (undeclared : ∀ kv ∈ extra, kv.1 ∉ ms.map Member.name)
      (unfolded : ∀ kv ∈ extra, foldsToAny kv.1 (ms.map Member.name) = false)
      (values : ∀ kv ∈ extra, Json.Numbers kv.2) :
      Fits (.openRecord ty inner ms) (.openRecord fs extra)

/-! ### What comes back -/

mutual

/-- The node of shape `s` that reading back the written form of `n` gives: every
member left out when written is zero. -/
def settle : Shape → Node → Node
  | .opt e, .some x => .some (settle e x)
  | .list e, .list xs => .list (xs.map (settle e))
  | .dict _ e, .dict es => .dict (es.map fun kv => (kv.1, settle e kv.2))
  | .record _ ms, .record fs => .record (settleMembers ms fs)
  | .openRecord _ _ ms, .openRecord fs extra => .openRecord (settleMembers ms fs) extra
  | _, n => n

/-- The declared members of a record read back from its written form. -/
def settleMembers : List Member → List (String × Node) → List (String × Node)
  | [], _ => []
  | .mk name rule s :: ms, fs =>
    (name, if omitted rule (memberNode fs name) then s.zero else settle s (memberNode fs name)) ::
      settleMembers ms fs

end

/-- A declared member read back: its shape's zero when it is left out when written. -/
def settleMember (r : Omission) (s : Shape) (v : Node) : Node :=
  if omitted r v then s.zero else settle s v

@[simp] theorem settleMembers_nil (fs : List (String × Node)) : settleMembers [] fs = [] := rfl

@[simp] theorem settleMembers_cons (name : String) (r : Omission) (s : Shape) (ms : List Member)
    (fs : List (String × Node)) :
    settleMembers (.mk name r s :: ms) fs = (name, settleMember r s (memberNode fs name)) :: settleMembers ms fs :=
  rfl

/-! ### Member lists -/

section Fields

variable {fs gs : List (String × Node)} {ms : List Member} {k k' : String} {n : Node}

@[simp] theorem memberNode_nil : memberNode [] k = .nil := rfl

@[simp] theorem memberNode_cons (v : Node) :
    memberNode ((k, v) :: fs) k' = if k = k' then v else memberNode fs k' := by
  by_cases h : k = k' <;> simp [memberNode, h]

@[simp] theorem names_setMember : (setMember k n fs).map (·.1) = fs.map (·.1) := by
  induction fs with
  | nil => rfl
  | cons f fs ih =>
    obtain ⟨k₀, v⟩ := f
    unfold setMember
    split <;> simp_all

/-- Setting a member changes the node of that name, if the record has it, and no
other. -/
theorem memberNode_setMember :
    memberNode (setMember k n fs) k' = if k' = k ∧ k ∈ fs.map (·.1) then n else memberNode fs k' := by
  induction fs with
  | nil => simp [setMember]
  | cons f fs ih =>
    obtain ⟨k₀, v⟩ := f
    unfold setMember
    by_cases h : k₀ = k
    · subst h
      by_cases h' : k' = k₀ <;> simp [h', eq_comm]
    · have hk : ¬k = k₀ := fun e => h e.symm
      by_cases h' : k₀ = k'
      · subst h'
        simp [h, hk]
      · simp only [h, if_false, memberNode_cons, h', ih, List.map_cons, List.mem_cons, hk, false_or]

theorem zeroMembers_eq : Shape.zeroMembers ms = ms.map fun m => (m.name, m.shape.zero) := by
  induction ms with
  | nil => rfl
  | cons m ms ih =>
    obtain ⟨n, r, s⟩ := m
    simp [Shape.zeroMembers, ih, Member.name, Member.shape]

theorem settleMembers_eq : settleMembers ms fs = ms.map fun m =>
    (m.name, settleMember m.rule m.shape (memberNode fs m.name)) := by
  induction ms with
  | nil => rfl
  | cons m ms ih =>
    obtain ⟨n, r, s⟩ := m
    simp only [settleMembers_cons, ih, List.map_cons]
    rfl

/-- In members listed once each, the node of a member's name is its own. -/
theorem memberNode_map {f : Member → Node} {m : Member} (hn : (ms.map Member.name).Nodup) (hm : m ∈ ms) :
    memberNode (ms.map fun m => (m.name, f m)) m.name = f m := by
  induction ms with
  | nil => cases hm
  | cons m' ms ih =>
    rw [List.map_cons, List.nodup_cons] at hn
    rw [List.map_cons, memberNode_cons]
    rcases List.mem_cons.1 hm with rfl | hm
    · simp
    · have hne : m'.name ≠ m.name := fun h => hn.1 (h ▸ List.mem_map_of_mem hm)
      simp [hne, ih hn.2 hm]

/-- Members listed once each are their names, each with its node. -/
theorem eq_map_memberNode (hn : (fs.map (·.1)).Nodup) :
    fs = (fs.map (·.1)).map fun k => (k, memberNode fs k) := by
  induction fs with
  | nil => rfl
  | cons f fs ih =>
    obtain ⟨k₀, v⟩ := f
    rw [List.map_cons, List.nodup_cons] at hn
    simp only [List.map_cons, memberNode_cons, ↓reduceIte]
    congr 1
    conv_lhs => rw [ih hn.2]
    refine List.map_congr_left fun k hk => ?_
    have : k₀ ≠ k := fun h => hn.1 (h ▸ hk)
    simp [this]

/-- Members listed once each, under the same names and with the same nodes, are
the same. -/
theorem fields_ext (hn : (fs.map (·.1)).Nodup) (h : fs.map (·.1) = gs.map (·.1))
    (hv : ∀ k ∈ fs.map (·.1), memberNode fs k = memberNode gs k) : fs = gs := by
  have hn' : (gs.map (·.1)).Nodup := h ▸ hn
  calc fs = (fs.map (·.1)).map fun k => (k, memberNode fs k) := eq_map_memberNode hn
    _ = (gs.map (·.1)).map fun k => (k, memberNode gs k) := by
      rw [← h]
      exact List.map_congr_left fun k hk => by rw [hv k hk]
    _ = gs := (eq_map_memberNode hn').symm

end Fields

/-! ### Dictionary entries -/

section Entries

variable {es : List (Key × Node)} {key : Key} {n : Node}

theorem mem_insertEntry {kv : Key × Node} (h : kv ∈ insertEntry key n es) : kv = (key, n) ∨ kv ∈ es := by
  induction es with
  | nil => simpa [insertEntry] using h
  | cons e es ih =>
    obtain ⟨k', n'⟩ := e
    unfold insertEntry at h
    split_ifs at h
    · rcases List.mem_cons.1 h with h | h
      · exact .inl h
      · exact .inr (List.mem_cons_of_mem _ h)
    · simpa [or_comm, or_left_comm] using h
    · rcases List.mem_cons.1 h with h | h
      · exact .inr (h ▸ List.mem_cons_self)
      · exact (ih h).imp_right (List.mem_cons_of_mem _)

/-- Putting an entry into entries sorted by written key keeps them sorted, as long
as no other key is written as it is. -/
theorem sorted_insertEntry (hs : (es.map (·.1.render)).Pairwise (· < ·))
    (hk : ∀ kv ∈ es, kv.1.render = key.render → kv.1 = key) :
    ((insertEntry key n es).map (·.1.render)).Pairwise (· < ·) := by
  induction es with
  | nil => simp [insertEntry]
  | cons e es ih =>
    obtain ⟨k', n'⟩ := e
    rw [List.map_cons, List.pairwise_cons] at hs
    unfold insertEntry
    split_ifs with h₁ h₂
    · subst h₁
      simpa using hs
    · simp only [List.map_cons, List.pairwise_cons, List.mem_cons]
      refine ⟨fun a ha => ?_, hs.1, hs.2⟩
      rcases ha with rfl | ha
      · exact h₂
      · exact h₂.trans (hs.1 a ha)
    · have hlt : k'.render < key.render :=
        lt_of_le_of_ne (not_lt.1 h₂) fun e => h₁ (hk _ List.mem_cons_self e)
      simp only [List.map_cons, List.pairwise_cons]
      refine ⟨fun a ha => ?_, ih hs.2 fun kv hkv => hk kv (List.mem_cons_of_mem _ hkv)⟩
      obtain ⟨kv, hkv, rfl⟩ := List.mem_map.1 ha
      rcases mem_insertEntry hkv with rfl | hkv
      · exact hlt
      · exact hs.1 _ (List.mem_map_of_mem hkv)

/-- An entry whose key is written after every other goes last. -/
theorem insertEntry_of_lt (h : ∀ kv ∈ es, kv.1.render < key.render) :
    insertEntry key n es = es ++ [(key, n)] := by
  induction es with
  | nil => rfl
  | cons e es ih =>
    obtain ⟨k', n'⟩ := e
    have hlt := h _ List.mem_cons_self
    have hne : k' ≠ key := fun e => lt_irrefl _ (e ▸ hlt)
    simp only [insertEntry, hne, if_false, not_lt.2 hlt.le, List.cons_append,
      ih fun kv hkv => h kv (List.mem_cons_of_mem _ hkv)]

end Entries

/-! ### Zero fits -/

mutual

/-- The zero node of a well-formed shape fits it. -/
theorem Fits.zero : ∀ {s : Shape}, s.wf = true → Fits s s.zero
  | .text _, _ => .text _ _
  | .flag, _ => .flag _
  | .int _, _ => .int _ (by norm_num) (by norm_num)
  | .addr, _ => .addr _
  | .cidr, _ => .cidr (by simp)
  | .any, _ => .any (by simp [Json.Leaves])
  | .raw, _ => .raw (by simp [Json.Leaves])
  | .opt e, _ => .none e
  | .list e, _ => .listNil e
  | .dict k e, _ => .dictNil k e
  | .record _ ms, h => by
    simp only [Shape.wf, Bool.and_eq_true, decide_eq_true_eq] at h
    refine .record (by simp [zeroMembers_eq]) fun m hm => ?_
    rw [zeroMembers_eq, memberNode_map h.1 hm]
    exact Fits.zeroMembers h.2 m hm
  | .openRecord _ _ ms, h => by
    simp only [Shape.wf, Bool.and_eq_true, decide_eq_true_eq] at h
    refine .openRecord (by simp [zeroMembers_eq]) (fun m hm => ?_) (by simp) (by simp) (by simp)
      (by simp)
    rw [zeroMembers_eq, memberNode_map h.1 hm]
    exact Fits.zeroMembers h.2 m hm

/-- The zero node of each member of well-formed shape fits it. -/
theorem Fits.zeroMembers : ∀ {ms : List Member}, Shape.membersWf ms = true →
    ∀ m ∈ ms, Fits m.shape m.shape.zero
  | [], _ => by simp
  | .mk _ _ s :: ms, h => by
    simp only [Shape.membersWf, Bool.and_eq_true] at h
    intro m hm
    rcases List.mem_cons.1 hm with rfl | hm
    · exact Fits.zero h.1
    · exact Fits.zeroMembers h.2 m hm

end

end NetFleet.Schema
