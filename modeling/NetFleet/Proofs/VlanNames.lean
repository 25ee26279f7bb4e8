import Mathlib.Data.List.Induction
import Mathlib.Data.List.TakeDrop
import Mathlib.Data.List.TakeWhile
import Mathlib.Data.Nat.Digits.Defs
import NetFleet.Column.InterfaceName

/-!
# VLAN interface names

A VLAN interface is named after its parent, an ethernet or a bond, and its id:
`eth1.100`, `bond2.300`. The name is read at its first dot. The parent must be
`eth` or `bond` followed by a numeral, and the id a numeral whose value lies in
`[1, 4095]`. A numeral is a non-empty run of ASCII digits: leading zeros are
allowed, and the value of a long numeral is never cut to a machine word, so a
numeral past the range is refused like any other id out of range.

Main statement (`vlan_names_parse_exactly`):

    parseVlanName name = .ok (p, v)  ↔  ∃ d, name = p ++ "." ++ d ∧ VlanParent p ∧
                                          Numeral d ∧ numeralValue d = v ∧ 1 ≤ v ≤ 4095

and the name written from a parent and an id in range reads back as them. The
parent and the numeral are described on their own (`VlanParent`, `Numeral`,
`numeralValue` with `Nat.ofDigits`), and `isVlanParent_iff`, `isDigits_iff` and
`foldl_digits` tie the checks of the reader to them.
-/

namespace NetFleet.Column

/-! ### Numerals and parents -/

/-- A numeral: a non-empty run of ASCII digits. -/
def Numeral (s : String) : Prop := s.toList ≠ [] ∧ ∀ c ∈ s.toList, c.isDigit = true

/-- The value of a numeral: its digits in base ten, the last the least. -/
def numeralValue (s : String) : Nat :=
  Nat.ofDigits 10 (s.toList.reverse.map fun c => c.toNat - '0'.toNat)

/-- The parent of a VLAN: `eth` or `bond` followed by a numeral. -/
def VlanParent (p : String) : Prop := ∃ stem ∈ ["eth", "bond"], ∃ n, p = stem ++ n ∧ Numeral n

theorem isDigits_iff {cs : List Char} : isDigits cs = true ↔ cs ≠ [] ∧ ∀ c ∈ cs, c.isDigit = true := by
  -- the reader's test of a digit is `Char.isDigit`
  show (!cs.isEmpty && cs.all Char.isDigit) = true ↔ _
  simp only [Bool.and_eq_true, Bool.not_eq_true', List.isEmpty_eq_false_iff, List.all_eq_true]

/-- A name is a stem followed by a numeral exactly when the reader says so. -/
theorem isNumbered_iff {stem name : String} :
    isNumbered stem name = true ↔ ∃ n, name = stem ++ n ∧ Numeral n := by
  simp only [isNumbered, Bool.and_eq_true, String.startsWith_string_iff, ← String.length_toList]
  constructor
  · rintro ⟨⟨t, ht⟩, hd⟩
    rw [← ht, List.drop_left] at hd
    refine ⟨String.ofList t, ?_, isDigits_iff.1 (by simpa using hd)⟩
    rw [String.ext_iff, String.toList_append, String.toList_ofList, ht]
  · rintro ⟨n, rfl, hn⟩
    rw [String.toList_append, List.drop_left]
    exact ⟨List.prefix_append _ _, isDigits_iff.2 hn⟩

theorem isVlanParent_iff {p : String} : isVlanParent p = true ↔ VlanParent p := by
  simp [isVlanParent, VlanParent, isNumbered_iff]

instance : DecidablePred VlanParent := fun _ => decidable_of_iff _ isVlanParent_iff

/-- No parent holds a dot: its stem has none, and a dot is no digit. -/
theorem dot_not_mem_of_vlanParent {p : String} (hp : VlanParent p) : '.' ∉ p.toList := by
  obtain ⟨stem, hstem, n, rfl, -, hn⟩ := hp
  have hs : '.' ∉ stem.toList := by
    simp only [List.mem_cons, List.not_mem_nil, or_false] at hstem
    rcases hstem with rfl | rfl <;> decide
  rw [String.toList_append, List.mem_append, not_or]
  exact ⟨hs, fun h => absurd (hn _ h) (by decide)⟩

/-! ### Values of numerals -/

/-- The reader's fold over the digits gives their value. -/
theorem foldl_digits (cs : List Char) :
    cs.foldl (fun acc c => acc * 10 + (c.toNat - '0'.toNat)) 0 = numeralValue (String.ofList cs) := by
  -- on the digits from the right: the last digit is the least
  induction cs using List.reverseRecOn with
  | nil => rfl
  | append_singleton cs c ih =>
    rw [List.foldl_append, List.foldl_cons, List.foldl_nil, ih]
    simp only [numeralValue, String.toList_ofList, List.reverse_append, List.reverse_cons,
      List.reverse_nil, List.nil_append, List.singleton_append, List.map_cons, Nat.ofDigits_cons]
    omega

/-- The text of a number is a numeral. -/
theorem numeral_toString (v : Nat) : Numeral (toString v) := by
  have htext : (toString v).toList = Nat.toDigits 10 v := String.toList_ofList
  rw [Numeral, htext]
  exact ⟨Nat.toDigits_ne_nil, fun c hc => Nat.isDigit_of_mem_toDigits (by decide) (by decide) hc⟩

/-- The text of a number has that number as its value. -/
theorem numeralValue_toString (v : Nat) : numeralValue (toString v) = v := by
  have h0 : '0'.toNat = 48 := rfl
  -- on the number: its last digit follows the text of `v / 10`
  induction v using Nat.strong_induction_on with
  | _ v ih =>
    have htext : (toString v).toList = Nat.toDigits 10 v := String.toList_ofList
    rw [numeralValue, htext, Nat.toDigits_eq_if (by decide)]
    split
    · rename_i hv
      simp [Nat.toNat_digitChar_of_lt_ten hv, h0]
    · have hrest := ih (v / 10) (Nat.div_lt_self (by omega) (by decide))
      have htext' : (toString (v / 10)).toList = Nat.toDigits 10 (v / 10) := String.toList_ofList
      rw [numeralValue, htext'] at hrest
      simp only [List.reverse_append, List.reverse_cons, List.reverse_nil, List.nil_append,
        List.singleton_append, List.map_cons, Nat.ofDigits_cons, hrest,
        Nat.toNat_digitChar_of_lt_ten (Nat.mod_lt v (by decide))]
      omega

/-! ### Splitting at the first dot -/

/-- A text splits at its first dot, if it has one: no dot before it. -/
theorem span_first_dot (l : List Char) :
    ∃ a r, l.span (· ≠ '.') = (a, r) ∧ l = a ++ r ∧ '.' ∉ a ∧ (r = [] ∨ ∃ b, r = '.' :: b) := by
  refine ⟨_, _, List.span_eq_takeWhile_dropWhile _ _, List.takeWhile_append_dropWhile.symm,
    fun h => by simpa using List.mem_takeWhile_imp h, ?_⟩
  rcases hr : l.dropWhile (· ≠ '.') with _ | ⟨c, b⟩
  · exact .inl rfl
  · have hc := List.head_dropWhile_not (fun x => decide (x ≠ '.')) (l := l)
      (by rw [hr]; exact List.cons_ne_nil _ _)
    simp only [hr, List.head_cons, decide_eq_false_iff_not, Decidable.not_not] at hc
    exact .inr ⟨b, by rw [hc]⟩

theorem span_append_dot {a b : List Char} (ha : '.' ∉ a) :
    (a ++ '.' :: b).span (· ≠ '.') = (a, '.' :: b) := by
  rw [List.span_eq_takeWhile_dropWhile]
  induction a with
  | nil => simp
  | cons c a ih =>
    simp only [List.mem_cons, not_or] at ha
    have hc : decide (c ≠ '.') = true := decide_eq_true fun h => ha.1 h.symm
    obtain ⟨ht, hd⟩ := Prod.mk.inj (ih ha.2)
    rw [List.cons_append, List.takeWhile_cons, List.dropWhile_cons, if_pos hc, if_pos hc, ht, hd]

/-! ### Reading a VLAN name -/

/-- A name reads as a parent and an id exactly when it is the parent, a dot and a
numeral whose value is the id, within `[1, 4095]`. -/
theorem parseVlanName_ok_iff {name p : String} {v : Nat} :
    parseVlanName name = .ok (p, v) ↔
      ∃ d, name = p ++ "." ++ d ∧ VlanParent p ∧ Numeral d ∧ numeralValue d = v ∧ 1 ≤ v ∧ v ≤ 4095 := by
  constructor
  · intro h
    obtain ⟨a, r, hspan, hl, -, rfl | ⟨b, rfl⟩⟩ := span_first_dot name.toList
    · -- no dot: not a VLAN name
      simp only [parseVlanName, hspan] at h
      cases h
    · simp only [parseVlanName, hspan] at h
      split at h
      · rename_i hchecks
        rw [Bool.and_eq_true, isVlanParent_iff, isDigits_iff] at hchecks
        split at h
        · rename_i hrange
          simp only [Except.ok.injEq, Prod.mk.injEq] at h
          obtain ⟨rfl, rfl⟩ := h
          refine ⟨String.ofList b, ?_, hchecks.1, by simpa [Numeral] using hchecks.2,
            (foldl_digits b).symm, hrange⟩
          rw [String.ext_iff, hl]
          simp
        · cases h
      · cases h
  · rintro ⟨d, rfl, hp, hd, rfl, h1, h2⟩
    have hsplit : (p ++ "." ++ d).toList = p.toList ++ '.' :: d.toList := by simp
    have hchecks : (isVlanParent p && isDigits d.toList) = true := by
      rw [Bool.and_eq_true, isVlanParent_iff, isDigits_iff]
      exact ⟨hp, hd⟩
    simp only [parseVlanName, hsplit, span_append_dot (dot_not_mem_of_vlanParent hp), hchecks,
      if_true, foldl_digits, String.ofList_toList, h1, h2, and_self]

/-- VLAN names parse exactly. A name reads as a parent `p` and an id `v` exactly
when it is `p`, a dot and a numeral `d`, where `p` is `eth` or `bond` followed
by a numeral and the value of `d` is `v`, within `[1, 4095]`. So the name written
from such a parent and an id in range reads back as them. -/
theorem vlan_names_parse_exactly :
    (∀ (name p : String) (v : Nat), parseVlanName name = .ok (p, v) ↔
      ∃ d, name = p ++ "." ++ d ∧ VlanParent p ∧ Numeral d ∧ numeralValue d = v ∧
        1 ≤ v ∧ v ≤ 4095) ∧
    (∀ (p : String) (v : Nat), VlanParent p → 1 ≤ v → v ≤ 4095 →
      parseVlanName (p ++ "." ++ toString v) = .ok (p, v)) :=
  ⟨fun _ _ _ => parseVlanName_ok_iff, fun _ v hp h1 h2 =>
    parseVlanName_ok_iff.2 ⟨toString v, rfl, hp, numeral_toString v, numeralValue_toString v, h1, h2⟩⟩

/-- `bond2.300` is written from the bond `bond2` and the id 300, and reads back. -/
theorem vlan_name_bond2_300 :
    VlanParent "bond2" ∧ parseVlanName ("bond2" ++ "." ++ toString 300) = .ok ("bond2", 300) :=
  have hp : VlanParent "bond2" := by decide +kernel
  ⟨hp, vlan_names_parse_exactly.2 "bond2" 300 hp (by decide) (by decide)⟩

end NetFleet.Column
