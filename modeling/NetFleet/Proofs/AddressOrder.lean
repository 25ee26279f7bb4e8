import Mathlib
import NetFleet.Proofs.PeerLookup
import NetFleet.Net.Text

/-!
# Address order

`Net.sortAddresses` orders texts by a key (`addressKey`): a group, then the address as
a number and its zone, and for a text that is no address the text itself. The group
puts IPv6 addresses first, then IPv4 addresses, then texts that are no address.

* Sorting by a key: the result holds the same items, sorted by their keys, and the
  items of each key keep their input order (`SortedByKey`). Merge sort under the
  order of the keys does this for every key (`mergeSort_sortedByKey`).
* `addressBefore` compares the keys of its two texts (`addressBefore_iff`), so
  address order is sorting by the key whose group is `sortGroup`
  (`sortAddresses_sortedByKey`).
* The group of a text is its family's group (`familyGroup`, read off `familyOf`) for
  every text but an IPv4-mapped address: `familyOf` counts such an address as IPv4 and
  the order puts it with the IPv6 addresses (`sortGroup_eq_familyGroup_iff`,
  `mapped_address_sorted_with_ipv6`). On lists without one, address order is sorting
  by the family's group as well.
-/

namespace NetFleet

/-! ### Sorting by a key -/

section SortedByKey

variable {α β : Type} [LinearOrder β]

/-- `ys` is `xs` sorted by `key`: the same items, in the order of their keys, the items
of one key in the order `xs` has them. -/
structure SortedByKey (key : α → β) (xs ys : List α) : Prop where
  perm : ys.Perm xs
  sorted : ys.Pairwise fun a b => key a ≤ key b
  stable : ∀ k, ys.filter (fun a => key a = k) = xs.filter (fun a => key a = k)

theorem key_le_trans (key : α → β) (a b c : α) (hab : decide (key a ≤ key b) = true)
    (hbc : decide (key b ≤ key c) = true) : decide (key a ≤ key c) = true := by
  simp only [decide_eq_true_eq] at *
  exact le_trans hab hbc

theorem key_le_total (key : α → β) (a b : α) : (decide (key a ≤ key b) || decide (key b ≤ key a)) = true := by
  simpa using le_total (key a) (key b)

/-- Merge sort under the order of the keys sorts by the key. -/
theorem mergeSort_sortedByKey (key : α → β) (xs : List α) :
    SortedByKey key xs (xs.mergeSort fun a b => decide (key a ≤ key b)) where
  perm := List.mergeSort_perm _ _
  sorted := by
    simpa using List.pairwise_mergeSort (key_le_trans key) (key_le_total key) xs
  stable k := by
    -- The items of key `k` are, in input order, a sorted sublist of the input, so they
    -- stay a sublist of the output, which holds no more of them.
    have hsorted : (xs.filter fun a => key a = k).Pairwise fun a b => decide (key a ≤ key b) :=
      List.pairwise_of_forall_mem_list fun a ha b hb => by
        simp only [List.mem_filter, decide_eq_true_eq] at ha hb
        simp [ha.2, hb.2]
    have hsub := (List.sublist_mergeSort (key_le_trans key) (key_le_total key) hsorted
      List.filter_sublist).filter fun a => decide (key a = k)
    simp only [List.filter_filter, Bool.and_self] at hsub
    exact (hsub.eq_of_length ((List.mergeSort_perm xs _).filter _).length_eq.symm).symm

/-- Sorting by a key depends on the key only on the items sorted. -/
theorem SortedByKey.congr {key key' : α → β} {xs ys : List α} (h : SortedByKey key xs ys)
    (hk : ∀ a ∈ xs, key a = key' a) : SortedByKey key' xs ys where
  perm := h.perm
  sorted := h.sorted.imp_of_mem fun ha hb hab => by
    rwa [← hk _ (h.perm.subset ha), ← hk _ (h.perm.subset hb)]
  stable k := by
    have hys : ys.filter (fun a => key' a = k) = ys.filter (fun a => key a = k) :=
      List.filter_congr fun a ha => by rw [hk a (h.perm.subset ha)]
    have hxs : xs.filter (fun a => key' a = k) = xs.filter (fun a => key a = k) :=
      List.filter_congr fun a ha => by rw [hk a ha]
    rw [hys, hxs, h.stable k]

end SortedByKey

namespace Net

/-! ### The key of a text -/

/-- The key of a text in an order of addresses whose groups `group` gives: the group,
then the address as a number and its zone, and for a text that is no address the text
itself. -/
def addressKey (group : String → Nat) (s : String) : Lex (Nat × Lex (Nat × Lex (String × String))) :=
  toLex (group s, match Addr.parse s with
    | .ok a => toLex (a.toNat, toLex (a.zone, ""))
    | .error _ => toLex (0, toLex ("", s)))

/-- Whether a text is an IPv4-mapped address (`::ffff:a.b.c.d`). -/
def isMappedAddress (s : String) : Bool :=
  match Addr.parse s with
  | .ok a => a.is4In6
  | .error _ => false

/-- The group of a text by its family as `familyOf` gives it: IPv6 first, then IPv4,
then texts that are no address. -/
def familyGroup (s : String) : Nat :=
  match familyOf s with
  | .ok f => if f = "ipv4" then 1 else 0
  | .error _ => 2

theorem addressKey_of_ok {group : String → Nat} {s : String} {a : Addr} (h : Addr.parse s = .ok a) :
    addressKey group s = toLex (group s, toLex (a.toNat, toLex (a.zone, ""))) := by
  simp [addressKey, h]

theorem addressKey_of_error {group : String → Nat} {s : String} {e : AddrError} (h : Addr.parse s = .error e) :
    addressKey group s = toLex (group s, toLex (0, toLex ("", s))) := by
  simp [addressKey, h]

namespace Addr

/-- `compare` puts `a` strictly before `b` exactly when its key is smaller. -/
theorem compare_eq_lt_iff (a b : Addr) : compare a b = .lt ↔ a.orderKey < b.orderKey := by
  simp only [orderKey, Prod.Lex.toLex_lt_toLex]
  unfold compare
  rcases lt_trichotomy a.bitLen b.bitLen with h | h | h
  · simp [compare_lt_iff_lt.2 h, h]
  · rw [compare_eq_iff_eq.2 h]
    rcases lt_trichotomy a.toNat b.toNat with h' | h' | h'
    · simp [compare_lt_iff_lt.2 h', h, h']
    · rw [compare_eq_iff_eq.2 h', compare_lt_iff_lt]
      simp [h, h']
    · simp [compare_gt_iff_gt.2 h', h, h'.not_gt, h'.ne']
  · simp [compare_gt_iff_gt.2 h, h.not_gt, h.ne']

/-- Between addresses of one length, `lt` compares the numbers, then the zones. -/
theorem lt_iff_of_bitLen_eq {a b : Addr} (h : a.bitLen = b.bitLen) :
    a.lt b = true ↔ toLex (a.toNat, toLex (a.zone, "")) < toLex (b.toNat, toLex (b.zone, "")) := by
  simp [lt, compare_eq_lt_iff, orderKey, Prod.Lex.toLex_lt_toLex, h]

/-- An IPv4-mapped address unmaps to an IPv4 address; no other IPv6 address does. -/
theorem is4_unmap (a : Addr) : a.unmap.is4 = (a.is4 || a.is4In6) := by
  cases a with
  | v4 b => rfl
  | v6 b z => by_cases h : (Addr.v6 b z).is4In6 <;> simp [unmap, h, is4]

end Addr

/-! ### Address order -/

/-- Address order compares the keys whose group is `sortGroup`. -/
theorem addressBefore_iff (a b : String) :
    addressBefore a b = true ↔
      addressKey (sortGroup ∘ Addr.parse) a < addressKey (sortGroup ∘ Addr.parse) b := by
  by_cases hg : sortGroup (Addr.parse a) = sortGroup (Addr.parse b)
  case neg =>
    simp [addressBefore, addressKey, hg, Prod.Lex.toLex_lt_toLex]
  -- in one group, either both texts are addresses, which then have one length, or neither is
  rcases ha : Addr.parse a with e | x <;> rcases hb : Addr.parse b with e' | y <;>
    rw [ha, hb] at hg
  · simp [addressBefore, addressKey_of_error ha, addressKey_of_error hb, ha, hb, hg,
      Prod.Lex.toLex_lt_toLex]
  · cases y <;> simp [sortGroup] at hg
  · cases x <;> simp [sortGroup] at hg
  · have hlen : x.bitLen = y.bitLen := by
      cases x <;> cases y <;> simp_all [sortGroup, Addr.bitLen]
    simp only [addressBefore, ha, hb, hg, ne_eq, not_true_eq_false, if_false]
    rw [Addr.lt_iff_of_bitLen_eq hlen, addressKey_of_ok ha, addressKey_of_ok hb]
    simp [ha, hb, hg, Prod.Lex.toLex_lt_toLex]

/-- Address order is merge sort under the order of the keys whose group is `sortGroup`. -/
theorem sortAddresses_eq_mergeSort (xs : List String) :
    sortAddresses xs = xs.mergeSort fun a b =>
      decide (addressKey (sortGroup ∘ Addr.parse) a ≤ addressKey (sortGroup ∘ Addr.parse) b) := by
  unfold sortAddresses
  congr
  funext a b
  rw [Bool.eq_iff_iff, Bool.not_eq_true', ← Bool.not_eq_true, addressBefore_iff, not_lt]
  simp

theorem sortAddresses_sortedByKey (xs : List String) :
    SortedByKey (addressKey (sortGroup ∘ Addr.parse)) xs (sortAddresses xs) := by
  rw [sortAddresses_eq_mergeSort]
  exact mergeSort_sortedByKey _ xs

/-! ### Groups and families -/

theorem familyGroup_of_ok {s : String} {a : Addr} (h : Addr.parse s = .ok a) :
    familyGroup s = if a.unmap.is4 then 1 else 0 := by
  by_cases h4 : a.unmap.is4 <;> simp [familyGroup, familyOf, h, h4]

theorem familyGroup_of_error {s : String} {e : AddrError} (h : Addr.parse s = .error e) :
    familyGroup s = 2 := by
  simp [familyGroup, familyOf, h]

theorem familyGroup_of_familyOf {s f : String} (h : (familyOf s).toOption = some f) :
    familyGroup s = if f = "ipv4" then 1 else 0 := by
  rcases hf : familyOf s with e | f'
  · simp [hf, Except.toOption] at h
  · simp only [hf, Except.toOption, Option.some.injEq] at h
    simp [familyGroup, hf, h]

/-- Items in key order are in order of their groups. -/
theorem group_le_of_addressKey_le {group : String → Nat} {a b : String}
    (h : addressKey group a ≤ addressKey group b) : group a ≤ group b := by
  rw [addressKey, addressKey, Prod.Lex.toLex_le_toLex] at h
  omega

/-- The group of a text in address order is its family's group exactly when the text
is not an IPv4-mapped address. -/
theorem sortGroup_eq_familyGroup_iff (s : String) :
    sortGroup (Addr.parse s) = familyGroup s ↔ isMappedAddress s = false := by
  rcases h : Addr.parse s with e | a
  · simp [sortGroup, familyGroup_of_error h, isMappedAddress, h]
  · rw [familyGroup_of_ok h, Addr.is4_unmap]
    cases a <;> simp [sortGroup, isMappedAddress, h, Addr.is4, Addr.is4In6]

/-- Address order is a stable sort of its texts by group, then number and zone, and
texts that are no address by the text. The group is the family's group for every text
but an IPv4-mapped address, so on lists without one it sorts by family as well. -/
theorem addresses_sorted_by_group (xs : List String) :
    SortedByKey (addressKey (sortGroup ∘ Addr.parse)) xs (sortAddresses xs) ∧
    (∀ s, sortGroup (Addr.parse s) = familyGroup s ↔ isMappedAddress s = false) ∧
    ((∀ s ∈ xs, isMappedAddress s = false) →
      SortedByKey (addressKey familyGroup) xs (sortAddresses xs)) := by
  refine ⟨sortAddresses_sortedByKey xs, sortGroup_eq_familyGroup_iff, fun hxs => ?_⟩
  -- where the groups agree on every item, so do the keys
  refine (sortAddresses_sortedByKey xs).congr fun s hs => ?_
  simp only [addressKey, Function.comp, (sortGroup_eq_familyGroup_iff s).2 (hxs s hs)]

/-- An IPv4-mapped address is IPv4 to `familyOf`, yet address order keeps it with the
IPv6 addresses, here ahead of `2001:db8::1`, so the list is not sorted by family. -/
theorem mapped_address_sorted_with_ipv6 :
    (familyOf "::ffff:10.0.0.1").toOption = some "ipv4" ∧
    (familyOf "2001:db8::1").toOption = some "ipv6" ∧
    sortAddresses ["::ffff:10.0.0.1", "2001:db8::1"] = ["::ffff:10.0.0.1", "2001:db8::1"] ∧
    ¬ SortedByKey (addressKey familyGroup) ["::ffff:10.0.0.1", "2001:db8::1"]
      (sortAddresses ["::ffff:10.0.0.1", "2001:db8::1"]) := by
  have hm : (familyOf "::ffff:10.0.0.1").toOption = some "ipv4" := by decide +kernel
  have h6 : (familyOf "2001:db8::1").toOption = some "ipv6" := by decide +kernel
  -- the two texts are already in address order, so sorting keeps them
  have hs : sortAddresses ["::ffff:10.0.0.1", "2001:db8::1"] = ["::ffff:10.0.0.1", "2001:db8::1"] :=
    List.mergeSort_of_pairwise (List.pairwise_pair.2 (by decide +kernel))
  refine ⟨hm, h6, hs, fun h => ?_⟩
  have hsorted := h.sorted
  rw [hs, List.pairwise_pair] at hsorted
  have hle := group_le_of_addressKey_le hsorted
  rw [familyGroup_of_familyOf hm, familyGroup_of_familyOf h6] at hle
  simp at hle

/-- The texts of a list with IPv6 and IPv4 addresses and a text that is no address,
none of them IPv4-mapped, are sorted by family. -/
theorem unmapped_addresses_sorted_by_family :
    (∀ s ∈ ["10.0.0.10", "2001:db8::2", "10.0.0.9", "2001:db8::1", "bogus"], isMappedAddress s = false) ∧
    SortedByKey (addressKey familyGroup) ["10.0.0.10", "2001:db8::2", "10.0.0.9", "2001:db8::1", "bogus"]
      (sortAddresses ["10.0.0.10", "2001:db8::2", "10.0.0.9", "2001:db8::1", "bogus"]) := by
  have h : ∀ s ∈ ["10.0.0.10", "2001:db8::2", "10.0.0.9", "2001:db8::1", "bogus"], isMappedAddress s = false := by
    decide +kernel
  exact ⟨h, (addresses_sorted_by_group _).2.2 h⟩

end Net

end NetFleet
