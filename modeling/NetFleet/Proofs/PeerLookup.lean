import Mathlib
import NetFleet.Proofs.AddrText
import NetFleet.Control.Peer

/-!
# Managed BGP peers

The managed peers of a BGP set are its neighbors in address order
(`Column.neighborsInOrder`), each written as the canonical text of its address, and
a peer is looked up by any spelling of its address (`findPeer`): the text is read
and written again in canonical form before the peers are searched.

* The neighbors in order are the neighbors of the set, each once
  (`neighborsInOrder_perm`), sorted with the unset address first and then by
  `Net.Addr.compare`, which orders addresses as the key `Net.Addr.orderKey` does
  (`neighborsInOrder_sorted`).
* Canonical texts read back as their addresses (`Net.Addr.parse_render`), so a text
  that reads as an address finds the first neighbor at that address, whatever its
  spelling (`findPeer_peersOf_ok`).
* A neighbor whose key holds no address, as decoding the empty key gives, is a peer
  written `invalid IP`. That text reads as no address and is looked up as it is
  written, so it finds that neighbor (`findPeer_peersOf_error`,
  `unset_neighbor_found_as_invalid_ip`).
-/

namespace NetFleet.Net.Addr

/-- What addresses are ordered by: length, then number, then zone. -/
def orderKey (a : Addr) : Lex (Nat × Lex (Nat × String)) := toLex (a.bitLen, toLex (a.toNat, a.zone))

/-- `compare` puts `a` no later than `b` exactly when its key is no greater. -/
theorem compare_ne_gt_iff (a b : Addr) : compare a b ≠ .gt ↔ a.orderKey ≤ b.orderKey := by
  simp only [orderKey, Prod.Lex.toLex_le_toLex]
  unfold compare
  rcases lt_trichotomy a.bitLen b.bitLen with h | h | h
  · simp [compare_lt_iff_lt.2 h, h]
  · rw [compare_eq_iff_eq.2 h]
    rcases lt_trichotomy a.toNat b.toNat with h' | h' | h'
    · simp [compare_lt_iff_lt.2 h', h, h']
    · rw [compare_eq_iff_eq.2 h', ne_eq, compare_gt_iff_gt, not_lt]
      simp [h, h']
    · simp [compare_gt_iff_gt.2 h', h, h'.not_gt, h'.ne']
  · simp [compare_gt_iff_gt.2 h, h.not_gt, h.ne']

/-- The text `invalid IP` is no address. -/
theorem parse_invalidIP : ∃ e, parse "invalid IP" = .error e := ⟨_, rfl⟩

theorem render_ne_invalidIP (a : Addr) : a.render ≠ "invalid IP" := by
  intro h
  obtain ⟨e, he⟩ := parse_invalidIP
  have := parse_render a
  rw [h, he] at this
  cases this

end NetFleet.Net.Addr

namespace NetFleet.Column

open Schema

/-- The neighbor order is a total preorder. -/
theorem neighborBefore_trans (x y z : Option Net.Addr) (hxy : neighborBefore x y = true)
    (hyz : neighborBefore y z = true) : neighborBefore x z = true := by
  rcases x with _ | a
  · rfl
  rcases y with _ | b
  · cases hxy
  rcases z with _ | c
  · cases hyz
  simp only [neighborBefore, bne_iff_ne, ne_eq, Net.Addr.compare_ne_gt_iff] at hxy hyz ⊢
  exact le_trans hxy hyz

theorem neighborBefore_total (x y : Option Net.Addr) : (neighborBefore x y || neighborBefore y x) = true := by
  rcases x with _ | a
  · rfl
  rcases y with _ | b
  · rfl
  simp only [neighborBefore, bne_iff_ne, ne_eq, Net.Addr.compare_ne_gt_iff, Bool.or_eq_true]
  exact le_total _ _

/-- The neighbors in order are the neighbors of the set, each once. -/
theorem neighborsInOrder_perm (b : Node) :
    (neighborsInOrder b).Perm ((b.member "neighbors").entries.map fun e => (keyAddr e.1, e.2)) :=
  List.mergeSort_perm _ _

/-- The neighbors in order are sorted: the unset address first, then by address. -/
theorem neighborsInOrder_sorted (b : Node) :
    (neighborsInOrder b).Pairwise fun x y => neighborBefore x.1 y.1 = true :=
  List.pairwise_mergeSort (fun x y z => neighborBefore_trans x.1 y.1 z.1) (fun x y => neighborBefore_total x.1 y.1) _

end NetFleet.Column

namespace NetFleet.Control

open NetFleet.Schema (Node)
open NetFleet.Column (neighborsInOrder)

/-- The text a peer is written as: its canonical address, or `invalid IP` when unset. -/
theorem Peer.ofNeighbor_address (groups : List (Schema.Key × Node)) (a : Option Net.Addr) (n : Node) :
    (Peer.ofNeighbor groups a n).address = (a.map Net.Addr.render).getD "invalid IP" := rfl

/-- The written address of a neighbor is the canonical text of an address exactly
when the neighbor is at that address. -/
theorem address_eq_render_iff (k : Option Net.Addr) (a : Net.Addr) :
    (k.map Net.Addr.render).getD "invalid IP" = a.render ↔ k = some a := by
  rcases k with _ | c
  · simpa using (Net.Addr.render_ne_invalidIP a).symm
  · simpa using Net.Addr.render_injective.eq_iff

/-- A text that is no address is the written address of a neighbor only when it is
`invalid IP` and the neighbor's address is unset. -/
theorem address_eq_of_error {s : String} {e : Net.AddrError} (h : Net.Addr.parse s = .error e)
    (k : Option Net.Addr) : (k.map Net.Addr.render).getD "invalid IP" = s ↔ k = none ∧ s = "invalid IP" := by
  rcases k with _ | c
  · simp [eq_comm]
  · simp only [Option.map_some, Option.getD_some, reduceCtorEq, false_and, iff_false]
    rintro rfl
    rw [Net.Addr.parse_render] at h
    cases h

section Lookup

variable (b : Node) {s : String}

theorem findPeer_of_ok {peers : List Peer} {a : Net.Addr} (h : Net.Addr.parse s = .ok a) :
    findPeer peers s = peers.find? (·.address = a.render) := by
  simp [findPeer, h]

theorem findPeer_of_error {peers : List Peer} {e : Net.AddrError} (h : Net.Addr.parse s = .error e) :
    findPeer peers s = peers.find? (·.address = s) := by
  simp [findPeer, h]

/-- A text that reads as an address finds the first neighbor at that address. -/
theorem findPeer_peersOf_ok {a : Net.Addr} (h : Net.Addr.parse s = .ok a) :
    findPeer (peersOf b) s = ((neighborsInOrder b).find? (·.1 = some a)).map
      fun x => Peer.ofNeighbor (b.member "peer_groups").entries x.1 x.2 := by
  rw [findPeer_of_ok h, peersOf, List.find?_map]
  congr 2
  funext x
  exact decide_eq_decide.2 (address_eq_render_iff x.1 a)

/-- A text that is no address finds only a neighbor whose address is unset, and only
when it is `invalid IP`. -/
theorem findPeer_peersOf_error {e : Net.AddrError} (h : Net.Addr.parse s = .error e) :
    findPeer (peersOf b) s = if s = "invalid IP" then ((neighborsInOrder b).find? (·.1 = none)).map
      (fun x => Peer.ofNeighbor (b.member "peer_groups").entries x.1 x.2) else none := by
  rw [findPeer_of_error h, peersOf, List.find?_map]
  split_ifs with hs
  · congr 2
    funext x
    exact decide_eq_decide.2 ((address_eq_of_error h x.1).trans (by simp [hs]))
  · rw [List.find?_eq_none.2 fun x _ => ?_, Option.map_none]
    simp [Peer.ofNeighbor_address, address_eq_of_error h, hs]

end Lookup

/-- Every peer is written as the canonical text of an address, or as `invalid IP`. -/
theorem peer_address_canonical {b : Node} {p : Peer} (hp : p ∈ peersOf b) :
    (∃ a, Net.Addr.parse p.address = .ok a ∧ a.render = p.address) ∨ p.address = "invalid IP" := by
  obtain ⟨⟨k, n⟩, -, rfl⟩ := List.mem_map.1 hp
  rcases k with _ | a
  · exact .inr rfl
  · exact .inl ⟨a, Net.Addr.parse_render a, rfl⟩

/-- The managed peers of a BGP set are its neighbors, each once and in address
order, written as the canonical texts of their addresses, or `invalid IP` when the
address is unset. A text that reads as an address finds the first neighbor at that
address, however it is spelled; a text that is no address finds only a neighbor
whose address is unset, and only when it is `invalid IP`. -/
theorem peers_found_by_spelling (b : Node) :
    (neighborsInOrder b).Perm ((b.member "neighbors").entries.map fun e => (Column.keyAddr e.1, e.2)) ∧
    (neighborsInOrder b).Pairwise (fun x y => Column.neighborBefore x.1 y.1 = true) ∧
    (peersOf b).map (·.address) =
      (neighborsInOrder b).map (fun e => (e.1.map Net.Addr.render).getD "invalid IP") ∧
    (∀ p ∈ peersOf b, (∃ a, Net.Addr.parse p.address = .ok a ∧ a.render = p.address) ∨
      p.address = "invalid IP") ∧
    (∀ s a, Net.Addr.parse s = .ok a → findPeer (peersOf b) s =
      ((neighborsInOrder b).find? (·.1 = some a)).map
        fun x => Peer.ofNeighbor (b.member "peer_groups").entries x.1 x.2) ∧
    (∀ s e, Net.Addr.parse s = .error e → findPeer (peersOf b) s =
      if s = "invalid IP" then ((neighborsInOrder b).find? (·.1 = none)).map
        (fun x => Peer.ofNeighbor (b.member "peer_groups").entries x.1 x.2) else none) :=
  ⟨Column.neighborsInOrder_perm b, Column.neighborsInOrder_sorted b, by simp [peersOf, Peer.ofNeighbor_address],
    fun _ hp => peer_address_canonical hp, fun _ _ h => findPeer_peersOf_ok b h,
    fun _ _ h => findPeer_peersOf_error b h⟩

/-- A neighbor whose address is unset is a peer written `invalid IP`, and that text,
which is no address, finds it. -/
theorem unset_neighbor_found_as_invalid_ip :
    (∃ e, Net.Addr.parse "invalid IP" = .error e) ∧
      (findPeer (peersOf (.record [("neighbors", .dict [(.addr none, .record [])])])) "invalid IP").map
        (·.address) = some "invalid IP" := by
  obtain ⟨e, he⟩ := Net.Addr.parse_invalidIP
  refine ⟨⟨e, he⟩, ?_⟩
  rw [findPeer_peersOf_error _ he, if_pos rfl]
  simp [neighborsInOrder, Node.member, Node.deref, Node.entries, Column.keyAddr, Peer.ofNeighbor_address]

end NetFleet.Control
