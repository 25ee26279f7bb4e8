import Mathlib
import NetFleet.Proofs.AddrText
import NetFleet.Proofs.ColumnReads
import NetFleet.Proofs.MessageOrder
import NetFleet.Control.Addresses

/-!
# Generated views and the order of visit

The ethernet interfaces of a router and its managed addresses are held as
dictionaries whose order of visit is open: the generator of the ethernet view
visits the interfaces in whatever order it is given, and the address report
visits the addresses of each interface in whatever order a `Column.Visit` gives.

Setting two different keys of a dictionary gives the same dictionary in either
order, on any list (`Dict.put_comm`), so a dictionary built from entries with
distinct keys does not depend on their order (`Dict.ofList_perm`). Hence:

* the ethernet view is the same in every order of the interfaces when at most
  one of them is refused (`ethernetReply_perm`); with two refused, the refusal
  is that of the one visited first;
* the address report is the same in every order of visit when no interface
  holds two prefixes of one address (`addressEntriesIn_eq`); with two, the one
  visited last wins. Each address is then reported with the interface that
  comes last among those that hold it, and the length of its one prefix there
  (`lookup_addressEntries`).

`views_independent_of_order` puts the three together, and
`views_follow_visit_order` shows both generators following the order of visit
once the conditions fail.
-/

namespace NetFleet

/-! ### Dictionaries -/

namespace Dict

variable {α : Type} {k k' : String}

/-- Setting two different keys gives the same list in either order, whatever the
list: each stops at the same entry of it. -/
theorem put_comm (h : k ≠ k') (v v' : α) (l : List (String × α)) :
    put k v (put k' v' l) = put k' v' (put k v l) := by
  induction l with
  | nil =>
    rcases lt_or_gt_of_ne h with hlt | hgt
    · simp [put, h, Ne.symm h, hlt, not_lt_of_gt hlt]
    · simp [put, h, Ne.symm h, hgt, not_lt_of_gt hgt]
  | cons e l ih =>
    obtain ⟨a, w⟩ := e
    by_cases ha : a = k
    · subst ha
      by_cases h' : k' < a
      · simp [put, h, Ne.symm h, h', not_lt_of_gt h']
      · simp [put, h, h']
    by_cases ha' : a = k'
    · subst ha'
      by_cases h' : k < a
      · simp [put, h, Ne.symm h, h', not_lt_of_gt h']
      · simp [put, Ne.symm h, h']
    by_cases hk : k < a <;> by_cases hk' : k' < a
    · rcases lt_or_gt_of_ne h with hlt | hgt
      · simp [put, ha, ha', hk, hk', h, Ne.symm h, hlt, not_lt_of_gt hlt]
      · simp [put, ha, ha', hk, hk', h, Ne.symm h, hgt, not_lt_of_gt hgt]
    · -- `k'` goes after `a`, so after `k`
      have hlt : ¬ k' < k := fun h₁ => hk' (lt_trans h₁ hk)
      simp [put, ha, ha', hk, hk', h, hlt]
    · have hlt : ¬ k < k' := fun h₁ => hk (lt_trans h₁ hk')
      simp [put, ha, ha', hk, hk', Ne.symm h, hlt]
    · simp [put, ha, ha', hk, hk', ih]

theorem lookup_cons_of_ne {a : String} {w : α} {l : List (String × α)} (h : k ≠ a) :
    ((a, w) :: l).lookup k = l.lookup k := by
  simp [List.lookup_cons, beq_false_of_ne h]

/-- After setting a key, it holds the new value and every other key its old one,
whatever the list. -/
theorem lookup_put (k' : String) (v : α) (l : List (String × α)) (k : String) :
    (put k' v l).lookup k = if k = k' then some v else l.lookup k := by
  induction l with
  | nil => by_cases h : k = k' <;> simp [put, h, lookup_cons_of_ne]
  | cons e l ih =>
    obtain ⟨a, w⟩ := e
    by_cases ha : a = k'
    · -- the entry of the key is replaced
      subst ha
      by_cases h : k = a
      · simp [put, h]
      · simp [put, h, lookup_cons_of_ne h]
    by_cases hlt : k' < a
    · by_cases h : k = k'
      · simp [put, ha, hlt, h]
      · simp [put, ha, hlt, h, lookup_cons_of_ne h]
    · by_cases h : k = a
      · subst h
        simp [put, ha, hlt]
      · simp [put, ha, hlt, lookup_cons_of_ne h, ih]

/-- A dictionary of entries with distinct keys does not depend on their order. -/
theorem ofList_perm {es es' : List (String × α)} (hp : es.Perm es') (hn : (es.map (·.1)).Nodup) :
    ofList es = ofList es' := by
  unfold ofList
  refine hp.foldl_eq' (fun x hx y hy z => ?_) []
  by_cases hxy : x.1 = y.1
  · -- two entries with one key are the same entry
    rw [List.inj_on_of_nodup_map hn hx hy hxy]
  · exact put_comm (Ne.symm hxy) _ _ z

end Dict

namespace Control

open Schema (Node Key)

/-! ### Mapping a list with refusals -/

section Outcomes

variable {α β ε : Type} {f : α → Except ε β}

/-- Mapping a list succeeds when each item does, with their values in order. -/
theorem mapM_eq_ok_map {g : α → β} :
    ∀ {l : List α}, (∀ x ∈ l, f x = .ok (g x)) → l.mapM f = .ok (l.map g)
  | [], _ => rfl
  | x :: l, h => by
    rw [List.mapM_cons, h x List.mem_cons_self, mapM_eq_ok_map fun y hy => h y (List.mem_cons_of_mem _ hy)]
    rfl

/-- Mapping a list in which one item alone is refused is refused as that item is,
wherever it stands. -/
theorem mapM_eq_error_of_unique {x : α} {e : ε} (hx : f x = .error e) :
    ∀ {l : List α}, x ∈ l → (∀ y ∈ l, y ≠ x → ∃ b, f y = .ok b) → l.mapM f = .error e
  | [], hm, _ => by cases hm
  | y :: l, hm, h => by
    rw [List.mapM_cons]
    by_cases hy : y = x
    · subst hy
      rw [hx]
      rfl
    · obtain ⟨b, hb⟩ := h y List.mem_cons_self hy
      have hm' : x ∈ l := (List.mem_cons.1 hm).resolve_left (Ne.symm hy)
      rw [hb, mapM_eq_error_of_unique hx hm' fun z hz => h z (List.mem_cons_of_mem _ hz)]
      rfl

end Outcomes

/-! ### The ethernet view -/

/-- An interface under its name, and the value it is set to when it is accepted. -/
def ethernetValue (names : List String) (ni : String × Node) : String × Json :=
  (ni.1, (ethernetEntry names ni.1 ni.2).toOption.getD .null)

/-- An interface that is not refused is set to its value. -/
theorem ethernetNamed_of_accepted {names : List String} {ni : String × Node}
    (h : (ethernetEntry names ni.1 ni.2).toBool ≠ false) :
    ethernetNamed names ni = .ok (ethernetValue names ni) := by
  obtain ⟨j, hj⟩ := Netdb.exists_ok_of_toBool (Bool.of_not_eq_false h)
  simp [ethernetNamed, ethernetValue, hj, Except.map, Except.toOption]

/-- **The ethernet view does not depend on the order of the interfaces** when at
most one of them is refused: accepted, they make one dictionary in every order;
one refused, its refusal is the reply in every order. -/
theorem ethernetReply_perm (names : List String) {ifaces l : List (String × Node)}
    (hp : l.Perm ifaces) (hn : (ifaces.map (·.1)).Nodup)
    (hone : ∀ x ∈ ifaces, ∀ y ∈ ifaces, (ethernetEntry names x.1 x.2).toBool = false →
      (ethernetEntry names y.1 y.2).toBool = false → x = y) :
    ethernetReply names l = ethernetReply names ifaces := by
  unfold ethernetReply
  by_cases hr : ∃ x ∈ ifaces, (ethernetEntry names x.1 x.2).toBool = false
  · -- the one refused interface stops both visits
    obtain ⟨x, hx, hxr⟩ := hr
    obtain ⟨r, hxe⟩ : ∃ r, ethernetNamed names x = .error r := by
      cases he : ethernetEntry names x.1 x.2 with
      | error r => exact ⟨r, by simp [ethernetNamed, he, Except.map]⟩
      | ok j => rw [he] at hxr; cases hxr
    have hothers : ∀ y ∈ ifaces, y ≠ x → ∃ b, ethernetNamed names y = .ok b :=
      fun y hy hne => ⟨_, ethernetNamed_of_accepted fun hb => hne (hone y hy x hx hb hxr)⟩
    rw [mapM_eq_error_of_unique hxe hx hothers,
      mapM_eq_error_of_unique hxe (hp.mem_iff.2 hx) fun y hy => hothers y (hp.mem_iff.1 hy)]
  · -- every interface is accepted: the same entries, in another order
    have hok : ∀ y ∈ ifaces, ethernetNamed names y = .ok (ethernetValue names y) :=
      fun y hy => ethernetNamed_of_accepted fun hb => hr ⟨y, hy, hb⟩
    have hkeys : ((l.map (ethernetValue names)).map (·.1)) = l.map (·.1) := by
      simp [List.map_map, Function.comp_def, ethernetValue]
    rw [mapM_eq_ok_map hok, mapM_eq_ok_map fun y hy => hok y (hp.mem_iff.1 hy)]
    dsimp only
    rw [Dict.ofList_perm (hp.map _) (by rw [hkeys]; exact (hp.map _).nodup_iff.2 hn)]

/-! ### The address report -/

/-- No two prefixes among the addresses of an interface share their address. -/
def SingleHosts (es : List (Key × Node)) : Prop :=
  ∀ ka ∈ es, ∀ kb ∈ es, ∀ p q : Net.Prefix, ka.1 = .cidr (some p) → kb.1 = .cidr (some q) →
    p.addr = q.addr → ka = kb

variable {router name : String} {iface : Node}

/-- Two addresses set in either order give the same entries, unless they are two
prefixes of one address. -/
theorem addAddress_comm {ka kb : Key × Node}
    (h : ∀ p q : Net.Prefix, ka.1 = .cidr (some p) → kb.1 = .cidr (some q) → p.addr = q.addr → ka = kb)
    (acc : List (String × AddressEntry)) :
    addAddress router name iface (addAddress router name iface acc ka) kb =
      addAddress router name iface (addAddress router name iface acc kb) ka := by
  by_cases hab : ka = kb
  · rw [hab]
  obtain ⟨k₁, a₁⟩ := ka
  obtain ⟨k₂, a₂⟩ := kb
  rcases k₁ with s₁ | b₁ | (_ | p)
  all_goals rcases k₂ with s₂ | b₂ | (_ | q)
  all_goals simp only [addAddress]
  -- two prefixes: their addresses differ, and so do the keys they are set under
  have hne : p.addr.render ≠ q.addr.render := fun he =>
    hab (h p q rfl rfl (Net.Addr.render_injective he))
  exact (Dict.put_comm hne _ _ acc).symm

/-- The addresses of an interface set in any order give the same entries when no
two of its prefixes share their address. -/
theorem foldl_addAddress_perm {es es' : List (Key × Node)} (hp : es'.Perm es) (hs : SingleHosts es)
    (acc : List (String × AddressEntry)) :
    es'.foldl (addAddress router name iface) acc = es.foldl (addAddress router name iface) acc :=
  hp.foldl_eq' (fun x hx y hy z =>
    addAddress_comm (fun p q hpx hqy he => hs x (hp.mem_iff.1 hx) y (hp.mem_iff.1 hy) p q hpx hqy he) z) acc

/-- **The address report does not depend on the order of visit** of the addresses
of each interface, when no interface holds two prefixes of one address. -/
theorem addressEntriesIn_eq {visit : Column.Visit} (hv : visit.Reorders) (router : String)
    {ifaces : List (String × Node)} (hs : ∀ ni ∈ ifaces, SingleHosts (ni.2.member "address").entries) :
    addressEntriesIn visit router ifaces = addressEntries router ifaces := by
  unfold addressEntries addressEntriesIn
  -- interface by interface, from every set of entries before it
  suffices h : ∀ acc, ifaces.foldl (addInterface visit router) acc =
      ifaces.foldl (addInterface Column.keyOrder router) acc from h []
  induction ifaces with
  | nil => intro acc; rfl
  | cons ni ifaces ih =>
    intro acc
    have hni : addInterface visit router acc ni = addInterface Column.keyOrder router acc ni := by
      unfold addInterface
      split_ifs
      · exact foldl_addAddress_perm (hv _ _) (hs ni List.mem_cons_self) acc
      · rfl
    rw [List.foldl_cons, List.foldl_cons, hni, ih fun n hn => hs n (List.mem_cons_of_mem _ hn)]

/-! ### Which interface an address is reported with -/

/-- Setting one address either leaves the entry of `h` as it was, or sets it to
the entry of a prefix of `h`. -/
theorem lookup_addAddress (acc : List (String × AddressEntry)) (ka : Key × Node) (h : String) :
    ((∀ p, ka.1 = .cidr (some p) → p.addr.render ≠ h) ∧
      (addAddress router name iface acc ka).lookup h = acc.lookup h) ∨
    ∃ p, ka.1 = .cidr (some p) ∧ p.addr.render = h ∧
      (addAddress router name iface acc ka).lookup h = some (addressEntry router name iface p ka.2) := by
  obtain ⟨k, a⟩ := ka
  rcases k with s | b | (_ | p)
  · exact .inl ⟨by simp, rfl⟩
  · exact .inl ⟨by simp, rfl⟩
  · exact .inl ⟨by simp, rfl⟩
  · by_cases hp : p.addr.render = h
    · exact .inr ⟨p, rfl, hp, by simp [addAddress, Dict.lookup_put, hp]⟩
    · exact .inl ⟨by simpa using hp, by simp [addAddress, Dict.lookup_put, Ne.symm hp]⟩

/-- Addresses of which none is a prefix of `h` leave its entry as it was. -/
theorem lookup_foldl_addAddress_of_none {h : String} :
    ∀ {es : List (Key × Node)} {acc : List (String × AddressEntry)},
      (∀ p a, (.cidr (some p), a) ∈ es → p.addr.render ≠ h) →
      (es.foldl (addAddress router name iface) acc).lookup h = acc.lookup h
  | [], _, _ => rfl
  | ka :: es, acc, hno => by
    rw [List.foldl_cons, lookup_foldl_addAddress_of_none fun p a hm => hno p a (List.mem_cons_of_mem _ hm)]
    rcases @lookup_addAddress router name iface acc ka h with
      ⟨-, hl⟩ | ⟨p, hk, hp, -⟩
    · exact hl
    · obtain ⟨k, a⟩ := ka
      cases hk
      exact absurd hp (hno p a List.mem_cons_self)

/-- Addresses whose prefixes of `h` all give one entry keep that entry. -/
theorem lookup_foldl_addAddress_of_all {h : String} {E : AddressEntry} :
    ∀ {es : List (Key × Node)} {acc : List (String × AddressEntry)},
      (∀ p a, (.cidr (some p), a) ∈ es → p.addr.render = h → addressEntry router name iface p a = E) →
      acc.lookup h = some E → (es.foldl (addAddress router name iface) acc).lookup h = some E
  | [], _, _, hacc => hacc
  | ka :: es, acc, hall, hacc => by
    rw [List.foldl_cons]
    refine lookup_foldl_addAddress_of_all (fun p a hm => hall p a (List.mem_cons_of_mem _ hm)) ?_
    rcases @lookup_addAddress router name iface acc ka h with
      ⟨-, hl⟩ | ⟨p, hk, hp, hl⟩
    · rw [hl, hacc]
    · obtain ⟨k, a⟩ := ka
      cases hk
      rw [hl, hall p a List.mem_cons_self hp]

/-- An address is reported with the one prefix of it on the interface. -/
theorem lookup_foldl_addAddress {es : List (Key × Node)} (hs : SingleHosts es) {p : Net.Prefix}
    {a : Node} (hm : (.cidr (some p), a) ∈ es) (acc : List (String × AddressEntry)) :
    (es.foldl (addAddress router name iface) acc).lookup p.addr.render =
      some (addressEntry router name iface p a) := by
  obtain ⟨pre, post, rfl⟩ := List.append_of_mem hm
  rw [List.foldl_append, List.foldl_cons]
  refine lookup_foldl_addAddress_of_all (fun q b hq he => ?_) ?_
  · -- another prefix of the address would be the same entry of the interface
    have hqa : q.addr = p.addr := Net.Addr.render_injective he
    have hsame := hs _ (List.mem_append_right _ (List.mem_cons_of_mem _ hq)) _ hm q p rfl rfl hqa
    cases hsame
    rfl
  · simp [addAddress, Dict.lookup_put]

/-- Interfaces of which none holds a managed prefix of `h` leave its entry as it was. -/
theorem lookup_foldl_addInterface_of_none {h : String} :
    ∀ {ifaces : List (String × Node)} {acc : List (String × AddressEntry)},
      (∀ ni ∈ ifaces, isManagedName ni.1 = true →
        ∀ p a, (.cidr (some p), a) ∈ (ni.2.member "address").entries → p.addr.render ≠ h) →
      (ifaces.foldl (addInterface Column.keyOrder router) acc).lookup h = acc.lookup h
  | [], _, _ => rfl
  | ni :: ifaces, acc, hno => by
    rw [List.foldl_cons, lookup_foldl_addInterface_of_none fun n hn => hno n (List.mem_cons_of_mem _ hn)]
    unfold addInterface
    split_ifs with hm
    · exact lookup_foldl_addAddress_of_none (hno ni List.mem_cons_self hm)
    · rfl

/-- **Each address is reported with the last managed interface that holds it**, and
the length of its one prefix there. -/
theorem lookup_addressEntries {router n : String} {i : Node} {pre post : List (String × Node)}
    (hn : isManagedName n = true) (hs : SingleHosts (i.member "address").entries) {p : Net.Prefix}
    {a : Node} (hm : (.cidr (some p), a) ∈ (i.member "address").entries)
    (hpost : ∀ ni ∈ post, isManagedName ni.1 = true →
      ∀ q b, (.cidr (some q), b) ∈ (ni.2.member "address").entries → q.addr ≠ p.addr) :
    (addressEntries router (pre ++ (n, i) :: post)).lookup p.addr.render =
      some (addressEntry router n i p a) := by
  unfold addressEntries addressEntriesIn
  rw [List.foldl_append, List.foldl_cons, lookup_foldl_addInterface_of_none fun ni hni hmn q b hq he =>
    hpost ni hni hmn q b hq (Net.Addr.render_injective he)]
  unfold addInterface
  rw [if_pos hn]
  exact lookup_foldl_addAddress hs hm _

/-! ### The generated views -/

/-- **Generated views do not depend on the order of visit.** The ethernet view is
the same for every order of interfaces with distinct names when at most one of
them is refused. The address report is the same for every order of visit of the
addresses of each interface when no interface holds two prefixes of one address;
each address is then reported with the last managed interface that holds it, and
the length of its one prefix there. -/
theorem views_independent_of_order (names : List String) (router : String) :
    (∀ ifaces l : List (String × Node), l.Perm ifaces → (ifaces.map (·.1)).Nodup →
      (∀ x ∈ ifaces, ∀ y ∈ ifaces, (ethernetEntry names x.1 x.2).toBool = false →
        (ethernetEntry names y.1 y.2).toBool = false → x = y) →
      ethernetReply names l = ethernetReply names ifaces) ∧
    (∀ (visit : Column.Visit) (ifaces : List (String × Node)) (report comment : Bool),
      visit.Reorders → (∀ ni ∈ ifaces, SingleHosts (ni.2.member "address").entries) →
      addressReply (addressEntriesIn visit router ifaces) report comment =
        addressReply (addressEntries router ifaces) report comment) ∧
    (∀ (pre post : List (String × Node)) (n : String) (i : Node) (p : Net.Prefix) (a : Node),
      isManagedName n = true → SingleHosts (i.member "address").entries →
      (.cidr (some p), a) ∈ (i.member "address").entries →
      (∀ ni ∈ post, isManagedName ni.1 = true →
        ∀ q b, (.cidr (some q), b) ∈ (ni.2.member "address").entries → q.addr ≠ p.addr) →
      (addressEntries router (pre ++ (n, i) :: post)).lookup p.addr.render =
        some (addressEntry router n i p a)) := by
  refine ⟨fun ifaces l hp hn hone => ethernetReply_perm names hp hn hone,
    fun visit ifaces report comment hv hs => ?_,
    fun pre post n i p a hn hs hm hpost => lookup_addressEntries hn hs hm hpost⟩
  rw [addressEntriesIn_eq hv router hs]

/-- An interface given only its type. -/
def typedIface (type : String) : Node := .record [("type", .text type)]

/-- An ethernet interface holding `10.0.0.1/24`. -/
def oneAddressIface : Node :=
  .record [("type", .text "ethernet"), ("address", .dict [(.cidr (some ⟨.v4 0x0A000001#32, 24⟩), .nil)])]

/-- An ethernet interface holding `10.0.0.1/24` and `10.0.0.2/24`. -/
def twoHostIface : Node :=
  .record [("type", .text "ethernet"), ("address", .dict
    [(.cidr (some ⟨.v4 0x0A000001#32, 24⟩), .nil), (.cidr (some ⟨.v4 0x0A000002#32, 24⟩), .nil)])]

/-- An ethernet interface holding `10.0.0.1/30`. -/
def narrowIface : Node :=
  .record [("type", .text "ethernet"), ("address", .dict [(.cidr (some ⟨.v4 0x0A000001#32, 30⟩), .nil)])]

/-- A refused interface and an ethernet one in both orders; an interface with two
hosts visited backwards; and a host that an earlier interface holds too, reported
with the later one. -/
theorem views_independent_of_order_at_eth0 :
    ethernetReply [] [("eth1", typedIface "dummy"), ("eth0", typedIface "ethernet")] =
        ethernetReply [] [("eth0", typedIface "ethernet"), ("eth1", typedIface "dummy")] ∧
      addressReply (addressEntriesIn (fun _ es => es.reverse) "SIN1" [("eth0", twoHostIface)]) true true =
        addressReply (addressEntries "SIN1" [("eth0", twoHostIface)]) true true ∧
      (addressEntries "SIN1" ([("eth0", oneAddressIface)] ++ ("eth1", narrowIface) :: [])).lookup "10.0.0.1" =
        some (addressEntry "SIN1" "eth1" narrowIface ⟨.v4 0x0A000001#32, 30⟩ .nil) := by
  obtain ⟨hEth, hVisit, hLast⟩ := views_independent_of_order [] "SIN1"
  have he : (ethernetEntry [] "eth0" (typedIface "ethernet")).toBool = true := by rfl
  -- the two addresses of the interface are of two hosts
  have hsingle : SingleHosts (twoHostIface.member "address").entries := by
    have hes : (twoHostIface.member "address").entries =
        [(.cidr (some ⟨.v4 0x0A000001#32, 24⟩), .nil), (.cidr (some ⟨.v4 0x0A000002#32, 24⟩), .nil)] := rfl
    intro ka hka kb hkb p q hp hq hpq
    simp only [hes, List.mem_cons, List.not_mem_nil, or_false] at hka hkb
    rcases hka with rfl | rfl <;> rcases hkb with rfl | rfl <;> cases hp <;> cases hq <;>
      first | rfl | exact absurd hpq (by decide)
  have hnarrow : SingleHosts (narrowIface.member "address").entries := by
    intro ka hka kb hkb _ _ _ _ _
    rw [List.mem_singleton.1 hka, List.mem_singleton.1 hkb]
  refine ⟨hEth _ _ (List.Perm.swap _ _ []) (by simp) ?_,
    hVisit _ _ true true (fun _ es => List.reverse_perm es) ?_,
    hLast _ [] "eth1" narrowIface _ .nil (by decide +kernel) hnarrow List.mem_cons_self (by simp)⟩
  · -- only the dummy interface is refused
    intro x hx y hy hxr hyr
    simp only [List.mem_cons, List.not_mem_nil, or_false] at hx hy
    rcases hx with rfl | rfl
    · rw [he] at hxr
      cases hxr
    · rcases hy with rfl | rfl
      · rw [he] at hyr
        cases hyr
      · rfl
  · intro ni hni
    rw [List.mem_singleton.1 hni]
    exact hsingle

/-- An ethernet interface holding both `10.0.0.1/24` and `10.0.0.1/31`. -/
def twoPrefixIface : Node :=
  .record [("type", .text "ethernet"), ("address", .dict
    [(.cidr (some ⟨.v4 0x0A000001#32, 24⟩), .nil), (.cidr (some ⟨.v4 0x0A000001#32, 31⟩), .nil)])]

/-- Once two interfaces are refused, or one interface holds two prefixes of one
address, the views follow the order of visit: the refusal is that of the
interface visited first, and the address is reported with the prefix visited
last. -/
theorem views_follow_visit_order :
    ethernetReply [] [("eth0", typedIface "dummy"), ("eth1", typedIface "dummy")] =
        Reply.fail "eth0: unsupported interface type!" ∧
      ethernetReply [] [("eth1", typedIface "dummy"), ("eth0", typedIface "dummy")] =
        Reply.fail "eth1: unsupported interface type!" ∧
      (addressReply (addressEntries "SIN1" [("eth0", twoPrefixIface)]) true false).out =
        some (.data (.obj [("10.0.0.1",
          .obj [("cidr", .str "31"), ("device", .str "SIN1"), ("interface", .str "eth0")])])) ∧
      (addressReply (addressEntriesIn (fun _ es => es.reverse) "SIN1" [("eth0", twoPrefixIface)]) true
          false).out =
        some (.data (.obj [("10.0.0.1",
          .obj [("cidr", .str "24"), ("device", .str "SIN1"), ("interface", .str "eth0")])])) := by
  have hm : isManagedName "eth0" = true := by decide +kernel
  have hr : Net.Addr.render (.v4 0x0A000001#32) = "10.0.0.1" := by decide +kernel
  refine ⟨rfl, rfl, ?_, ?_⟩
  -- the address is set twice, the prefix visited last staying
  all_goals simp [addressReply, addressEntries, addressEntriesIn, addInterface, hm, twoPrefixIface,
    Node.member, Node.entries, Node.deref, Node.str, addAddress, hr, Dict.put, AddressEntry.toJson,
    addressEntry, addressMeta, Column.keyOrder]
  all_goals decide +kernel

end Control

end NetFleet
