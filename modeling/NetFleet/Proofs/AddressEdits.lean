import Mathlib
import NetFleet.Proofs.DeepMerge
import NetFleet.Inventory.Addresses

/-!
# Assigning and removing an address

Assigning an address to an interface (`Found.assign`) keys it by the canonical
text of its prefix and compares that text with the keys of the interface's
`address` object as they are stored. It is refused exactly when the canonical
text is already a key (`assign_refused_iff`): a key stored in another spelling
of the same prefix, `2001:DB8::1/64` beside `2001:db8::1/64`, does not count,
and the address is added a second time (`assign_keeps_other_spelling`).

Otherwise the edited fragment is the one read with that one key added to the
`address` object, holding the address's meta data, and nothing else changed:
no other device, interface or member of the entry. Removing the same address
from the edited fragment (`Found.unassign`) gives the fragment read back, unless
the entry held an empty `address` object or no object there, which removal then
drops (`Found.unassign_withAddress`). `assign_adds_one_key` puts these together.

The fragments are those that come from the inventory, dynamic JSON
(`fragmentOf`): every object in them is a dictionary, and on dictionaries
setting a member to the value it has changes nothing (`put_lookup?_self`).
-/

namespace NetFleet

/-! ### Dictionaries -/

namespace Json

variable {ms : List (String × Json)} {k : String} {v : Json}

/-- Setting a member to the value it has changes nothing. -/
theorem put_lookup?_self (hs : SortedNames ms) (h : lookup? ms k = some v) : put k v ms = ms :=
  SortedNames.ext hs.put hs fun j => by
    rw [lookup?_put hs]
    split_ifs with hj
    · rw [← hj, h]
    · rfl

/-- Dropping the members of a name forgets that it was set. -/
theorem filter_put (k : String) (v : Json) (ms : List (String × Json)) :
    (put k v ms).filter (·.1 ≠ k) = ms.filter (·.1 ≠ k) := by
  induction ms with
  | nil => simp [put]
  | cons p ms ih =>
    obtain ⟨k₀, v₀⟩ := p
    by_cases h₁ : k₀ = k
    · subst h₁
      simp [put]
    by_cases h₂ : k < k₀
    · simp [put, h₁, h₂]
    · simp only [put, h₁, h₂, if_false, List.filter_cons, ih]

/-- Dropping the members of a name that is not there changes nothing. -/
theorem filter_eq_self_of_lookup? (h : lookup? ms k = none) : ms.filter (·.1 ≠ k) = ms :=
  List.filter_eq_self.2 fun kv hkv => by simpa using lookup?_eq_none.1 h kv hkv

end Json

namespace Inventory

open Json (SortedNames Ordered lookup? put)

/-! ### Where an interface is found -/

variable {fragment : List (String × Json)} {device iface : String} {found : Found}

/-- Locating an interface finds its entry among the interfaces under the device. -/
theorem Found.locate_eq_some_iff :
    Found.locate fragment device iface = some found ↔
      found.fragment = fragment ∧ lookup? fragment device = some (.obj found.interfaces) ∧
        lookup? found.interfaces iface = some (.obj found.entry) := by
  obtain ⟨fr, is, e⟩ := found
  constructor
  · intro h
    simp only [Found.locate] at h
    cases hd : lookup? fragment device with
    | none => simp [hd] at h
    | some j =>
      rw [hd] at h
      cases j
      case obj is' =>
        simp only at h
        split at h
        · next e' hi =>
          cases h
          exact ⟨rfl, rfl, hi⟩
        · cases h
      -- a device without an object of interfaces has none
      all_goals simp at h
  · rintro ⟨rfl, hd, hi⟩
    simp [Found.locate, hd, hi]

/-- The parts of a located interface that are dictionaries. -/
structure Found.Sorted (found : Found) : Prop where
  fragment : SortedNames found.fragment
  interfaces : SortedNames found.interfaces
  entry : SortedNames found.entry
  addresses : SortedNames found.addresses

/-- The address object of an entry, when there is one, is that of `Found.addresses`. -/
theorem Found.lookup?_address (h : found.addresses ≠ []) :
    lookup? found.entry "address" = some (.obj found.addresses) := by
  unfold Found.addresses at h ⊢
  cases ha : lookup? found.entry "address" with
  | none => simp [ha] at h
  | some j =>
    cases j
    case obj a => rfl
    all_goals simp [ha] at h

/-- An interface located in dynamic JSON is made of dictionaries. -/
theorem Found.sorted_of_locate (hF : Ordered (.obj fragment))
    (h : Found.locate fragment device iface = some found) : found.Sorted := by
  obtain ⟨rfl, hd, hi⟩ := Found.locate_eq_some_iff.1 h
  have hI : Ordered (.obj found.interfaces) := hF.of_mem (Json.mem_of_lookup? hd)
  have hE : Ordered (.obj found.entry) := hI.of_mem (Json.mem_of_lookup? hi)
  refine ⟨hF.sortedNames, hI.sortedNames, hE.sortedNames, ?_⟩
  unfold Found.addresses
  split
  · next a ha => exact (hE.of_mem (Json.mem_of_lookup? ha)).sortedNames
  · exact Json.sortedNames_nil

/-- A fragment read from the inventory is dynamic JSON. -/
theorem fragmentOf_ordered {out : Option Json} {data : Option (List (String × Json))}
    (h : fragmentOf out = .ok data) : Ordered (.obj (data.getD [])) := by
  unfold fragmentOf at h
  split at h
  · cases h
  · cases h
    exact Json.ordered_nil
  · split at h
    · next d hd =>
      cases h
      exact Json.Ordered.of_dynamic? hd
    · cases h
      exact Json.ordered_nil
    · cases h
  · cases h

/-! ### The fragment with an entry replaced -/

/-- The interface as located in the fragment with its entry replaced. -/
def Found.edited (found : Found) (device iface : String) (entry : List (String × Json)) : Found :=
  ⟨found.withEntry device iface entry, put iface (.obj entry) found.interfaces, entry⟩

@[simp] theorem Found.edited_entry (entry : List (String × Json)) :
    (found.edited device iface entry).entry = entry := rfl

/-- Replacing an entry leaves every other device as it was. -/
theorem Found.withEntry_lookup?_of_ne (hs : found.Sorted) (entry : List (String × Json)) {d : String}
    (hd : d ≠ device) : lookup? (found.withEntry device iface entry) d = lookup? found.fragment d := by
  rw [Found.withEntry, Json.lookup?_put hs.fragment, if_neg (Ne.symm hd)]

/-- The replaced entry is where the interface is located. -/
theorem Found.locate_withEntry (hs : found.Sorted) (entry : List (String × Json)) :
    Found.locate (found.withEntry device iface entry) device iface =
      some (found.edited device iface entry) := by
  refine Found.locate_eq_some_iff.2 ⟨rfl, ?_, ?_⟩
  · rw [Found.withEntry, Json.lookup?_put hs.fragment, if_pos rfl]
    rfl
  · simp only [Found.edited]
    rw [Json.lookup?_put hs.interfaces, if_pos rfl]

/-- Replacing an entry a second time replaces the first replacement. -/
theorem Found.edited_withEntry (entry entry' : List (String × Json)) :
    (found.edited device iface entry).withEntry device iface entry' =
      found.withEntry device iface entry' := by
  simp only [Found.edited, Found.withEntry, Json.put_put]

/-- Putting back the entry that was located gives the fragment it was located in. -/
theorem Found.withEntry_entry (hs : found.Sorted)
    (h : Found.locate fragment device iface = some found) :
    found.withEntry device iface found.entry = fragment := by
  obtain ⟨rfl, hd, hi⟩ := Found.locate_eq_some_iff.1 h
  rw [Found.withEntry, Json.put_lookup?_self hs.interfaces hi, Json.put_lookup?_self hs.fragment hd]

/-! ### Assigning an address -/

variable {address ptr : String} {roles : List String} {p : Net.Prefix}

/-- The entry with `key` added to its address object. -/
def Found.withAddress (found : Found) (key : String) (value : Json) : List (String × Json) :=
  put "address" (.obj (put key value found.addresses)) found.entry

/-- An address reads; it is refused exactly when its canonical text is a key already. -/
theorem Found.assign_refused_iff (hp : Net.Prefix.parse address = .ok p) :
    found.assign device iface address ptr roles =
        .error (errorOf ("This IP address is already assigned to " ++ iface)) ↔
      (lookup? found.addresses p.render).isSome := by
  unfold Found.assign
  rw [hp]
  dsimp only
  split_ifs with h
  · simp [h]
  · simp [h]

/-- A new address is added under its canonical text to the address object. -/
theorem Found.assign_of_new (hp : Net.Prefix.parse address = .ok p)
    (hnew : lookup? found.addresses p.render = none) :
    found.assign device iface address ptr roles =
      .ok (p.render, found.withEntry device iface (found.withAddress p.render (addressMeta ptr roles))) := by
  unfold Found.assign
  rw [hp]
  simp [hnew, Found.withAddress]

/-- The address object of the entry with an address added. -/
theorem Found.addresses_edited (hs : found.Sorted) (key : String) (value : Json) :
    (found.edited device iface (found.withAddress key value)).addresses =
      put key value found.addresses := by
  simp only [Found.addresses, Found.edited, Found.withAddress]
  rw [Json.lookup?_put hs.entry, if_pos rfl]

/-- The entry's address object, when it has one, is its addresses. -/
theorem Found.addresses_of_lookup? {a : List (String × Json)}
    (h : lookup? found.entry "address" = some (.obj a)) : found.addresses = a := by
  unfold Found.addresses
  rw [h]

/-- The meta data of an address is `null` exactly when it has neither PTR name nor roles. -/
theorem addressMeta_eq_null_iff : addressMeta ptr roles = .null ↔ ptr = "" ∧ roles = [] := by
  unfold addressMeta
  by_cases hp : ptr = "" <;> cases roles <;> simp [hp]

/-! ### Removing it again -/

/-- Removing an address that was just added gives the entry back, unless the entry
held an empty `address` object, or no object there. -/
theorem Found.unassign_withAddress (hs : found.Sorted) (hp : Net.Prefix.parse address = .ok p)
    (hnew : lookup? found.addresses p.render = none) (value : Json)
    (hkeep : lookup? found.entry "address" = none ∨ found.addresses ≠ []) :
    (found.edited device iface (found.withAddress p.render value)).unassign device iface address =
      .ok (p.render, found.withEntry device iface found.entry) := by
  have haddr : lookup? (found.withAddress p.render value) "address" =
      some (.obj (put p.render value found.addresses)) := by
    rw [Found.withAddress, Json.lookup?_put hs.entry, if_pos rfl]
  have hkey : lookup? (put p.render value found.addresses) p.render = some value := by
    rw [Json.lookup?_put hs.addresses, if_pos rfl]
  -- the added key is the only member removal drops
  have hrest : (put p.render value found.addresses).filter (·.1 ≠ p.render) = found.addresses := by
    rw [Json.filter_put, Json.filter_eq_self_of_lookup? hnew]
  unfold Found.unassign
  simp only [hp, Found.edited_entry, haddr, hkey, Option.isNone_some, Bool.false_eq_true, if_false,
    hrest]
  split_ifs with hnil
  · -- no address is left: the member goes, and the entry had none
    have hnone : lookup? found.entry "address" = none :=
      hkeep.resolve_right (by simpa using hnil)
    rw [Found.withAddress, Json.filter_put, Json.filter_eq_self_of_lookup? hnone, Found.edited_withEntry]
  · -- the address object goes back to the one the entry held
    have hobj := Found.lookup?_address (by simpa using hnil)
    rw [Found.withAddress, Json.put_put, Json.put_lookup?_self hs.entry hobj, Found.edited_withEntry]


/-! ### The edit as a whole -/

/-- **Assigning an address adds one key; removing it restores the fragment.** Take a
fragment read from the inventory, an interface located in it, and an address that
reads as prefix `p`. The address is refused exactly when the canonical text of
`p` is a key of the interface's address object, as stored. Otherwise it is
assigned under that text, and the edited fragment locates the interface again,
with the address object holding that one key more, valued by the meta data
(`null` for neither PTR name nor roles), and every other device, interface and
member as before. Removing the address from the
edited fragment gives the fragment read back, when the entry had no `address`
member or a non-empty object there. -/
theorem assign_adds_one_key (out : Option Json) (data : Option (List (String × Json)))
    (hout : fragmentOf out = .ok data) (device iface address ptr : String) (roles : List String)
    (found : Found) (hfound : Found.locate (data.getD []) device iface = some found)
    (p : Net.Prefix) (hp : Net.Prefix.parse address = .ok p) :
    (found.assign device iface address ptr roles =
        .error (errorOf ("This IP address is already assigned to " ++ iface)) ↔
      (lookup? found.addresses p.render).isSome) ∧
    (addressMeta ptr roles = .null ↔ ptr = "" ∧ roles = []) ∧
    (lookup? found.addresses p.render = none →
      ∃ edited found', found.assign device iface address ptr roles = .ok (p.render, edited) ∧
        (∀ d, d ≠ device → lookup? edited d = lookup? (data.getD []) d) ∧
        Found.locate edited device iface = some found' ∧
        (∀ i, i ≠ iface → lookup? found'.interfaces i = lookup? found.interfaces i) ∧
        (∀ n, n ≠ "address" → lookup? found'.entry n = lookup? found.entry n) ∧
        lookup? found'.entry "address" = some (.obj found'.addresses) ∧
        (∀ k, lookup? found'.addresses k =
          if k = p.render then some (addressMeta ptr roles) else lookup? found.addresses k) ∧
        ((lookup? found.entry "address" = none ∨
            ∃ a, a ≠ [] ∧ lookup? found.entry "address" = some (.obj a)) →
          found'.unassign device iface address = .ok (p.render, data.getD []))) := by
  have hs := Found.sorted_of_locate (fragmentOf_ordered hout) hfound
  refine ⟨Found.assign_refused_iff hp, addressMeta_eq_null_iff, fun hnew => ?_⟩
  -- a new address is assigned, and the interface is located again in the edited fragment
  refine ⟨_, _, Found.assign_of_new hp hnew, fun d hd => ?_, Found.locate_withEntry hs _,
    fun i hi => ?_, fun n hn => ?_, ?_, fun k => ?_, fun hkeep => ?_⟩
  · rw [Found.withEntry_lookup?_of_ne hs _ hd, (Found.locate_eq_some_iff.1 hfound).1]
  · simp only [Found.edited]
    rw [Json.lookup?_put hs.interfaces, if_neg (Ne.symm hi)]
  · rw [Found.edited_entry, Found.withAddress, Json.lookup?_put hs.entry, if_neg (Ne.symm hn)]
  · rw [Found.addresses_edited hs, Found.edited_entry, Found.withAddress, Json.lookup?_put hs.entry,
      if_pos rfl]
  · rw [Found.addresses_edited hs, Json.lookup?_put hs.addresses]
    by_cases hk : k = p.render
    · simp [hk]
    · simp [hk, Ne.symm hk]
  · -- the entry kept its address member, or had a non-empty object there
    have hkeep' : lookup? found.entry "address" = none ∨ found.addresses ≠ [] := by
      rcases hkeep with h | ⟨a, ha, hobj⟩
      · exact .inl h
      · exact .inr (by rwa [Found.addresses_of_lookup? hobj])
    rw [Found.unassign_withAddress hs hp hnew _ hkeep', Found.withEntry_entry hs hfound]

/-- The fragment of one interface without addresses, as the inventory answers it. -/
def oneInterface : List (String × Json) :=
  [("SIN1", .obj [("eth0", .obj [("type", .str "ethernet")])])]

/-- Assigning `10.0.0.1/24` to an interface without addresses, then removing it. -/
theorem assign_adds_one_key_at_eth0 :
    ∃ found edited found', Found.locate oneInterface "SIN1" "eth0" = some found ∧
      found.assign "SIN1" "eth0" "10.0.0.1/24" "" [] = .ok ("10.0.0.1/24", edited) ∧
      Found.locate edited "SIN1" "eth0" = some found' ∧
      found'.unassign "SIN1" "eth0" "10.0.0.1/24" = .ok ("10.0.0.1/24", oneInterface) := by
  have hout : fragmentOf (some (.obj oneInterface)) = .ok (some oneInterface) := by rfl
  have hloc : Found.locate oneInterface "SIN1" "eth0" =
      some ⟨oneInterface, [("eth0", .obj [("type", .str "ethernet")])], [("type", .str "ethernet")]⟩ := by
    rfl
  have hp : Net.Prefix.parse "10.0.0.1/24" = .ok ⟨.v4 0x0A000001#32, 24⟩ := by rfl
  obtain ⟨-, -, hadd⟩ := assign_adds_one_key _ _ hout "SIN1" "eth0" "10.0.0.1/24" "" [] _ hloc _ hp
  obtain ⟨edited, found', he, -, hloc', -, -, -, -, hback⟩ := hadd rfl
  have hr : Net.Prefix.render ⟨.v4 0x0A000001#32, 24⟩ = "10.0.0.1/24" := by rfl
  rw [hr] at he hback
  exact ⟨_, edited, found', hloc, he, hloc', hback (.inl rfl)⟩

/-- An outcome whose value, as an option, is `some a` is `ok a`. -/
theorem eq_ok_of_toOption {ε α : Type} {e : Except ε α} {a : α} (h : e.toOption = some a) :
    e = .ok a := by
  cases e <;> simp_all [Except.toOption]

/-- A key stored in another spelling of the same prefix does not refuse an address:
`2001:db8::1/64` is added beside `2001:DB8::1/64`. -/
theorem assign_keeps_other_spelling :
    ∃ p, Net.Prefix.parse "2001:DB8::1/64" = .ok p ∧ Net.Prefix.parse "2001:db8::1/64" = .ok p ∧
      (Found.mk [] [] [("address", .obj [("2001:DB8::1/64", .null)])]).assign "SIN1" "eth0"
          "2001:db8::1/64" "" [] =
        .ok ("2001:db8::1/64", [("SIN1", .obj [("eth0", .obj [("address",
          .obj [("2001:DB8::1/64", .null), ("2001:db8::1/64", .null)])])])]) := by
  -- both spellings read as one prefix, whose canonical text is the lower-case one
  have hupper : (Net.Prefix.parse "2001:DB8::1/64").toOption =
      some ⟨.v6 0x20010db8000000000000000000000001#128 "", 64⟩ := by decide +kernel
  have hlower : (Net.Prefix.parse "2001:db8::1/64").toOption =
      some ⟨.v6 0x20010db8000000000000000000000001#128 "", 64⟩ := by decide +kernel
  have hr : Net.Prefix.render ⟨.v6 0x20010db8000000000000000000000001#128 "", 64⟩ = "2001:db8::1/64" := by
    decide +kernel
  have hnew : lookup? (Found.mk [] [] [("address", .obj [("2001:DB8::1/64", .null)])]).addresses
      (Net.Prefix.render ⟨.v6 0x20010db8000000000000000000000001#128 "", 64⟩) = none := by
    rw [hr]
    rfl
  refine ⟨_, eq_ok_of_toOption hupper, eq_ok_of_toOption hlower, ?_⟩
  rw [Found.assign_of_new (eq_ok_of_toOption hlower) hnew, hr]
  rfl

end Inventory

end NetFleet
