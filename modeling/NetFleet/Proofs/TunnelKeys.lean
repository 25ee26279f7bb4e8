import Mathlib
import NetFleet.Proofs.AddrText
import NetFleet.Proofs.ColumnReads
import NetFleet.Proofs.MemberNames
import NetFleet.Control.Tunnel

/-!
# Tunnel keys as numbers

The router takes the key of a tunnel as a number, not as the dotted quad the
inventory holds: `0.0.1.5` is `261`. Generating the tunnels writes each key in
its canonical text and reads that text back as an IPv4 address
(`Net.ipv4Number`); a key that did not read so would stop the whole generation
with a refusal.

On a column that passed its rules that refusal cannot happen. The canonical text
of every IPv4 address reads back as the number of its four octets, most
significant first (`ipv4Number_render`, `Addr.toNat_octets`), and the rules of an
interface admit only IPv4 keys (`Document.key_is4`). So every tunnel of a valid
interface column is generated, each key as its number (`tunnel_keys_convert`).
-/

namespace NetFleet

/-! ### The number of an IPv4 address -/

namespace Net

/-- An IPv4 address is the number of its four octets, most significant first. -/
theorem Addr.toNat_octets (b : BitVec 32) :
    ∃ o₁ o₂ o₃ o₄, Addr.octets b.toNat = [o₁, o₂, o₃, o₄] ∧
      b.toNat = 2 ^ 24 * o₁ + 2 ^ 16 * o₂ + 2 ^ 8 * o₃ + o₄ := by
  refine ⟨_, _, _, _, rfl, ?_⟩
  have hb : b.toNat < 2 ^ 32 := b.isLt
  simp only [Nat.pow_eq]
  omega

/-- The canonical text of an IPv4 address reads back as its number. -/
theorem ipv4Number_render (b : BitVec 32) : ipv4Number (Addr.v4 b).render = .ok b.toNat := by
  simp [ipv4Number, Addr.parse_render_v4]

end Net

/-! ### Keys in a valid interface column -/

namespace Column

open Schema

/-- A dictionary draws no message when none of its entries does. -/
theorem eachEntry_eq_nil {n : Node} {f : String → Node → List String} :
    eachEntry n f = [] ↔ ∀ k v, (k, v) ∈ textEntries n → f k v = [] := by
  simp only [eachEntry, List.flatten_eq_nil_iff, List.mem_map, Prod.exists]
  constructor
  · intro h k v hm
    exact h _ ⟨k, v, hm, rfl⟩
  · rintro h l ⟨k, v, hm, rfl⟩
    exact h k v hm

/-- The key of an interface that draws no message is unset or an IPv4 address. -/
theorem key_is4_of_rules {path : String} {i : Node} (h : ifaceRules keyOrder path i = [])
    {a : Net.Addr} (ha : (i.member "key").addr? = some a) : a.is4 = true := by
  -- the check of the key is one part of the interface's rules
  have hkey : checkIPv4 (dot path "key") (i.member "key").addr? false = [] := by
    refine List.eq_nil_iff_forall_not_mem.2 fun m hm => ?_
    have hin : m ∈ ifaceRules keyOrder path i := by simp [ifaceRules, hm]
    rw [h] at hin
    cases hin
  rw [ha] at hkey
  simp only [checkIPv4] at hkey
  split at hkey
  · assumption
  · cases hkey

namespace Document

/-- A document that reads is of the kind it was read as, and its rules draw no
message. -/
theorem decode_rules {k : Kind} {text : String} {d : Document} (h : decode k text = .ok d) :
    d.kind = k ∧ documentRules keyOrder k d.node = [] := by
  simp only [decode, decodeIn, bind, Except.bind] at h
  split at h
  · cases h
  · unfold checkRules at h
    split at h
    · next hr =>
      cases h
      exact ⟨rfl, hr⟩
    · cases h

/-- A set that a document holds is one of its entries under `column`. -/
theorem mem_of_set? {d : Document} {id : String} {s : Node} (h : d.set? id = some s) :
    (id, s) ∈ textEntries (d.node.member "column") := by
  simp only [set?, Option.map_eq_some_iff] at h
  obtain ⟨⟨id', s'⟩, hf, rfl⟩ := h
  have hid : id' = id := by simpa using List.find?_some hf
  subst hid
  exact List.mem_of_find?_eq_some hf

/-- In an interface document that reads, the key of every interface of every set
is unset or an IPv4 address. -/
theorem key_is4 {text : String} {d : Document} (hd : decode .iface text = .ok d) (router : String)
    {name : String} {i : Node} (hi : (name, i) ∈ textEntries ((d.set? router).getD Kind.iface.setShape.zero))
    {a : Net.Addr} (ha : (i.member "key").addr? = some a) : a.is4 = true := by
  obtain ⟨-, hr⟩ := decode_rules hd
  cases hs : d.set? router with
  | none =>
    -- a set the document lacks has no interfaces
    simp [hs, Kind.setShape, Shape.zero, textEntries, Node.entries, Node.deref] at hi
  | some s =>
    rw [hs, Option.getD_some] at hi
    have hsets := (List.append_eq_nil_iff.1 hr).2
    have hset := eachEntry_eq_nil.1 hsets _ _ (mem_of_set? hs)
    simp only [setRules] at hset
    exact key_is4_of_rules (eachEntry_eq_nil.1 hset _ _ hi) ha

end Document

end Column

/-! ### Generating the tunnels -/

namespace Control

open Schema

/-- A tunnel whose key is unset or IPv4 is generated; with a key, it carries the
key's number as `key_vyos`. -/
theorem tunnelEntry_of_is4 (names : List String) (name : String) (i : Node)
    (hk : ∀ a, (i.member "key").addr? = some a → a.is4 = true) :
    ∃ j, tunnelEntry names name i = .ok j ∧
      ∀ b, (i.member "key").addr? = some (.v4 b) → j.get? "key_vyos" = some (Json.ofNat b.toNat) := by
  unfold tunnelEntry
  cases ha : (i.member "key").addr? with
  | none => exact ⟨_, rfl, by simp⟩
  | some a =>
    obtain ⟨b, rfl⟩ : ∃ b, a = .v4 b := by
      cases a with
      | v4 b => exact ⟨b, rfl⟩
      | v6 b z =>
        have h6 := hk _ ha
        simp [Net.Addr.is4] at h6
    -- the key reads back as its number, which is written last
    dsimp only
    rw [Net.ipv4Number_render]
    refine ⟨_, rfl, fun b' hb' => ?_⟩
    cases hb'
    simp [Json.get?, Json.lookup?, List.foldl_append]

/-- Tunnels whose keys are unset or IPv4 are all generated, each key as its number. -/
theorem tunnelEntries_of_is4 (names : List String) (ts : List (String × Node))
    (hk : ∀ name i, (name, i) ∈ ts → ∀ a, (i.member "key").addr? = some a → a.is4 = true) :
    ∃ entries, tunnelEntries names ts = .ok entries ∧
      ∀ name i b, (name, i) ∈ ts → (i.member "key").addr? = some (.v4 b) →
        ∃ j, (name, j) ∈ entries ∧ j.get? "key_vyos" = some (Json.ofNat b.toNat) := by
  induction ts with
  | nil => exact ⟨[], rfl, by simp⟩
  | cons t ts ih =>
    obtain ⟨name, i⟩ := t
    obtain ⟨j, hj, hkey⟩ := tunnelEntry_of_is4 names name i (hk name i List.mem_cons_self)
    obtain ⟨entries, he, hkeys⟩ := ih fun n i' h => hk n i' (List.mem_cons_of_mem _ h)
    refine ⟨(name, j) :: entries, ?_, fun n i' b hmem ha => ?_⟩
    · simp only [tunnelEntries, List.mapM_cons] at he ⊢
      rw [hj, he]
      rfl
    · rcases List.mem_cons.1 hmem with h | h
      · cases h
        exact ⟨j, List.mem_cons_self, hkey b ha⟩
      · obtain ⟨j', hj', hkey'⟩ := hkeys n i' b h ha
        exact ⟨j', List.mem_cons_of_mem _ hj', hkey'⟩

/-- **Tunnel keys convert exactly.** The canonical text of every IPv4 address reads
back as the number of its octets, `2^24·o₁ + 2^16·o₂ + 2^8·o₃ + o₄`. So for every
interface document that reads, every set and every list of disabled tunnels,
generating the set's tunnels never refuses a key, and each tunnel whose key is
set reports that key's number as `key_vyos`. -/
theorem tunnel_keys_convert :
    (∀ b : BitVec 32, ∃ o₁ o₂ o₃ o₄, Net.Addr.octets b.toNat = [o₁, o₂, o₃, o₄] ∧
      Net.ipv4Number (Net.Addr.v4 b).render = .ok (2 ^ 24 * o₁ + 2 ^ 16 * o₂ + 2 ^ 8 * o₃ + o₄)) ∧
    ∀ (text router : String) (d : Column.Document) (names : List String),
      Column.Document.decode .iface text = .ok d →
      let ts := (Column.textEntries ((d.set? router).getD Column.Kind.iface.setShape.zero)).filter
        (isTunnelName ·.1)
      ∃ entries, tunnelEntries names ts = .ok entries ∧
        ∀ name i b, (name, i) ∈ ts → (i.member "key").addr? = some (.v4 b) →
          ∃ j, (name, j) ∈ entries ∧ j.get? "key_vyos" = some (Json.ofNat b.toNat) := by
  refine ⟨fun b => ?_, fun text router d names hd => ?_⟩
  · obtain ⟨o₁, o₂, o₃, o₄, ho, hn⟩ := Net.Addr.toNat_octets b
    exact ⟨o₁, o₂, o₃, o₄, ho, hn ▸ Net.ipv4Number_render b⟩
  · -- the tunnels are interfaces of a set of the document, whose keys are IPv4
    refine tunnelEntries_of_is4 names _ fun name i hi a ha => ?_
    exact Column.Document.key_is4 hd router (List.mem_filter.1 hi).1 ha

/-- A tunnel `tun0` keyed `0.0.1.5` in a valid column: the generation goes through. -/
theorem tunnel_keys_convert_at_tun0 :
    ∃ d, Column.Document.decode .iface
        "\x7b\"column\":\x7b\"SIN1\":\x7b\"tun0\":\x7b\"type\":\"gre\",\"key\":\"0.0.1.5\"\x7d\x7d\x7d\x7d" =
        .ok d ∧
      ∃ entries, tunnelEntries [] ((Column.textEntries ((d.set? "SIN1").getD
          Column.Kind.iface.setShape.zero)).filter (isTunnelName ·.1)) = .ok entries ∧
        ∀ name i b, (name, i) ∈ (Column.textEntries ((d.set? "SIN1").getD
            Column.Kind.iface.setShape.zero)).filter (isTunnelName ·.1) →
          (i.member "key").addr? = some (.v4 b) →
          ∃ j, (name, j) ∈ entries ∧ j.get? "key_vyos" = some (Json.ofNat b.toNat) := by
  have hok : (Column.Document.decode .iface
      "\x7b\"column\":\x7b\"SIN1\":\x7b\"tun0\":\x7b\"type\":\"gre\",\"key\":\"0.0.1.5\"\x7d\x7d\x7d\x7d").toBool =
      true := by decide +kernel
  obtain ⟨d, hd⟩ := Netdb.exists_ok_of_toBool hok
  exact ⟨d, hd, tunnel_keys_convert.2 _ "SIN1" d [] hd⟩

end Control

end NetFleet
