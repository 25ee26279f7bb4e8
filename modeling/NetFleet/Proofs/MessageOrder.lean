import Mathlib
import NetFleet.Proofs.ConstraintChecks

/-!
# The order of validation messages

The rules of a column report every violated constraint instance
(`Proofs/ConstraintChecks`), in an order fixed by the document: members as
listed, dictionary entries by key, list items by position. One dictionary is
the exception: the addresses of an interface are visited in an order that the
rules leave open (`Visit`), and the document is decoded with them in key order
(`Document.decode`, that is `Document.decodeIn keyOrder`).

Every order of visit checks the same instances (`documentChecks_perm`), so it
gives the same answer up to the order of a validation fault's messages
(`Document.Agree`), and exactly the same answer when at most one address of each
interface draws a message (`SingleFlagged`). With two addresses that draw
messages the order of the messages is the order of visit
(`Document.address_messages_follow_visit`).
-/

namespace NetFleet.Column

open Schema

/-- A visit that only reorders: it visits every entry it is given, each once. -/
def Visit.Reorders (visit : Visit) : Prop :=
  ∀ path es, (visit path es).Perm es

/-- Whether an address of an interface draws a message: its key is no prefix,
or it is given a value without `meta`. -/
def addressFlagged (k : Key) (a : Node) : Bool :=
  (match k with
    | .cidr (some _) => false
    | _ => true) ||
  (match a with
    | .some rec => (rec.member "meta").isNil
    | _ => false)

/-- An address that is not flagged draws no message. -/
theorem addressRules_of_not_flagged {address : String} {k : Key} {a : Node}
    (h : addressFlagged k a = false) : addressRules address k a = [] := by
  simp only [addressFlagged, Bool.or_eq_false_iff] at h
  obtain ⟨hk, ha⟩ := h
  unfold addressRules
  split at hk <;> split at ha <;> simp_all

section Lists

variable {α β : Type} {l l' : List α} {f : α → List β} {p : α → Bool}

/-- Items the test rejects contribute nothing, so only the others count. -/
theorem flatMap_filter_of_nil (l : List α) (hf : ∀ x, p x = false → f x = []) :
    (l.filter p).flatMap f = l.flatMap f := by
  induction l with
  | nil => rfl
  | cons x xs ih =>
    cases hx : p x with
    | false => simp [hx, hf x hx, ih]
    | true => simp [hx, ih]

/-- Reordering a list changes nothing of what it maps to, when at most one of its
items maps to anything. -/
theorem flatMap_perm_eq (h : l'.Perm l) (hs : (l.filter p).length ≤ 1)
    (hf : ∀ x, p x = false → f x = []) : l'.flatMap f = l.flatMap f := by
  rw [← flatMap_filter_of_nil l' hf, ← flatMap_filter_of_nil l hf]
  have hp : (l'.filter p).Perm (l.filter p) := h.filter p
  match hl : l.filter p, hs with
  | [], _ =>
    rw [hl] at hp
    rw [hp.eq_nil]
  | [x], _ =>
    rw [hl] at hp
    rw [List.perm_singleton.1 hp]
  | _ :: _ :: _, hs => simp at hs

end Lists

section Visits

variable {visit : Visit}

/-- The items drawn for every entry of a dictionary, as a `flatMap`. -/
theorem eachEntry_eq_flatMap {α : Type} (n : Node) (f : String → Node → List α) :
    eachEntry n f = (textEntries n).flatMap fun e => f e.1 e.2 := by
  rw [eachEntry, List.flatMap_def]

/-- Items drawn entry by entry are reordered when each entry's are. -/
theorem eachEntry_perm {α : Type} {n : Node} {f g : String → Node → List α}
    (h : ∀ e ∈ textEntries n, (f e.1 e.2).Perm (g e.1 e.2)) :
    (eachEntry n f).Perm (eachEntry n g) := by
  rw [eachEntry_eq_flatMap, eachEntry_eq_flatMap]
  exact List.Perm.flatMap_left _ h

/-- Items drawn entry by entry are the same when each entry's are. -/
theorem eachEntry_congr {α : Type} {n : Node} {f g : String → Node → List α}
    (h : ∀ e ∈ textEntries n, f e.1 e.2 = g e.1 e.2) : eachEntry n f = eachEntry n g := by
  rw [eachEntry_eq_flatMap, eachEntry_eq_flatMap]
  exact List.flatMap_congr h

/-- An interface's instances are reordered by a visit that reorders, since only
its addresses are visited. -/
theorem ifaceChecks_perm (hv : visit.Reorders) (path : String) (i : Node) :
    (ifaceChecks visit path i).Perm (ifaceChecks keyOrder path i) := by
  unfold ifaceChecks
  dsimp only
  -- the fields before the addresses and the vlan and lacp records after them
  -- are read alike; the addresses are visited in another order
  apply List.Perm.append_right
  apply List.Perm.append_right
  apply List.Perm.append_right
  apply List.Perm.append_left
  exact ((hv path _).map _).flatten

/-- A set's instances are reordered by a visit that reorders. -/
theorem setChecks_perm (hv : visit.Reorders) (k : Kind) (path : String) (n : Node) :
    (setChecks visit k path n).Perm (setChecks keyOrder k path n) := by
  cases k with
  | iface =>
    unfold setChecks
    exact eachEntry_perm fun e _ => ifaceChecks_perm hv _ _
  | _ => rfl

/-- A document's instances are reordered by a visit that reorders: every order of
visit checks the same instances. -/
theorem documentChecks_perm (hv : visit.Reorders) (k : Kind) (doc : Node) :
    (documentChecks visit k doc).Perm (documentChecks keyOrder k doc) := by
  unfold documentChecks
  exact List.Perm.cons _ (eachEntry_perm fun e _ => setChecks_perm hv k _ _)

/-- A document's messages are reordered by a visit that reorders. -/
theorem documentRules_perm (hv : visit.Reorders) (k : Kind) (doc : Node) :
    (documentRules visit k doc).Perm (documentRules keyOrder k doc) := by
  rw [documentRules_eq, documentRules_eq]
  exact (documentChecks_perm hv k doc).filterMap _

/-- The addresses of an interface that draw a message. -/
def flaggedAddresses (i : Node) : List (Key × Node) :=
  (i.member "address").entries.filter fun e => addressFlagged e.1 e.2

/-- An interface with at most one address that draws a message has the same
messages in every order of visit. -/
theorem ifaceRules_eq_keyOrder (hv : visit.Reorders) (path : String) (i : Node)
    (hs : (flaggedAddresses i).length ≤ 1) :
    ifaceRules visit path i = ifaceRules keyOrder path i := by
  unfold ifaceRules
  dsimp only
  rw [← List.flatMap_def, ← List.flatMap_def,
    flatMap_perm_eq (hv path _) hs (fun ⟨_, _⟩ he => addressRules_of_not_flagged he)]
  rfl

/-- At most one address of each interface of a document draws a message. -/
def SingleFlagged (doc : Node) : Prop :=
  ∀ set ∈ textEntries (doc.member "column"), ∀ iface ∈ textEntries set.2,
    (flaggedAddresses iface.2).length ≤ 1

/-- A document with at most one flagged address per interface has the same
messages in every order of visit. -/
theorem documentRules_eq_keyOrder (hv : visit.Reorders) (k : Kind) {doc : Node}
    (hs : SingleFlagged doc) : documentRules visit k doc = documentRules keyOrder k doc := by
  -- only the sets' rules see the order of visit
  have hsets :
      (eachEntry (doc.member "column") fun id s => setRules visit k (entry "column" id) s) =
        eachEntry (doc.member "column") fun id s => setRules keyOrder k (entry "column" id) s := by
    apply eachEntry_congr
    intro set hset
    cases k with
    | iface =>
      unfold setRules
      exact eachEntry_congr fun iface hi => ifaceRules_eq_keyOrder hv _ _ (hs set hset iface hi)
    | _ => rfl
  unfold documentRules
  dsimp only
  rw [hsets]

end Visits

namespace Document

variable {visit : Visit}

/-- Two answers that agree but for the order of a validation fault's messages. -/
inductive Agree : Except Fault Document → Except Fault Document → Prop
  | same (x : Except Fault Document) : Agree x x
  | reordered {ms ms' : List String} :
      ms.Perm ms' → Agree (.error (.validation ms)) (.error (.validation ms'))

/-- Checking the rules in another order of visit agrees with key order. -/
theorem checkRules_agree (hv : visit.Reorders) (k : Kind) (node : Node) :
    Agree (checkRules visit k node) (checkRules keyOrder k node) := by
  have hp := documentRules_perm hv k node
  unfold checkRules
  cases hk : documentRules keyOrder k node with
  | nil =>
    rw [hk] at hp
    rw [hp.eq_nil]
    exact .same _
  | cons m ms =>
    cases hvk : documentRules visit k node with
    | nil =>
      rw [hvk, hk] at hp
      exact absurd hp.symm.eq_nil (by simp)
    | cons m' ms' =>
      rw [hvk, hk] at hp
      exact .reordered hp

/-- A prepared document is decided by its rules. -/
theorem decodeIn_of_prepare {k : Kind} {text : String} {node : Node}
    (hp : prepare k text = .ok node) : decodeIn visit k text = checkRules visit k node := by
  simp only [decodeIn, hp, bind, Except.bind]

/-- A document that cannot be prepared fails before its rules. -/
theorem decodeIn_of_prepare_error {k : Kind} {text : String} {f : Fault}
    (hp : prepare k text = .error f) : decodeIn visit k text = .error f := by
  simp only [decodeIn, hp, bind, Except.bind]

/-- Decoding with another order of visit agrees with key order. -/
theorem decodeIn_agree (hv : visit.Reorders) (k : Kind) (text : String) :
    Agree (decodeIn visit k text) (decode k text) := by
  unfold decode
  cases hp : prepare k text with
  | error f =>
    rw [decodeIn_of_prepare_error hp, decodeIn_of_prepare_error hp]
    exact .same _
  | ok node =>
    rw [decodeIn_of_prepare hp, decodeIn_of_prepare hp]
    exact checkRules_agree hv k node

/-- A document with at most one flagged address per interface decodes alike in
every order of visit. -/
theorem decodeIn_eq {k : Kind} {text : String} {node : Node} (hv : visit.Reorders)
    (hp : prepare k text = .ok node) (hs : SingleFlagged node) :
    decodeIn visit k text = decode k text := by
  unfold decode
  rw [decodeIn_of_prepare hp, decodeIn_of_prepare hp]
  unfold checkRules
  rw [documentRules_eq_keyOrder hv k hs]

/-- Validation reports every violated constraint instance, in an order that
depends on the order in which the addresses of an interface are visited and on
nothing else. A document that reads up to its rules, defaults filled in, is
accepted exactly when every instance of its constraints holds; otherwise it is
refused with a validation fault whose messages are those of the instances that
do not hold, one each and in order, each the instance's path, a colon and what
is wrong. Every order that visits each address once checks the same instances
and gives the same answer but for the order of the messages, exactly the same
answer when at most one address of each interface draws a message. -/
theorem validation_messages_order (visit : Visit) (hv : visit.Reorders) (k : Kind) :
    (∀ text, Agree (decodeIn visit k text) (decode k text)) ∧
      ∀ text node, prepare k text = .ok node →
        decodeIn visit k text =
            (if ∀ c ∈ documentChecks visit k node, c.fault = none then .ok ⟨k, node⟩
            else .error (.validation ((documentChecks visit k node).filterMap fun c =>
              c.fault.map fun what => c.path ++ ": " ++ what))) ∧
          (documentChecks visit k node).Perm (documentChecks keyOrder k node) ∧
          (SingleFlagged node → decodeIn visit k text = decode k text) := by
  refine ⟨decodeIn_agree hv k, fun text node hp => ⟨?_, documentChecks_perm hv k node, decodeIn_eq hv hp⟩⟩
  rw [decodeIn_of_prepare hp, checkRules_eq]
  rfl

/-- An interface document whose two addresses are given values without `meta`. -/
def twoAddressText : String :=
  "\x7b\"column\":\x7b\"SIN1\":\x7b\"eth0\":\x7b\"type\":\"ethernet\",\"address\":\x7b\"10.0.0.1/24\":\x7b\x7d,\"10.0.0.2/24\":\x7b\x7d\x7d\x7d\x7d\x7d\x7d"

/-- Visiting the addresses backwards agrees with key order but for the order of
the messages. -/
theorem reversed_visit_agrees :
    Agree (decodeIn (fun _ es => es.reverse) .iface twoAddressText)
      (decode .iface twoAddressText) :=
  (validation_messages_order (fun _ es => es.reverse) (fun _ es => List.reverse_perm es)
    .iface).1 _

/-- The two messages of `twoAddressText` come in the order its addresses are
visited. -/
theorem address_messages_follow_visit :
    (match decode .iface twoAddressText with
      | .error (.validation ms) => ms
      | _ => []) =
        ["column[SIN1][eth0].address[10.0.0.1/24].meta: field required",
         "column[SIN1][eth0].address[10.0.0.2/24].meta: field required"] ∧
    (match decodeIn (fun _ es => es.reverse) .iface twoAddressText with
      | .error (.validation ms) => ms
      | _ => []) =
        ["column[SIN1][eth0].address[10.0.0.2/24].meta: field required",
         "column[SIN1][eth0].address[10.0.0.1/24].meta: field required"] := by
  constructor <;> decide +kernel

end Document

end NetFleet.Column
