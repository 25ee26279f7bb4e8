import Mathlib
import NetFleet.Proofs.Apply
import NetFleet.Proofs.Overlay
import NetFleet.Control.Ethernet
import NetFleet.Control.Tunnel
import NetFleet.Control.Peer
import NetFleet.Control.Isis

/-!
# Enabling and disabling entries

Ethernet interfaces, tunnels, BGP peers and IS-IS interfaces (the four kinds of
`Switch`) are enabled and disabled by one operation each, which checks the entry
against the router's set of the inventory, applies the change
(`Station.apply`) and records the reply. On the bench, whatever the inventory,
the overlay store and the router's shell hold, every such operation keeps the
`Contract`:

* the router is sent at most one template, and only when the entry is admitted
  (named, found in the router's validated set, of an ethernet kind the router
  knows, and for an IS-IS disable not passive), the overlay can be read, and
  the entry's mark differs from the request or the change is forced;
* the overlay is kept, or written once after that template loaded, neither
  forced nor a test: the entry is added for a disable and its first occurrence
  removed for an enable, so that it stays listed after an enable only when it
  was listed twice;
* a mark that cannot be written turns the success into an error;
* an answered operation is recorded once when the station is audited; only a
  mark that cannot be stored at all (the document is `null`) stops the
  operation, and then nothing is recorded and the overlay is kept.

Each operation only reads the inventory before it applies the change, so it
ends as its application does (`Ends`); the contract follows from the cases of
`Ending`.
-/

namespace NetFleet.Control

open NetFleet (Fault Reply)
open NetFleet.Schema (Node)
open Bench

/-! ### The four kinds -/

/-- The kinds of entries that are enabled and disabled through the overlay. -/
inductive Switch where
  | ethernet | tunnel | peer | isis

/-- The interfaces of a set, by name. -/
def interfacesOf (set : Node) : List (String × Node) := set.entries.map fun kv => (kv.1.render, kv.2)

namespace Switch

/-- The overlay key of a kind. -/
def key : Switch → String
  | ethernet => Overlay.ethernetKey
  | tunnel => Overlay.tunnelKey
  | peer => Overlay.bgpKey
  | isis => Overlay.isisKey

/-- The column whose set for the router lists the entries of a kind. -/
def column : Switch → Column.Kind
  | ethernet | tunnel => .iface
  | peer => .bgp
  | isis => .protocol

/-- The operation that disables (or enables) an entry of a kind, as the journal
names it. -/
def operation : Switch → Bool → String
  | ethernet, d => if d then "ethernet.disable" else "ethernet.enable"
  | tunnel, d => if d then "tunnel.disable" else "tunnel.enable"
  | peer, d => if d then "bgp.disable" else "bgp.enable"
  | isis, d => if d then "isis.disable" else "isis.enable"

/-- The entry an operation on `name` acts on, in the router's set of the kind's
column: an ethernet, bonding or VLAN interface with an ethernet name, a tunnel,
the peer at any spelling of its address (the entry is its address), or an IS-IS
interface, which is not disabled while passive. -/
def entryIn : Switch → Node → String → Bool → Option String
  | ethernet, set, name, _ =>
    match (interfacesOf set).lookup name with
    | some i =>
      if isEthernetName name ∧ (i.member "type").str ∈ ["ethernet", "lacp", "vlan"] then some name else none
    | none => none
  | tunnel, set, name, _ => if isTunnelName name ∧ ((interfacesOf set).lookup name).isSome then some name else none
  | peer, set, name, _ => (findPeer (peersOf set) name).map (·.address)
  | isis, set, name, disable =>
    match isisInterface (((set.member "isis").toOption).map Node.deref) name with
    | some i => if disable ∧ (i.member "passive").flag? then none else some name
    | none => none

/-- The entry the inventory admits for an operation on `name` from bench `b`:
`name` is not empty, and the router's set reads and holds it. -/
def target (sw : Switch) (ep : Http.Endpoint) (router name : String) (disable : Bool) (b : Bench) :
    Option String :=
  if name = "" then none
  else match setIn ep router sw.column b with
    | .ok set => sw.entryIn set name disable
    | .error _ => none

/-- No entry is admitted for an empty name. -/
theorem target_empty (sw : Switch) (ep : Http.Endpoint) (router : String) (disable : Bool)
    (b : Bench) : sw.target ep router "" disable b = none := by
  simp [target]

/-- No entry is admitted when the router's set does not read. -/
theorem target_of_error (sw : Switch) {ep : Http.Endpoint} {router name : String} {disable : Bool}
    {b : Bench} {f : Fault} (h : setIn ep router sw.column b = .error f) :
    sw.target ep router name disable b = none := by
  simp [target, h]

/-- A named entry is admitted from a set that reads when the set holds it. -/
theorem target_of_ok (sw : Switch) {ep : Http.Endpoint} {router name : String} {disable : Bool}
    {b : Bench} {set : Node} (hn : name ≠ "") (h : setIn ep router sw.column b = .ok set) :
    sw.target ep router name disable b = sw.entryIn set name disable := by
  simp [target, hn, h]

variable {m : Type → Type} [Monad m]

/-- The operation of a kind, without its record. -/
def toggle (sw : Switch) (s : Station m) : String → Bool → Options → Op m Reply :=
  match sw with
  | ethernet => s.toggleEthernet
  | tunnel => s.toggleTunnel
  | peer => s.togglePeer
  | isis => s.toggleISIS

/-- Enable (`disable = false`) or disable an entry of a kind, as the station
offers it. -/
def run (sw : Switch) (s : Station m) (name : String) (disable : Bool) (opts : Options) : Op m Reply :=
  match sw, disable with
  | ethernet, false => s.enableEthernet name opts
  | ethernet, true => s.disableEthernet name opts
  | tunnel, false => s.enableTunnel name opts
  | tunnel, true => s.disableTunnel name opts
  | peer, false => s.enablePeer name opts
  | peer, true => s.disablePeer name opts
  | isis, false => s.enableISIS name opts
  | isis, true => s.disableISIS name opts

theorem run_eq (sw : Switch) (s : Station m) (name : String) (disable : Bool) (opts : Options) :
    sw.run s name disable opts = s.audit (sw.operation disable) name opts (sw.toggle s name disable opts) := by
  cases sw <;> cases disable <;> rfl

end Switch

/-! ### Reading the inventory in front of a change -/

/-- How an operation that may apply a change of the entry `target` ended: with
no target it only read, and answered without success. -/
def Ends (s : Station (StateM Bench)) (key : String) (target : Option String) (disable : Bool)
    (opts : Options) (J : List Audit.Event) (b : Bench) (x : Except Abort Reply) (J' : List Audit.Event)
    (b' : Bench) : Prop :=
  match target with
  | none => J' = J ∧ b'.Keeps b.store b.shell ∧ ∃ r, x = .ok r ∧ r.result = false
  | some e => Applied s key e disable opts J b x J' b'

/-- A fault answered after reads that keep the store and the shell ends with no
target. -/
theorem Ends.of_fault {s : Station (StateM Bench)} {key : String} {disable : Bool} {opts : Options}
    {J J' : List Audit.Event} {b b₁ b' : Bench} {x : Except Abort Reply} {f : Fault}
    (hk : b₁.Keeps b.store b.shell) (h : (Except.ok (faultReply f) = x ∧ J = J') ∧ b₁ = b') :
    Ends s key none disable opts J b x J' b' := by
  obtain ⟨⟨rfl, rfl⟩, rfl⟩ := h
  exact ⟨rfl, hk, _, rfl, faultReply_result f⟩

/-- Looking a name up among the pairs whose name passes a test. -/
theorem lookup_filter_key {β : Type} (p : String → Bool) (l : List (String × β)) (a : String) :
    (l.filter fun kv => p kv.1).lookup a = if p a then l.lookup a else none := by
  induction l with
  | nil => simp
  | cons kv l ih =>
    obtain ⟨k, v⟩ := kv
    by_cases hk : a = k
    · subst hk
      by_cases hp : p a <;> simp [hp, ih]
    · have hb : (a == k) = false := by simpa using hk
      by_cases hp : p k <;> simp [hp, List.lookup_cons, hb, ih]

/-- The router has a configuration path for exactly the ethernet, bonding and
VLAN interfaces. -/
theorem ethernetStatement_isSome (name : String) (iface : Node) :
    (ethernetStatement name iface).isSome = true ↔ (iface.member "type").str ∈ ["ethernet", "lacp", "vlan"] := by
  unfold ethernetStatement
  split <;> simp_all

section Kinds

variable {ep : Http.Endpoint} {facts : Router.Facts} {user : String} {ov sh au : Bool}

/-- A tunnel operation ends as the application of its change to the tunnel the
inventory admits, or with no target. -/
theorem toggleTunnel_ends (name : String) (disable : Bool) (opts : Options) {J J' : List Audit.Event}
    {b b' : Bench} {x : Except Abort Reply}
    (h : exec ((station ep facts user ov sh au).toggleTunnel name disable opts) J b = ((x, J'), b')) :
    Ends (station ep facts user ov sh au) Overlay.tunnelKey (Switch.tunnel.target ep facts.id name disable b)
      disable opts J b x J' b' := by
  unfold Station.toggleTunnel at h
  split at h
  rename_i operation verb action _
  by_cases hn : name = ""
  · subst hn
    rw [Switch.target_empty]
    simp [firstUnmet, selected] at h
    exact .of_fault ⟨rfl, rfl⟩ h
  obtain ⟨b₁, hs, hk⟩ := exec_setOf ep facts user ov sh au .iface J b
  simp [hn, firstUnmet, selected, Station.tunnels, Station.interfacesWhere, Station.interfaces, hs] at h
  rcases hset : setIn ep facts.id .iface b with f | set
  · rw [Switch.target_of_error .tunnel hset]
    simp [hset, Except.map] at h
    exact .of_fault hk h
  rw [Switch.target_of_ok .tunnel hn hset]
  simp only [hset, Except.map, lookup_filter_key, managed] at h
  have hI : set.entries.map (fun x => (x.1.render, x.2)) = interfacesOf set := rfl
  rw [hI] at h
  by_cases hT : isTunnelName name = true
  swap
  · rw [show Switch.tunnel.entryIn set name disable = none by simp [Switch.entryIn, hT]]
    simp [hT] at h
    exact .of_fault hk h
  rcases hlk : (interfacesOf set).lookup name with _ | i
  · rw [show Switch.tunnel.entryIn set name disable = none by simp [Switch.entryIn, hlk]]
    simp [hT, hlk] at h
    exact .of_fault hk h
  · rw [show Switch.tunnel.entryIn set name disable = some name by simp [Switch.entryIn, hT, hlk]]
    simp [hT, hlk] at h
    exact (apply_applied _ opts h).frame hk

/-- An ethernet operation ends as the application of its change, whose reply a
permanent change only annotates with the inventory's answer. -/
theorem toggleEthernet_ends (name : String) (disable : Bool) (opts : Options) {J J' : List Audit.Event}
    {b b' : Bench} {x : Except Abort Reply}
    (h : exec ((station ep facts user ov sh au).toggleEthernet name disable opts) J b = ((x, J'), b')) :
    Ends (station ep facts user ov sh au) Overlay.ethernetKey
      (Switch.ethernet.target ep facts.id name disable b) disable opts J b x J' b' := by
  unfold Station.toggleEthernet at h
  split at h
  rename_i operation verb action _
  by_cases hn : name = ""
  · subst hn
    rw [Switch.target_empty]
    simp [firstUnmet, selected] at h
    exact .of_fault ⟨rfl, rfl⟩ h
  obtain ⟨b₁, hs, hk⟩ := exec_setOf ep facts user ov sh au .iface J b
  simp [hn, firstUnmet, selected, Station.ethernet, Station.interfacesWhere, Station.interfaces, hs] at h
  rcases hset : setIn ep facts.id .iface b with f | set
  · rw [Switch.target_of_error .ethernet hset]
    simp [hset, Except.map] at h
    exact .of_fault hk h
  rw [Switch.target_of_ok .ethernet hn hset]
  simp only [hset, Except.map, lookup_filter_key, managed] at h
  have hI : set.entries.map (fun x => (x.1.render, x.2)) = interfacesOf set := rfl
  rw [hI] at h
  have hstop : ¬(isEthernetName name = true ∧ ∃ i, (interfacesOf set).lookup name = some i ∧
      (i.member "type").str ∈ ["ethernet", "lacp", "vlan"]) →
      Switch.ethernet.entryIn set name disable = none := by
    intro hno
    simp only [Switch.entryIn]
    split
    · rename_i i hi
      rw [if_neg (fun hc => hno ⟨hc.1, i, hi, hc.2⟩)]
    · rfl
  rcases hlk : (interfacesOf set).lookup name with _ | i
  · rw [hstop (by simp [hlk])]
    simp [hlk] at h
    exact .of_fault hk h
  by_cases hE : isEthernetName name = true
  swap
  · rw [hstop (by simp [hE])]
    simp [hE] at h
    exact .of_fault hk h
  by_cases hty : (i.member "type").str ∈ ["ethernet", "lacp", "vlan"]
  swap
  · rw [hstop (by rintro ⟨-, i', hi', hty'⟩; rw [hlk] at hi'; cases hi'; exact hty hty')]
    have hst := (ethernetStatement_isSome name i).not.mpr hty
    simp [hE, hlk, hst] at h
    exact .of_fault hk h
  rw [show Switch.ethernet.entryIn set name disable = some name by simp [Switch.entryIn, hlk, hE, hty]]
  have hst := (ethernetStatement_isSome name i).mpr hty
  simp [hE, hlk, hst] at h
  -- the change is applied; a permanent one is then written to the inventory too
  split at h
  · rename_i r J₁ b₂ ha
    have hA := (apply_applied _ opts ha).frame hk
    by_cases hp : opts.permanent = false ∨ r.result = false
    · simp only [hp, if_true, exec_pure, Prod.mk.injEq] at h
      obtain ⟨⟨rfl, rfl⟩, rfl⟩ := h
      exact hA
    · obtain ⟨b₃, hatt, hk₃⟩ := exec_attempt
        (fun st sh => setInterfaceDisabled_keeps true ep st sh facts.id name disable opts.test) J₁ b₂
      simp only [hp, if_false, exec_bind, hatt] at h
      split at h <;>
      · simp only [exec_pure, Prod.mk.injEq] at h
        obtain ⟨⟨rfl, rfl⟩, rfl⟩ := h
        exact hA.reply rfl rfl hk₃
  · rename_i e J₁ b₂ ha
    simp only [Prod.mk.injEq] at h
    obtain ⟨⟨rfl, rfl⟩, rfl⟩ := h
    exact (apply_applied _ opts ha).frame hk

/-- A BGP peer operation ends as the application of its change to the peer's
address. -/
theorem togglePeer_ends (peer : String) (disable : Bool) (opts : Options) {J J' : List Audit.Event}
    {b b' : Bench} {x : Except Abort Reply}
    (h : exec ((station ep facts user ov sh au).togglePeer peer disable opts) J b = ((x, J'), b')) :
    Ends (station ep facts user ov sh au) Overlay.bgpKey
      (Switch.peer.target ep facts.id peer disable b) disable opts J b x J' b' := by
  unfold Station.togglePeer at h
  split at h
  rename_i operation verb _
  by_cases hn : peer = ""
  · subst hn
    rw [Switch.target_empty]
    simp [firstUnmet, selected] at h
    exact .of_fault ⟨rfl, rfl⟩ h
  obtain ⟨b₁, hs, hk⟩ := exec_setOf ep facts user ov sh au .bgp J b
  simp [hn, firstUnmet, selected, Station.peers, Station.bgp, hs] at h
  rcases hset : setIn ep facts.id .bgp b with f | set
  · rw [Switch.target_of_error .peer hset]
    simp [hset, Except.map] at h
    exact .of_fault hk h
  rw [Switch.target_of_ok .peer hn hset]
  simp only [hset, Except.map, managed] at h
  rcases hfp : findPeer (peersOf set) peer with _ | p
  · rw [show Switch.peer.entryIn set peer disable = none by simp [Switch.entryIn, hfp]]
    simp [hfp] at h
    exact .of_fault hk h
  · rw [show Switch.peer.entryIn set peer disable = some p.address by simp [Switch.entryIn, hfp]]
    simp [hfp] at h
    exact (apply_applied _ opts h).frame hk

/-- An IS-IS operation ends as the application of its change, unless it would
disable a passive interface. -/
theorem toggleISIS_ends (name : String) (disable : Bool) (opts : Options) {J J' : List Audit.Event}
    {b b' : Bench} {x : Except Abort Reply}
    (h : exec ((station ep facts user ov sh au).toggleISIS name disable opts) J b = ((x, J'), b')) :
    Ends (station ep facts user ov sh au) Overlay.isisKey
      (Switch.isis.target ep facts.id name disable b) disable opts J b x J' b' := by
  unfold Station.toggleISIS at h
  split at h
  rename_i operation verb action _
  by_cases hn : name = ""
  · subst hn
    rw [Switch.target_empty]
    simp [firstUnmet, selected] at h
    exact .of_fault ⟨rfl, rfl⟩ h
  obtain ⟨b₁, hs, hk⟩ := exec_setOf ep facts user ov sh au .protocol J b
  simp [hn, firstUnmet, selected, Station.isis, hs] at h
  rcases hset : setIn ep facts.id .protocol b with f | set
  · rw [Switch.target_of_error .isis hset]
    simp [hset, Except.map] at h
    exact .of_fault hk h
  rw [Switch.target_of_ok .isis hn hset]
  simp only [hset, Except.map, managed] at h
  rcases hfi : isisInterface (((set.member "isis").toOption).map Node.deref) name with _ | i
  · rw [show Switch.isis.entryIn set name disable = none by simp [Switch.entryIn, hfi]]
    simp [hfi] at h
    exact .of_fault hk h
  by_cases hpd : disable = true ∧ (i.member "passive").flag? = true
  · rw [show Switch.isis.entryIn set name disable = none by simp [Switch.entryIn, hfi, hpd]]
    simp [hfi, hpd, firstUnmet] at h
    exact .of_fault hk h
  · rw [show Switch.isis.entryIn set name disable = some name by simp [Switch.entryIn, hfi, hpd]]
    simp [hfi] at h
    split at h
    · rename_i f hf
      cases disable <;> simp_all [firstUnmet]
    · exact (apply_applied _ opts h).frame hk

/-- Every operation of a kind ends as it applies the change to the admitted
entry, or with no target. -/
theorem Switch.toggle_ends (sw : Switch) (name : String) (disable : Bool) (opts : Options)
    {J J' : List Audit.Event} {b b' : Bench} {x : Except Abort Reply}
    (h : exec (sw.toggle (station ep facts user ov sh au) name disable opts) J b = ((x, J'), b')) :
    Ends (station ep facts user ov sh au) sw.key (sw.target ep facts.id name disable b) disable opts
      J b x J' b' := by
  cases sw
  · exact toggleEthernet_ends name disable opts h
  · exact toggleTunnel_ends name disable opts h
  · exact togglePeer_ends name disable opts h
  · exact toggleISIS_ends name disable opts h

end Kinds

/-! ### The contract -/

/-- An operation run with its record: an answer adds its event to the journal
when the station is audited; an operation that stopped adds nothing. -/
theorem exec_audit (s : Station (StateM Bench)) (operation target : String) (opts : Options)
    (body : Op (StateM Bench) Reply) (J : List Audit.Event) (b : Bench) :
    exec (s.audit operation target opts body) J b =
      match exec body J b with
      | ((.ok r, J₁), b₁) =>
        ((.ok r, J₁ ++ if s.audited then [(s.event operation target opts).withReply r] else []), b₁)
      | ((.error e, J₁), b₁) => ((.error e, J₁), b₁) := by
  simp only [Station.audit, exec_bind]
  rcases exec body J b with ⟨⟨_ | r, J₁⟩, b₁⟩
  · rfl
  · cases h : s.audited <;> simp [Station.record, h]

/-- What an operation of kind `sw` on `name`, run from journal `J` and bench `b`,
must do, for the answer `x`, the journal `J'` and the bench `b'` it leaves;
`target` is the entry the inventory admits. -/
structure Contract (s : Station (StateM Bench)) (sw : Switch) (target : Option String)
    (name : String) (disable : Bool) (opts : Options) (J : List Audit.Event) (b : Bench)
    (x : Except Abort Reply) (J' : List Audit.Event) (b' : Bench) : Prop where
  /-- at most one template is sent, and only for an admitted entry whose change
  the overlay lets through -/
  sent : ∃ cmds, b'.shell.log = b.shell.log ++ cmds ∧ cmds.length ≤ 1 ∧
    (cmds ≠ [] → ∃ e, target = some e ∧ Passes s sw.key e disable opts b.store)
  /-- the overlay is kept, or marked once after the one template loaded, with
  neither force nor test; the entry is then listed after a disable, and after an
  enable only if it was listed twice or more -/
  marked : b'.store = b.store ∨ ∃ e es before r, target = some e ∧ opts.force = false ∧
    opts.test = false ∧ b'.shell.log.length = b.shell.log.length + 1 ∧ x = .ok r ∧ r.result = true ∧
    s.lists.mark b.store sw.key e disable = .applied es b'.store ∧
    (s.lists.entries b.store sw.key).map Prod.fst = .ok before ∧
    (e ∈ es ↔ disable = true ∨ 2 ≤ before.count e)
  /-- a success whose mark could not be written is an error -/
  refused : ∀ e es f r, target = some e → s.lists.mark b.store sw.key e disable = .refused es f →
    opts.force = false → opts.test = false → x = .ok r → r.result = true → r.error = true
  /-- an answer is recorded once, when the station is audited -/
  recorded : ∀ r, x = .ok r →
    J' = J ++ if s.audited then [(s.event (sw.operation disable) name opts).withReply r] else []
  /-- only a mark that cannot be stored at all stops the operation: nothing is
  recorded and the overlay is kept -/
  aborted : ∀ a, x = .error a → J' = J ∧ b'.store = b.store ∧ a.message = Overlay.crashMessage ∧
    ∃ e, target = some e ∧ s.lists.mark b.store sw.key e disable = .crashed

/-- An operation that ended as its application did, with its record, keeps the
contract. -/
theorem contract_of_ends {s : Station (StateM Bench)} {sw : Switch} {target : Option String}
    {name : String} {disable : Bool} {opts : Options} {J J₁ J' : List Audit.Event} {b b' : Bench}
    {x : Except Abort Reply}
    (hE : Ends s sw.key target disable opts J b x J₁ b')
    (hJ : J' = match x with
      | .ok r => J₁ ++ if s.audited then [(s.event (sw.operation disable) name opts).withReply r] else []
      | .error _ => J₁) :
    Contract s sw target name disable opts J b x J' b' := by
  cases target with
  | none =>
    obtain ⟨rfl, ⟨hst, hsh⟩, r, rfl, hr⟩ := hE
    subst hJ
    refine ⟨⟨[], by simp [hsh], by simp, by simp⟩, .inl hst, ?_, ?_, ?_⟩
    · intro e es f r' he
      cases he
    · intro r' hr'
      cases hr'
      rfl
    · intro a ha
      cases ha
  | some e =>
    obtain ⟨rfl, cmds, hlog, hend⟩ := hE
    obtain ⟨hle, hpass⟩ := hend.sent
    refine ⟨⟨cmds, hlog, hle, fun hne => ⟨e, rfl, hpass (by simpa using hne)⟩⟩, ?_, ?_, ?_, ?_⟩
    · rcases hend.store with hst | ⟨hp, hf, ht, hn, es, r, hm, hx, hr⟩
      · exact .inl hst
      · obtain ⟨-, marked, hc, -⟩ := hp
        obtain ⟨before, found, hb⟩ := Overlay.entries_of_contains hc
        refine .inr ⟨e, es, before, r, rfl, hf, ht, by simp [hlog, hn], hx, hr, hm, by simp [hb, Except.map], ?_⟩
        rw [Overlay.mark_applied hm hb]
        exact Overlay.mem_marked before e disable
    · intro e' es f r he hm hf ht hx hr
      cases he
      subst hx
      exact hend.refused hr hf ht hm
    · intro r hx
      subst hx
      exact hJ
    · intro a hx
      subst hx
      obtain ⟨hst, hmsg, hm⟩ := hend.aborted
      exact ⟨hJ, hst, hmsg, e, rfl, hm⟩

/-- Every operation that enables or disables an entry, from every journal and
every state of the inventory, the overlay store and the router's shell, keeps
the contract. -/
theorem toggle_run_keeps_contract (sw : Switch) (ep : Http.Endpoint) (facts : Router.Facts) (user : String)
    (ov sh au : Bool) (name : String) (disable : Bool) (opts : Options) (J : List Audit.Event)
    (b : Bench) :
    match exec (sw.run (station ep facts user ov sh au) name disable opts) J b with
    | ((x, J'), b') =>
      Contract (station ep facts user ov sh au) sw (sw.target ep facts.id name disable b) name disable
        opts J b x J' b' := by
  rw [Switch.run_eq, exec_audit]
  rcases he : exec (sw.toggle (station ep facts user ov sh au) name disable opts) J b with ⟨⟨x, J₁⟩, b'⟩
  have hE := sw.toggle_ends name disable opts he
  cases x with
  | ok r => exact contract_of_ends hE rfl
  | error a => exact contract_of_ends hE rfl

end NetFleet.Control
