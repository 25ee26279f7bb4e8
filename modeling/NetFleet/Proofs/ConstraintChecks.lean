import Mathlib
import NetFleet.Column.Document

/-!
# The constraint instances of a column document

The rules of a column (`Column/Rules`) are written as lists of messages. Here
the same rules are read as a list of constraint instances, `Check`s: each check
the rules make at a place of the document is one instance, with the path of that
place and, when the constraint does not hold there, what is wrong. A place with
no constraint to meet (an optional record that is absent, an empty list) has no
instance.

The messages of the rules are exactly the messages of the instances that do not
hold, one each and in order, each the instance's path, a colon and what is wrong
(`documentRules_eq`). A prepared document therefore passes its rules exactly when
every instance holds, and otherwise fails with those messages
(`Document.checkRules_eq`).
-/

namespace NetFleet.Column

open Schema

/-- One constraint at one place of a document: the path of the place, and what
is wrong there, when the constraint does not hold. -/
structure Check where
  path : String
  fault : Option String
deriving DecidableEq

/-- The message of a check that does not hold: its path, then what is wrong. -/
def Check.message (c : Check) : Option String := c.fault.map fun what => c.path ++ ": " ++ what

/-- The messages of the checks that do not hold, in order. -/
def messagesOf (cs : List Check) : List String := cs.filterMap Check.message

@[simp] theorem messagesOf_nil : messagesOf [] = [] := rfl

@[simp] theorem messagesOf_append (cs cs' : List Check) :
    messagesOf (cs ++ cs') = messagesOf cs ++ messagesOf cs' :=
  List.filterMap_append

@[simp] theorem messagesOf_flatten (css : List (List Check)) :
    messagesOf css.flatten = (css.map messagesOf).flatten := by
  induction css with
  | nil => rfl
  | cons cs css ih => simp [ih]

theorem messagesOf_eq_nil {cs : List Check} : messagesOf cs = [] ↔ ∀ c ∈ cs, c.fault = none := by
  simp [messagesOf, List.filterMap_eq_nil_iff, Check.message]

/-! ### One constraint at a time -/

/-- A number in `[lo, hi]`. -/
def rangeCheck (path : String) (n lo hi : Int) : Check :=
  ⟨path, if n < lo ∨ n > hi then
    some ("must be between " ++ toString lo ++ " and " ++ toString hi ++ ", got " ++ toString n)
    else none⟩

/-- Text that is one of `allowed`. -/
def enumCheck (path s : String) (allowed : List String) : Check :=
  ⟨path, if allowed.contains s then none
    else some ("must be one of " ++ "|".intercalate allowed ++ ", got " ++ Text.quote s)⟩

/-- A value that must be present. -/
def requiredCheck (path : String) (present : Bool) : Check :=
  ⟨path, if present then none else some "field required"⟩

/-- An IPv4 address, required or not. -/
def ipv4Check (path : String) (a : Option Net.Addr) (required : Bool) : Check :=
  ⟨path, match a with
    | none => if required then some "field required" else none
    | some a => if a.is4 then none else some ("must be an IPv4 address, got " ++ a.render)⟩

/-- An IPv6 address that is not IPv4-mapped, required or not. -/
def ipv6Check (path : String) (a : Option Net.Addr) (required : Bool) : Check :=
  ⟨path, match a with
    | none => if required then some "field required" else none
    | some a => if a.is6 && !a.is4In6 then none else some ("must be an IPv6 address, got " ++ a.render)⟩

/-- A network: a prefix that is set and has no host bits. -/
def networkCheck (path : String) (p : Option Net.Prefix) : Check :=
  ⟨path, match p with
    | none => some "field required"
    | some p => if p.isMasked then none else some (p.render ++ " has host bits set")⟩

/-- An optional number in `[lo, hi]`, a constraint only when present. -/
def optRangeChecks (path : String) (n : Option Int) (lo hi : Int) : List Check :=
  match n with
  | some v => [rangeCheck path v lo hi]
  | none => []

section Atoms

variable (path : String)

/-- An instance adds its message, if it has one, to those of the instances after it. -/
@[simp] theorem messagesOf_cons (c : Check) (cs : List Check) :
    messagesOf (c :: cs) = c.message.toList ++ messagesOf cs := by
  cases h : c.message <;> simp [messagesOf, h]

@[simp] theorem messagesOf_map {α : Type} (f : α → Check) (xs : List α) :
    messagesOf (xs.map f) = (xs.map fun x => (f x).message.toList).flatten := by
  induction xs with
  | nil => rfl
  | cons x xs ih => rw [List.map_cons, messagesOf_cons, ih, List.map_cons, List.flatten_cons]

@[simp] theorem message_holds : (Check.mk path none).message = none := rfl

@[simp] theorem message_some (what : String) :
    (Check.mk path (some what)).message = some (path ++ ": " ++ what) := rfl

/-- An instance whose constraint is a test contributes a message exactly when the
test fails. -/
@[simp] theorem message_ite (c : Prop) [Decidable c] (what : String) :
    (Check.mk path (if c then some what else none)).message.toList =
      if c then [path ++ ": " ++ what] else [] := by
  split <;> rfl

/-- The rules write a message as one text; an instance's message is its path,
the colon and what is wrong. The two agree when they have the same characters. -/
theorem message_fault_of_toList {what msg : String} (h : (path ++ ": " ++ what).toList = msg.toList) :
    (Check.mk path (some what)).message.toList = [msg] := by
  rw [message_some, String.toList_inj.1 h]
  rfl

theorem ite_singleton_text {c : Prop} [Decidable c] {a b : String} :
    ((if c then [a] else []) = if c then [b] else []) ↔ (c → a.toList = b.toList) := by
  split <;> simp_all [String.toList_inj]

@[simp] theorem rangeCheck_messages (n lo hi : Int) :
    (rangeCheck path n lo hi).message.toList = checkRange path n lo hi := by
  unfold checkRange rangeCheck
  split
  · exact message_fault_of_toList path (by simp)
  · rfl

@[simp] theorem enumCheck_messages (s : String) (allowed : List String) :
    (enumCheck path s allowed).message.toList = checkEnum path s allowed := by
  unfold checkEnum enumCheck
  split
  · rfl
  · exact message_fault_of_toList path (by simp)

@[simp] theorem requiredCheck_messages (present : Bool) :
    (requiredCheck path present).message.toList = checkRequired path present := by
  unfold checkRequired requiredCheck
  split
  · rfl
  · exact message_fault_of_toList path (by simp)

@[simp] theorem ipv4Check_messages (a : Option Net.Addr) (required : Bool) :
    (ipv4Check path a required).message.toList = checkIPv4 path a required := by
  unfold checkIPv4 ipv4Check
  rcases a with _ | a <;> dsimp only <;> split
  all_goals first | rfl | exact message_fault_of_toList path (by simp)

@[simp] theorem ipv6Check_messages (a : Option Net.Addr) (required : Bool) :
    (ipv6Check path a required).message.toList = checkIPv6 path a required := by
  unfold checkIPv6 ipv6Check
  rcases a with _ | a <;> dsimp only <;> split
  all_goals first | rfl | exact message_fault_of_toList path (by simp)

@[simp] theorem networkCheck_messages (p : Option Net.Prefix) :
    (networkCheck path p).message.toList = checkNetwork path p := by
  unfold checkNetwork networkCheck
  rcases p with _ | p
  · exact message_fault_of_toList path (by simp)
  · dsimp only
    split
    · rfl
    · exact message_fault_of_toList path (by simp)

@[simp] theorem optRangeChecks_messages (n : Option Int) (lo hi : Int) :
    messagesOf (optRangeChecks path n lo hi) = checkOptRange path n lo hi := by
  rcases n with _ | v
  · rfl
  · exact (messagesOf_cons _ _).trans ((List.append_nil _).trans (rangeCheck_messages path v lo hi))

end Atoms

/-! ### The instances of a document

Each function lists the instances of one kind of record, in the order its rules
check them. -/

/-- Device variables. -/
def cvarsChecks (path : String) (c : Node) : List Check :=
  [ipv4Check (dot path "ibgp_ipv4") (c.member "ibgp_ipv4").addr? false,
   ipv6Check (dot path "ibgp_ipv6") (c.member "ibgp_ipv6").addr? false,
   ipv4Check (dot path "router_id") (c.member "router_id").addr? true,
   rangeCheck (dot path "local_asn") (c.member "local_asn").num 1 maxASN,
   ipv4Check (dot path "primary_ipv4") (c.member "primary_ipv4").addr? true,
   ipv6Check (dot path "primary_ipv6") (c.member "primary_ipv6").addr? true,
   requiredCheck (dot path "dns_servers") (!(c.member "dns_servers").isNil),
   requiredCheck (dot path "znsl_prefixes") (!(c.member "znsl_prefixes").isNil)] ++
  (c.member "znsl_prefixes").items.map fun p => networkCheck (dot path "znsl_prefixes") p.cidr?

/-- One device. -/
def deviceChecks (path : String) (d : Node) : List Check :=
  [requiredCheck (dot path "location") ((d.member "location").str ≠ ""),
   requiredCheck (dot path "providers") (!(d.member "providers").isNil),
   requiredCheck (dot path "node_name") ((d.member "node_name").str ≠ "")] ++
  cvarsChecks (dot path "cvars") (d.member "cvars")

/-- One address of an interface: its key is a prefix, and when it is given a
value, the value carries `meta`. -/
def addressChecks (address : String) (k : Key) (a : Node) : List Check :=
  let keyText := match k with
    | .cidr (some p) => p.render
    | _ => "invalid Prefix"
  ⟨address, match k with
    | .cidr (some _) => none
    | _ => some "invalid interface address"⟩ ::
  (match a with
    | .some rec =>
      [⟨dot (entry address keyText) "meta", if (rec.member "meta").isNil then some "field required" else none⟩]
    | _ => [])

/-- One interface, its addresses visited in the order `visit` gives. -/
def ifaceChecks (visit : Visit) (path : String) (i : Node) : List Check :=
  let address := dot path "address"
  [enumCheck (dot path "type") (i.member "type").str interfaceTypes] ++
  optRangeChecks (dot path "mtu") (i.member "mtu").optInt 1280 9192 ++
  optRangeChecks (dot path "ttl") (i.member "ttl").optInt 1 255 ++
  [ipv4Check (dot path "key") (i.member "key").addr? false] ++
  ((visit path (i.member "address").entries).map fun (k, a) => addressChecks address k a).flatten ++
  (match (i.member "vlan").toOption with
    | some v =>
      [rangeCheck (dot (dot path "vlan") "id") (v.member "id").num 1 4095,
       requiredCheck (dot (dot path "vlan") "parent") ((v.member "parent").str ≠ "")]
    | none => []) ++
  [⟨dot path "vlan", if (i.member "type").str = "vlan" ∧ (i.member "vlan").isNil then
    some "required for vlan interfaces" else none⟩] ++
  (match (i.member "lacp").toOption with
    | some l =>
      let p := dot path "lacp"
      [enumCheck (dot p "hash_policy") (l.member "hash_policy").str ["layer2+3", "layer3+4"],
       enumCheck (dot p "rate") (l.member "rate").str ["fast", "slow"],
       rangeCheck (dot p "min_links") (l.member "min_links").num 1 5,
       requiredCheck (dot p "members") (!(l.member "members").isNil)]
    | none => [])

/-- A peer group, or the peer-group part of a neighbor. -/
def peerGroupChecks (path : String) (p : Node) : List Check :=
  [enumCheck (dot path "type") (p.member "type").str ["ibgp", "ebgp"]] ++
  optRangeChecks (dot path "multihop") (p.member "multihop").optInt 1 255 ++
  optRangeChecks (dot path "remote_asn") (p.member "remote_asn").optInt 1 maxASN ++
  ((familyNames (p.member "family")).map fun fam =>
    match ((p.member "family").member fam |>.member "max_prefixes").optInt with
    | some n =>
      [⟨dot (dot (dot path "family") fam) "max_prefixes",
        if n < 1 then some ("must be at least 1, got " ++ toString n) else none⟩]
    | none => []).flatten

/-- The BGP configuration of one set. -/
def bgpChecks (path : String) (b : Node) : List Check :=
  (match (b.member "options").toOption with
    | some o =>
      let p := dot path "options"
      [rangeCheck (dot p "asn") (o.member "asn").num 1 maxASN] ++
      optRangeChecks (dot p "hold_time") (o.member "hold_time").optInt 15 180 ++
      optRangeChecks (dot p "keepalive_time") (o.member "keepalive_time").optInt 5 60 ++
      [ipv4Check (dot p "router_id") (o.member "router_id").addr? true,
       ipv4Check (dot p "cluster_id") (o.member "cluster_id").addr? false]
    | none => []) ++
  (match (b.member "address_family").toOption with
    | some af =>
      (["ipv4", "ipv6"].map fun fam =>
        match (af.member fam).toOption with
        | some el =>
          let p := dot (dot path "address_family") fam
          requiredCheck (dot p "redistribute") (!(el.member "redistribute").isNil) ::
            (el.member "networks").items.map fun n => networkCheck (dot p "networks") n.cidr?
        | none => []).flatten
    | none => []) ++
  eachEntry (b.member "peer_groups") (fun name pg => peerGroupChecks (entry (dot path "peer_groups") name) pg) ++
  ((neighborsInOrder b).map fun (a, n) =>
    let np := entry (dot path "neighbors") ((a.map Net.Addr.render).getD "invalid IP")
    let pg := (n.member "peer_group").str
    let groups := b.member "peer_groups"
    peerGroupChecks np n ++
    (match (n.member "timers").toOption with
      | some t =>
        [rangeCheck (dot (dot np "timers") "holdtime") (t.member "holdtime").num 15 3000,
         rangeCheck (dot (dot np "timers") "keepalive") (t.member "keepalive").num 5 1000]
      | none => []) ++
    [⟨dot np "peer_group", if pg ≠ "" ∧ !groups.isNil ∧ !(textEntries groups).any (·.1 = pg) then
      some ("unknown peer group " ++ Text.quote pg) else none⟩]).flatten

/-- One firewall policy. -/
def firewallPolicyChecks (path : String) (p : Node) : List Check :=
  enumCheck (dot path "default_action") (p.member "default_action").str acceptOrDrop ::
  eachItem (p.member "rules").items fun i r =>
    let rp := entry (dot path "rules") (toString i)
    enumCheck (dot rp "action") (r.member "action").str ["accept", "drop", "jump"] ::
    ((r.member "state").items.map fun s => enumCheck (dot rp "state") s.str ["established", "related"]) ++
    ((["source", "destination"].map fun side =>
      match (r.member side).toOption with
      | some t => (t.member "port").items.map fun port => rangeCheck (dot rp "port") port.num 0 65535
      | none => []).flatten)

/-- Policies per family. -/
def policyBaseChecks (path : String) (b : Node) : List Check :=
  match b.toOption with
  | some base =>
    (["ipv4", "ipv6"].map fun fam =>
      eachEntry (base.member fam) fun name p => firewallPolicyChecks (entry (dot path fam) name) p).flatten
  | none => []

/-- The firewall of one set. -/
def firewallChecks (path : String) (f : Node) : List Check :=
  policyBaseChecks (dot path "policies") (f.member "policies") ++
  policyBaseChecks (dot path "policy_base") (f.member "policy_base") ++
  (match (f.member "groups").toOption with
    | some g =>
      (["ipv4", "ipv6"].map fun fam =>
        eachEntry (g.member fam) fun name grp =>
          let gp := entry (dot (dot path "groups") fam) name
          [enumCheck (dot gp "type") (grp.member "type").str ["network"],
           requiredCheck (dot gp "networks") (!(grp.member "networks").isNil)]).flatten
    | none => []) ++
  (match (f.member "state_policy").toOption with
    | some s =>
      [enumCheck (dot (dot path "state_policy") "established") (s.member "established").str acceptOrDrop,
       enumCheck (dot (dot path "state_policy") "related") (s.member "related").str acceptOrDrop]
    | none => []) ++
  (match (f.member "mss_clamp").toOption with
    | some m =>
      let p := dot path "mss_clamp"
      [rangeCheck (dot p "ipv4") (m.member "ipv4").num 556 9172,
       rangeCheck (dot p "ipv6") (m.member "ipv6").num 1280 9172,
       requiredCheck (dot p "interfaces") (!(m.member "interfaces").isNil)]
    | none => []) ++
  eachEntry (f.member "zone_policy") fun name zp =>
    let p := entry (dot path "zone_policy") name
    enumCheck (dot p "default_action") (zp.member "default_action").str acceptOrDrop ::
    eachItem (zp.member "from").items fun i r =>
      [requiredCheck (dot (entry (dot p "from") (toString i)) "zone") ((r.member "zone").str ≠ "")]

/-- A permit or deny rule with a regular expression. -/
def basicRuleChecks (path : String) (r : Node) : List Check :=
  [enumCheck (dot path "action") (r.member "action").str ["permit", "deny"],
   requiredCheck (dot path "regex") ((r.member "regex").str ≠ "")]

/-- A route-map rule. -/
def routeMapRuleChecks (path : String) (r : Node) : List Check :=
  [enumCheck (dot path "action") (r.member "action").str ["permit", "deny"],
   rangeCheck (dot path "number") (r.member "number").num 0 999] ++
  optRangeChecks (dot path "continue") (r.member "continue").optInt 0 999 ++
  (match (r.member "match").toOption with
    | some m =>
      let rpki := (m.member "rpki").str
      if rpki ≠ "" then [enumCheck (dot (dot path "match") "rpki") rpki ["notfound", "valid", "invalid"]] else []
    | none => []) ++
  (match (r.member "set").toOption with
    | some s =>
      optRangeChecks (dot (dot path "set") "local_pref") (s.member "local_pref").optInt 0 255 ++
      optRangeChecks (dot (dot path "set") "as_path_exclude") (s.member "as_path_exclude").optInt 1 maxASN
    | none => [])

/-- The lists of rules under a name, each of which must have a rule list. -/
def ruleListChecks (path : String) (lists : Node) (rule : String → Node → List Check) : List Check :=
  eachEntry lists fun name l =>
    let lp := entry path name
    requiredCheck (dot lp "rules") (!(l.member "rules").isNil) ::
    eachItem (l.member "rules").items fun i r => rule (entry (dot lp "rules") (toString i)) r

/-- The routing policy of one set. -/
def policyChecks (path : String) (p : Node) : List Check :=
  (match (p.member "prefix_lists").toOption with
    | some pl =>
      (["ipv4", "ipv6"].map fun fam =>
        ruleListChecks (dot (dot path "prefix_lists") fam) (pl.member fam) fun rp r =>
          optRangeChecks (dot rp "le") (r.member "le").optInt 0 128 ++
          optRangeChecks (dot rp "ge") (r.member "ge").optInt 0 128 ++
          [networkCheck (dot rp "prefix") (r.member "prefix").cidr?]).flatten
    | none => []) ++
  (match (p.member "route_maps").toOption with
    | some rm =>
      (["ipv4", "ipv6"].map fun fam =>
        ruleListChecks (dot (dot path "route_maps") fam) (rm.member fam) routeMapRuleChecks).flatten
    | none => []) ++
  ruleListChecks (dot path "aspath_lists") (p.member "aspath_lists") basicRuleChecks ++
  ruleListChecks (dot path "community_lists") (p.member "community_lists") basicRuleChecks

/-- The protocols of one set. -/
def protocolChecks (path : String) (p : Node) : List Check :=
  (match (p.member "isis").toOption with
    | some i =>
      let ip := dot path "isis"
      optRangeChecks (dot ip "level") (i.member "level").optInt 1 3 ++
      optRangeChecks (dot ip "lsp_mtu") (i.member "lsp_mtu").optInt 1200 9200 ++
      [requiredCheck (dot ip "iso") ((i.member "iso").str ≠ ""),
       requiredCheck (dot ip "interfaces") (!(i.member "interfaces").isNil)] ++
      eachItem (i.member "interfaces").items fun n iface =>
        [requiredCheck (dot (entry (dot ip "interfaces") (toString n)) "name") ((iface.member "name").str ≠ "")]
    | none => []) ++
  (match ((p.member "services").member "dhcp_server").toOption with
    | some d =>
      let dp := dot (dot path "services") "dhcp_server"
      requiredCheck (dot dp "networks") (!(d.member "networks").isNil) ::
      eachItem (d.member "networks").items fun n dn =>
        let np := entry (dot dp "networks") (toString n)
        let net := (dn.member "network").cidr?
        [ipv4Check (dot np "router_ip") (dn.member "router_ip").addr? true,
         networkCheck (dot np "network") net] ++
        (match net with
          | some pfx => [⟨dot np "network", if pfx.addr.is4 then none else
              some ("must be an IPv4 network, got " ++ pfx.render)⟩]
          | none => []) ++
        [requiredCheck (dot np "ranges") (!(dn.member "ranges").isNil)] ++
        eachItem (dn.member "ranges").items fun r rng =>
          let rp := entry (dot np "ranges") (toString r)
          [ipv4Check (dot rp "start_address") (rng.member "start_address").addr? true,
           ipv4Check (dot rp "end_address") (rng.member "end_address").addr? true]
    | none => [])

/-- The instances of one set record of a column; `visit` orders the addresses of
each interface. -/
def setChecks (visit : Visit) : Kind → String → Node → List Check
  | .device, path, n => deviceChecks path n
  | .iface, path, n => eachEntry n fun name i => ifaceChecks visit (entry path name) i
  | .bgp, path, n => bgpChecks path n
  | .firewall, path, n => firewallChecks path n
  | .policy, path, n => policyChecks path n
  | .protocol, path, n => protocolChecks path n

/-- The instances of a whole column document: the column is present, and those of
each set, in order of set id. -/
def documentChecks (visit : Visit) (k : Kind) (doc : Node) : List Check :=
  let column := doc.member "column"
  requiredCheck "column" (!column.isNil) ::
  eachEntry column fun id s => setChecks visit k (entry "column" id) s

/-! ### The messages are those of the instances

One lemma per record kind, each reading the instances' messages back as that
kind's rules. A match on an optional member is split where it stands; inside a
list of families, sides or neighbors it is split item by item. -/

@[simp] theorem messagesOf_eachItem (xs : List Node) (f : Nat → Node → List Check) :
    messagesOf (eachItem xs f) = eachItem xs fun i x => messagesOf (f i x) := by
  simp [eachItem, Function.comp_def]

@[simp] theorem messagesOf_eachEntry (n : Node) (f : String → Node → List Check) :
    messagesOf (eachEntry n f) = eachEntry n fun k v => messagesOf (f k v) := by
  simp [eachEntry, Function.comp_def]

theorem eachItem_congr {α : Type} {xs : List Node} {f g : Nat → Node → List α} (h : ∀ i x, f i x = g i x) :
    eachItem xs f = eachItem xs g := by
  simp only [funext fun i => funext (h i)]

@[simp] theorem messagesOf_cvarsChecks (path : String) (c : Node) :
    messagesOf (cvarsChecks path c) = cvarsRules path c := by
  simp [cvarsRules, cvarsChecks]

@[simp] theorem messagesOf_deviceChecks (path : String) (d : Node) :
    messagesOf (deviceChecks path d) = deviceRules path d := by
  simp [deviceRules, deviceChecks]

@[simp] theorem messagesOf_addressChecks (address : String) (k : Key) (a : Node) :
    messagesOf (addressChecks address k a) = addressRules address k a := by
  unfold addressRules addressChecks
  split <;> split <;> simp_all [ite_singleton_text, ← String.toList_inj]

@[simp] theorem messagesOf_ifaceChecks (visit : Visit) (path : String) (i : Node) :
    messagesOf (ifaceChecks visit path i) = ifaceRules visit path i := by
  unfold ifaceRules ifaceChecks
  rcases (i.member "vlan").toOption with _ | v <;> rcases (i.member "lacp").toOption with _ | l <;>
    simp [Function.comp_def, ite_singleton_text]

@[simp] theorem messagesOf_peerGroupChecks (path : String) (p : Node) :
    messagesOf (peerGroupChecks path p) = peerGroupRules path p := by
  unfold peerGroupRules peerGroupChecks
  simp [Function.comp_def]
  -- the limit on prefixes, family by family
  congr 1
  refine List.map_congr_left fun fam _ => ?_
  rcases (((p.member "family").member fam).member "max_prefixes").optInt with _ | n <;>
    simp [ite_singleton_text]

@[simp] theorem messagesOf_bgpChecks (path : String) (b : Node) : messagesOf (bgpChecks path b) = bgpRules path b := by
  unfold bgpRules bgpChecks
  simp only [messagesOf_append]
  congr 1
  congr 1
  congr 1
  · rcases (b.member "options").toOption with _ | o <;> simp
  · -- the address families, one by one
    rcases (b.member "address_family").toOption with _ | af
    · rfl
    · simp only [messagesOf_flatten, List.map_map]
      congr 1
      refine List.map_congr_left fun fam _ => ?_
      dsimp only [Function.comp_apply]
      rcases (af.member fam).toOption with _ | el <;> simp
  · simp
  · -- the neighbors, in address order, each with its timers and its peer group
    rw [messagesOf_flatten, List.map_map]
    congr 1
    refine List.map_congr_left fun x _ => ?_
    rcases x with ⟨a, n⟩
    dsimp only [Function.comp_apply]
    rcases (n.member "timers").toOption with _ | t <;> simp [ite_singleton_text]

@[simp] theorem messagesOf_firewallPolicyChecks (path : String) (p : Node) :
    messagesOf (firewallPolicyChecks path p) = firewallPolicyRules path p := by
  unfold firewallPolicyRules firewallPolicyChecks
  simp only [messagesOf_cons, messagesOf_eachItem, enumCheck_messages]
  congr 1
  refine eachItem_congr fun i r => ?_
  simp
  rcases (r.member "source").toOption with _ | s <;> rcases (r.member "destination").toOption with _ | d <;> simp

@[simp] theorem messagesOf_policyBaseChecks (path : String) (b : Node) :
    messagesOf (policyBaseChecks path b) = policyBaseRules path b := by
  unfold policyBaseRules policyBaseChecks
  rcases b.toOption with _ | base <;> simp

@[simp] theorem messagesOf_firewallChecks (path : String) (f : Node) :
    messagesOf (firewallChecks path f) = firewallRules path f := by
  unfold firewallRules firewallChecks
  rcases (f.member "groups").toOption with _ | g <;> rcases (f.member "state_policy").toOption with _ | s <;>
    rcases (f.member "mss_clamp").toOption with _ | m <;> simp

@[simp] theorem messagesOf_basicRuleChecks (path : String) (r : Node) :
    messagesOf (basicRuleChecks path r) = basicRuleRules path r := by
  simp [basicRuleRules, basicRuleChecks]

@[simp] theorem messagesOf_routeMapRuleChecks (path : String) (r : Node) :
    messagesOf (routeMapRuleChecks path r) = routeMapRuleRules path r := by
  unfold routeMapRuleRules routeMapRuleChecks
  rcases (r.member "match").toOption with _ | m <;> rcases (r.member "set").toOption with _ | s <;>
    simp [apply_ite messagesOf]

@[simp] theorem messagesOf_ruleListChecks (path : String) (lists : Node) (rule : String → Node → List Check) :
    messagesOf (ruleListChecks path lists rule) = ruleListRules path lists fun p r => messagesOf (rule p r) := by
  simp [ruleListRules, ruleListChecks]

@[simp] theorem messagesOf_policyChecks (path : String) (p : Node) :
    messagesOf (policyChecks path p) = policyRules path p := by
  unfold policyRules policyChecks
  rcases (p.member "prefix_lists").toOption with _ | pl <;> rcases (p.member "route_maps").toOption with _ | rm <;>
    simp

@[simp] theorem messagesOf_protocolChecks (path : String) (p : Node) :
    messagesOf (protocolChecks path p) = protocolRules path p := by
  unfold protocolRules protocolChecks
  simp only [messagesOf_append]
  congr 1
  · rcases (p.member "isis").toOption with _ | i <;> simp
  · -- each DHCP network, whose prefix must also be IPv4
    rcases ((p.member "services").member "dhcp_server").toOption with _ | d
    · rfl
    · simp only [messagesOf_cons, messagesOf_eachItem, requiredCheck_messages]
      congr 1
      refine eachItem_congr fun n dn => ?_
      simp
      rcases (dn.member "network").cidr? with _ | pfx
      · simp
      · by_cases h4 : pfx.addr.is4 <;> simp [h4, ← String.toList_inj]

@[simp] theorem messagesOf_setChecks (visit : Visit) (k : Kind) (path : String) (n : Node) :
    messagesOf (setChecks visit k path n) = setRules visit k path n := by
  cases k <;> simp [setChecks, setRules]

/-- The messages of a document's rules are the messages of its instances that do
not hold, one each and in order, each the instance's path followed by what is
wrong. -/
theorem documentRules_eq (visit : Visit) (k : Kind) (doc : Node) :
    documentRules visit k doc = messagesOf (documentChecks visit k doc) := by
  simp [documentRules, documentChecks]

namespace Document

/-- A prepared document passes its rules exactly when every instance holds, and
otherwise fails with the messages of the instances that do not. -/
theorem checkRules_eq (visit : Visit) (k : Kind) (node : Node) :
    checkRules visit k node =
      if ∀ c ∈ documentChecks visit k node, c.fault = none then .ok ⟨k, node⟩
      else .error (.validation (messagesOf (documentChecks visit k node))) := by
  unfold checkRules
  rw [documentRules_eq]
  by_cases hall : ∀ c ∈ documentChecks visit k node, c.fault = none
  · rw [if_pos hall, messagesOf_eq_nil.2 hall]
  · rw [if_neg hall]
    -- some instance fails, so there is a message and the rules report them all
    have hne : messagesOf (documentChecks visit k node) ≠ [] := fun h => hall (messagesOf_eq_nil.1 h)
    split
    · contradiction
    · rfl

end Document

end NetFleet.Column
