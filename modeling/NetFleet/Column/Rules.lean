import NetFleet.Column.Checks
import NetFleet.Column.Kind
import NetFleet.Schema.Shape

/-!
# Column rules

The constraints a decoded column must meet, one function per kind of set
record. Each returns the messages of all violations in a fixed order: members
in the order listed below, dictionary entries by key, list items by position.
BGP neighbors go in address order. The addresses of an interface are the one
dictionary that is visited in an order left open (`Visit`); the rules are run
with them in key order (`keyOrder`).

Before the rules run, `applyDefaults` fills in what a document may leave out:
a peer group or neighbor without a type is `ebgp`, and IS-IS without an LSP MTU
uses 1471.
-/

namespace NetFleet.Column

open Schema

/-- The entries of a dictionary with text keys, in key order. -/
def textEntries (n : Node) : List (String × Node) :=
  n.entries.map fun (k, v) => (k.render, v)

/-- Messages for every item of a list, with its position. -/
def eachItem {α : Type} (xs : List Node) (f : Nat → Node → List α) : List α :=
  (xs.zipIdx.map fun (x, i) => f i x).flatten

/-- Messages for every entry of a dictionary with text keys. -/
def eachEntry {α : Type} (n : Node) (f : String → Node → List α) : List α :=
  ((textEntries n).map fun (k, v) => f k v).flatten

/-! ### Device -/

/-- Device variables. -/
def cvarsRules (path : String) (c : Node) : List String :=
  checkIPv4 (dot path "ibgp_ipv4") (c.member "ibgp_ipv4").addr? false ++
  checkIPv6 (dot path "ibgp_ipv6") (c.member "ibgp_ipv6").addr? false ++
  checkIPv4 (dot path "router_id") (c.member "router_id").addr? true ++
  checkRange (dot path "local_asn") (c.member "local_asn").num 1 maxASN ++
  checkIPv4 (dot path "primary_ipv4") (c.member "primary_ipv4").addr? true ++
  checkIPv6 (dot path "primary_ipv6") (c.member "primary_ipv6").addr? true ++
  checkRequired (dot path "dns_servers") (!(c.member "dns_servers").isNil) ++
  checkRequired (dot path "znsl_prefixes") (!(c.member "znsl_prefixes").isNil) ++
  ((c.member "znsl_prefixes").items.map fun p => checkNetwork (dot path "znsl_prefixes") p.cidr?).flatten

/-- One device. -/
def deviceRules (path : String) (d : Node) : List String :=
  checkRequired (dot path "location") ((d.member "location").str ≠ "") ++
  checkRequired (dot path "providers") (!(d.member "providers").isNil) ++
  checkRequired (dot path "node_name") ((d.member "node_name").str ≠ "") ++
  cvarsRules (dot path "cvars") (d.member "cvars")

/-! ### Interface -/

/-- The types of interface. -/
def interfaceTypes : List String := ["ethernet", "vlan", "lacp", "dummy", "gre", "l2gre"]

/-- An order in which a validator visits the entries of a dictionary that it
ranges over as a Go map, which leaves the order open: given the path of the
dictionary's owner and its entries in key order, the entries as visited. -/
abbrev Visit := String → List (Key × Node) → List (Key × Node)

/-- Entries visited in key order: the order the rules are run in. -/
def keyOrder : Visit := fun _ es => es

/-- One address of an interface: its key must be a prefix, and an address given
a value must carry `meta`. -/
def addressRules (address : String) (k : Key) (a : Node) : List String :=
  let keyText := match k with
    | .cidr (some p) => p.render
    | _ => "invalid Prefix"
  (match k with
    | .cidr (some _) => []
    | _ => [address ++ ": invalid interface address"]) ++
  (match a with
    | .some rec => if (rec.member "meta").isNil then [dot (entry address keyText) "meta" ++ ": field required"] else []
    | _ => [])

/-- One interface, its addresses visited in the order `visit` gives. -/
def ifaceRules (visit : Visit) (path : String) (i : Node) : List String :=
  let address := dot path "address"
  checkEnum (dot path "type") (i.member "type").str interfaceTypes ++
  checkOptRange (dot path "mtu") (i.member "mtu").optInt 1280 9192 ++
  checkOptRange (dot path "ttl") (i.member "ttl").optInt 1 255 ++
  checkIPv4 (dot path "key") (i.member "key").addr? false ++
  ((visit path (i.member "address").entries).map fun (k, a) => addressRules address k a).flatten ++
  (match (i.member "vlan").toOption with
    | some v =>
      checkRange (dot (dot path "vlan") "id") (v.member "id").num 1 4095 ++
      checkRequired (dot (dot path "vlan") "parent") ((v.member "parent").str ≠ "")
    | none => []) ++
  (if (i.member "type").str = "vlan" ∧ (i.member "vlan").isNil then
    [dot path "vlan" ++ ": required for vlan interfaces"] else []) ++
  (match (i.member "lacp").toOption with
    | some l =>
      let p := dot path "lacp"
      checkEnum (dot p "hash_policy") (l.member "hash_policy").str ["layer2+3", "layer3+4"] ++
      checkEnum (dot p "rate") (l.member "rate").str ["fast", "slow"] ++
      checkRange (dot p "min_links") (l.member "min_links").num 1 5 ++
      checkRequired (dot p "members") (!(l.member "members").isNil)
    | none => [])

/-! ### BGP -/

/-- The configured address families of a peer's `family` record, in order. -/
def familyNames (f : Node) : List String :=
  (if (f.member "ipv4").isNil then [] else ["ipv4"]) ++
  (if (f.member "ipv6").isNil then [] else ["ipv6"])

/-- A peer group, or the peer-group part of a neighbor. -/
def peerGroupRules (path : String) (p : Node) : List String :=
  checkEnum (dot path "type") (p.member "type").str ["ibgp", "ebgp"] ++
  checkOptRange (dot path "multihop") (p.member "multihop").optInt 1 255 ++
  checkOptRange (dot path "remote_asn") (p.member "remote_asn").optInt 1 maxASN ++
  ((familyNames (p.member "family")).map fun fam =>
    match ((p.member "family").member fam |>.member "max_prefixes").optInt with
    | some n =>
      if n < 1 then [dot (dot (dot path "family") fam) "max_prefixes" ++
        ": must be at least 1, got " ++ toString n] else []
    | none => []).flatten

/-- The address a dictionary key holds; unset for a key that is no address. -/
def keyAddr : Key → Option Net.Addr
  | .addr a => a
  | _ => none

/-- The order of neighbor addresses: the unset address first, then by address. -/
def neighborBefore : Option Net.Addr → Option Net.Addr → Bool
  | none, _ => true
  | some _, none => false
  | some a, some c => Net.Addr.compare a c != .gt

/-- The neighbors of a set in address order. -/
def neighborsInOrder (b : Node) : List (Option Net.Addr × Node) :=
  ((b.member "neighbors").entries.map fun (k, v) => (keyAddr k, v)).mergeSort
    fun x y => neighborBefore x.1 y.1

/-- The BGP configuration of one set. -/
def bgpRules (path : String) (b : Node) : List String :=
  (match (b.member "options").toOption with
    | some o =>
      let p := dot path "options"
      checkRange (dot p "asn") (o.member "asn").num 1 maxASN ++
      checkOptRange (dot p "hold_time") (o.member "hold_time").optInt 15 180 ++
      checkOptRange (dot p "keepalive_time") (o.member "keepalive_time").optInt 5 60 ++
      checkIPv4 (dot p "router_id") (o.member "router_id").addr? true ++
      checkIPv4 (dot p "cluster_id") (o.member "cluster_id").addr? false
    | none => []) ++
  (match (b.member "address_family").toOption with
    | some af =>
      (["ipv4", "ipv6"].map fun fam =>
        match (af.member fam).toOption with
        | some el =>
          let p := dot (dot path "address_family") fam
          checkRequired (dot p "redistribute") (!(el.member "redistribute").isNil) ++
          ((el.member "networks").items.map fun n => checkNetwork (dot p "networks") n.cidr?).flatten
        | none => []).flatten
    | none => []) ++
  eachEntry (b.member "peer_groups") (fun name pg => peerGroupRules (entry (dot path "peer_groups") name) pg) ++
  ((neighborsInOrder b).map fun (a, n) =>
    let np := entry (dot path "neighbors") ((a.map Net.Addr.render).getD "invalid IP")
    peerGroupRules np n ++
    (match (n.member "timers").toOption with
      | some t =>
        checkRange (dot (dot np "timers") "holdtime") (t.member "holdtime").num 15 3000 ++
        checkRange (dot (dot np "timers") "keepalive") (t.member "keepalive").num 5 1000
      | none => []) ++
    (let pg := (n.member "peer_group").str
     let groups := b.member "peer_groups"
     if pg ≠ "" ∧ !groups.isNil ∧ !(textEntries groups).any (·.1 = pg) then
       [dot np "peer_group" ++ ": unknown peer group " ++ Text.quote pg]
     else [])).flatten

/-! ### Firewall -/

/-- Firewall actions of a policy or state policy. -/
def acceptOrDrop : List String := ["accept", "drop"]

/-- One firewall policy. -/
def firewallPolicyRules (path : String) (p : Node) : List String :=
  checkEnum (dot path "default_action") (p.member "default_action").str acceptOrDrop ++
  eachItem (p.member "rules").items fun i r =>
    let rp := entry (dot path "rules") (toString i)
    checkEnum (dot rp "action") (r.member "action").str ["accept", "drop", "jump"] ++
    ((r.member "state").items.map fun s => checkEnum (dot rp "state") s.str ["established", "related"]).flatten ++
    ((["source", "destination"].map fun side =>
      match (r.member side).toOption with
      | some t => ((t.member "port").items.map fun port => checkRange (dot rp "port") port.num 0 65535).flatten
      | none => []).flatten)

/-- Policies per family. -/
def policyBaseRules (path : String) (b : Node) : List String :=
  match b.toOption with
  | some base =>
    (["ipv4", "ipv6"].map fun fam =>
      eachEntry (base.member fam) fun name p => firewallPolicyRules (entry (dot path fam) name) p).flatten
  | none => []

/-- The firewall of one set. -/
def firewallRules (path : String) (f : Node) : List String :=
  policyBaseRules (dot path "policies") (f.member "policies") ++
  policyBaseRules (dot path "policy_base") (f.member "policy_base") ++
  (match (f.member "groups").toOption with
    | some g =>
      (["ipv4", "ipv6"].map fun fam =>
        eachEntry (g.member fam) fun name grp =>
          let gp := entry (dot (dot path "groups") fam) name
          checkEnum (dot gp "type") (grp.member "type").str ["network"] ++
          checkRequired (dot gp "networks") (!(grp.member "networks").isNil)).flatten
    | none => []) ++
  (match (f.member "state_policy").toOption with
    | some s =>
      checkEnum (dot (dot path "state_policy") "established") (s.member "established").str acceptOrDrop ++
      checkEnum (dot (dot path "state_policy") "related") (s.member "related").str acceptOrDrop
    | none => []) ++
  (match (f.member "mss_clamp").toOption with
    | some m =>
      let p := dot path "mss_clamp"
      checkRange (dot p "ipv4") (m.member "ipv4").num 556 9172 ++
      checkRange (dot p "ipv6") (m.member "ipv6").num 1280 9172 ++
      checkRequired (dot p "interfaces") (!(m.member "interfaces").isNil)
    | none => []) ++
  eachEntry (f.member "zone_policy") fun name zp =>
    let p := entry (dot path "zone_policy") name
    checkEnum (dot p "default_action") (zp.member "default_action").str acceptOrDrop ++
    eachItem (zp.member "from").items fun i r =>
      checkRequired (dot (entry (dot p "from") (toString i)) "zone") ((r.member "zone").str ≠ "")

/-! ### Policy -/

/-- A permit or deny rule with a regular expression. -/
def basicRuleRules (path : String) (r : Node) : List String :=
  checkEnum (dot path "action") (r.member "action").str ["permit", "deny"] ++
  checkRequired (dot path "regex") ((r.member "regex").str ≠ "")

/-- A route-map rule. -/
def routeMapRuleRules (path : String) (r : Node) : List String :=
  checkEnum (dot path "action") (r.member "action").str ["permit", "deny"] ++
  checkRange (dot path "number") (r.member "number").num 0 999 ++
  checkOptRange (dot path "continue") (r.member "continue").optInt 0 999 ++
  (match (r.member "match").toOption with
    | some m =>
      let rpki := (m.member "rpki").str
      if rpki ≠ "" then checkEnum (dot (dot path "match") "rpki") rpki ["notfound", "valid", "invalid"] else []
    | none => []) ++
  (match (r.member "set").toOption with
    | some s =>
      checkOptRange (dot (dot path "set") "local_pref") (s.member "local_pref").optInt 0 255 ++
      checkOptRange (dot (dot path "set") "as_path_exclude") (s.member "as_path_exclude").optInt 1 maxASN
    | none => [])

/-- The lists of rules under a name, which must have a rule list. -/
def ruleListRules (path : String) (lists : Node) (rule : String → Node → List String) : List String :=
  eachEntry lists fun name l =>
    let lp := entry path name
    checkRequired (dot lp "rules") (!(l.member "rules").isNil) ++
    eachItem (l.member "rules").items fun i r => rule (entry (dot lp "rules") (toString i)) r

/-- The routing policy of one set. -/
def policyRules (path : String) (p : Node) : List String :=
  (match (p.member "prefix_lists").toOption with
    | some pl =>
      (["ipv4", "ipv6"].map fun fam =>
        ruleListRules (dot (dot path "prefix_lists") fam) (pl.member fam) fun rp r =>
          checkOptRange (dot rp "le") (r.member "le").optInt 0 128 ++
          checkOptRange (dot rp "ge") (r.member "ge").optInt 0 128 ++
          checkNetwork (dot rp "prefix") (r.member "prefix").cidr?).flatten
    | none => []) ++
  (match (p.member "route_maps").toOption with
    | some rm =>
      (["ipv4", "ipv6"].map fun fam =>
        ruleListRules (dot (dot path "route_maps") fam) (rm.member fam) routeMapRuleRules).flatten
    | none => []) ++
  ruleListRules (dot path "aspath_lists") (p.member "aspath_lists") basicRuleRules ++
  ruleListRules (dot path "community_lists") (p.member "community_lists") basicRuleRules

/-! ### Protocol -/

/-- The protocols of one set. -/
def protocolRules (path : String) (p : Node) : List String :=
  (match (p.member "isis").toOption with
    | some i =>
      let ip := dot path "isis"
      checkOptRange (dot ip "level") (i.member "level").optInt 1 3 ++
      checkOptRange (dot ip "lsp_mtu") (i.member "lsp_mtu").optInt 1200 9200 ++
      checkRequired (dot ip "iso") ((i.member "iso").str ≠ "") ++
      checkRequired (dot ip "interfaces") (!(i.member "interfaces").isNil) ++
      eachItem (i.member "interfaces").items fun n iface =>
        checkRequired (dot (entry (dot ip "interfaces") (toString n)) "name") ((iface.member "name").str ≠ "")
    | none => []) ++
  (match ((p.member "services").member "dhcp_server").toOption with
    | some d =>
      let dp := dot (dot path "services") "dhcp_server"
      checkRequired (dot dp "networks") (!(d.member "networks").isNil) ++
      eachItem (d.member "networks").items fun n dn =>
        let np := entry (dot dp "networks") (toString n)
        let net := (dn.member "network").cidr?
        checkIPv4 (dot np "router_ip") (dn.member "router_ip").addr? true ++
        checkNetwork (dot np "network") net ++
        (match net with
          | some pfx => if pfx.addr.is4 then [] else
              [dot np "network" ++ ": must be an IPv4 network, got " ++ pfx.render]
          | none => []) ++
        checkRequired (dot np "ranges") (!(dn.member "ranges").isNil) ++
        eachItem (dn.member "ranges").items fun r rng =>
          let rp := entry (dot np "ranges") (toString r)
          checkIPv4 (dot rp "start_address") (rng.member "start_address").addr? true ++
          checkIPv4 (dot rp "end_address") (rng.member "end_address").addr? true
    | none => [])

/-! ### Whole columns -/

/-- The rules of one set record of a column; `visit` orders the addresses of
each interface. -/
def setRules (visit : Visit) : Kind → String → Node → List String
  | .device, path, n => deviceRules path n
  | .iface, path, n => eachEntry n fun name i => ifaceRules visit (entry path name) i
  | .bgp, path, n => bgpRules path n
  | .firewall, path, n => firewallRules path n
  | .policy, path, n => policyRules path n
  | .protocol, path, n => protocolRules path n

/-- The rules of a whole column document: the column must be present, and each
set, in order of set id, must meet its kind's rules. -/
def documentRules (visit : Visit) (k : Kind) (doc : Node) : List String :=
  let column := doc.member "column"
  checkRequired "column" (!column.isNil) ++
  eachEntry column fun id s => setRules visit k (entry "column" id) s

/-! ### Defaults -/

/-- A peer group or neighbor with its type filled in. -/
def defaultPeerType (n : Node) : Node :=
  match n with
  | .record fs =>
    .record (fs.map fun (k, v) => if k = "type" ∧ v.str = "" then (k, .text "ebgp") else (k, v))
  | other => other

/-- A set record with defaults filled in. -/
def setDefaults : Kind → Node → Node
  | .bgp, .record fs =>
    .record (fs.map fun (k, v) =>
      if k = "peer_groups" ∨ k = "neighbors" then
        match v with
        | .dict es => (k, .dict (es.map fun (key, n) => (key, defaultPeerType n)))
        | other => (k, other)
      else (k, v))
  | .protocol, .record fs =>
    .record (fs.map fun (k, v) =>
      if k = "isis" then
        match v with
        | .some (.record ifs) =>
          (k, .some (.record (ifs.map fun (k', v') =>
            if k' = "lsp_mtu" ∧ v'.isNil then (k', .some (.int 1471)) else (k', v'))))
        | other => (k, other)
      else (k, v))
  | _, n => n

/-- A column document with defaults filled in for every set. -/
def applyDefaults (k : Kind) (doc : Node) : Node :=
  match doc with
  | .record fs =>
    .record (fs.map fun (name, v) =>
      if name = "column" then
        match v with
        | .dict es => (name, .dict (es.map fun (id, s) => (id, setDefaults k s)))
        | other => (name, other)
      else (name, v))
  | other => other

end NetFleet.Column
