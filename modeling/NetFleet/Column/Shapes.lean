import NetFleet.Schema.Shape
import NetFleet.Column.Kind

/-!
# The shapes of the six columns

Each column document is a record with an optional `meta` object, the column's
kind under `column_type`, and the sets under `column`. Every record of a column
also has the free-form `meta` object, written only when not empty.

Device `cvars` is an open record: members it does not declare are kept.
-/

namespace NetFleet.Column

open Schema

/-- The free-form `meta` object every record has, written only when not empty. -/
def metaMember : Member := .mk "meta" .empty (.dict .text .any)

/-- Text written always. -/
def text (n : String) : Member := .mk n .never (.text "string")

/-- Text written only when not empty. -/
def textE (n : String) : Member := .mk n .empty (.text "string")

/-- A flag written only when set. -/
def flagE (n : String) : Member := .mk n .empty .flag

/-- A whole number written always. -/
def int (n : String) : Member := .mk n .never (.int "int")

/-- An optional whole number. -/
def optInt (n : String) : Member := .mk n .empty (.opt (.int "int"))

/-- An optional 64-bit whole number. -/
def optInt64 (n : String) : Member := .mk n .empty (.opt (.int "int64"))

/-- An optional flag. -/
def optFlag (n : String) : Member := .mk n .empty (.opt .flag)

/-- An address written always. -/
def addr (n : String) : Member := .mk n .never .addr

/-- An address written only when set. -/
def addrZ (n : String) : Member := .mk n .zero .addr

/-- A list of text written always. -/
def texts (n : String) : Member := .mk n .never (.list (.text "string"))

/-- A list of text written only when not empty. -/
def textsE (n : String) : Member := .mk n .empty (.list (.text "string"))

/-- An optional record. -/
def optRec (n : String) (s : Shape) : Member := .mk n .empty (.opt s)

/-- A record type of the column package with `meta` first. -/
def rec (n : String) (ms : List Member) : Shape := .record ("column." ++ n) (metaMember :: ms)

/-! ### Device -/

/-- The names `cvars` declares. -/
def cvarsMembers : List Member :=
  [metaMember, addrZ "ibgp_ipv4", addrZ "ibgp_ipv6", textE "iso", addr "router_id",
   .mk "local_asn" .never (.int "int64"), addr "primary_ipv4", addr "primary_ipv6",
   .mk "dns_servers" .never (.list .addr), .mk "znsl_prefixes" .never (.list .cidr)]

/-- Device variables. -/
def cvars : Shape := .openRecord "column.DeviceCVars" "deviceCVarsFields" cvarsMembers

/-- One device. -/
def deviceRecord : Shape :=
  rec "Device" [text "location", texts "providers", textsE "roles", text "node_name",
    .mk "cvars" .never cvars]

/-! ### Interface -/

/-- An address entry of an interface. -/
def interfaceAddress : Shape :=
  .record "column.InterfaceAddress" [.mk "meta" .never (.dict .text .any)]

/-- A policy reference per family. -/
def interfacePolicy : Shape := rec "InterfacePolicy" [textE "ipv4", textE "ipv6"]

/-- One interface. -/
def ifaceRecord : Shape :=
  rec "Interface"
    [text "type", flagE "disabled", flagE "offload", flagE "use_dhcp", flagE "ipv6_autoconf",
     textE "description", textE "interface", textE "mac_address", textE "vrf",
     optInt "mtu", optInt "ttl", addrZ "key", addrZ "remote", addrZ "source",
     .mk "address" .empty (.dict .cidr (.opt interfaceAddress)),
     optRec "vlan" (rec "InterfaceVLAN" [int "id", text "parent"]),
     optRec "lacp" (rec "InterfaceLACP" [text "hash_policy", text "rate", int "min_links", texts "members"]),
     optRec "firewall" (rec "InterfaceFirewall"
       [optRec "local" interfacePolicy, optRec "egress" interfacePolicy, optRec "ingress" interfacePolicy]),
     optRec "policy" interfacePolicy]

/-! ### BGP -/

/-- The route maps of one address family of a peer. -/
def bgpRouteMap : Shape := rec "BGPRouteMap" [textE "import", textE "export"]

/-- Options of one address family of a peer. -/
def bgpFamilyOptions : Shape :=
  rec "BGPFamilyOptions"
    [optFlag "nhs", optInt "max_prefixes", optFlag "route_reflector", optFlag "default_originate",
     optRec "route_map" bgpRouteMap]

/-- The members a peer group declares, after `meta`. -/
def peerGroupMembers : List Member :=
  [textE "type", addrZ "source",
   optRec "family" (rec "BGPFamily" [optRec "ipv4" bgpFamilyOptions, optRec "ipv6" bgpFamilyOptions]),
   optInt "multihop", textE "password", optInt64 "remote_asn"]

/-- A peer group. -/
def peerGroup : Shape := rec "BGPPeerGroup" peerGroupMembers

/-- A neighbor: a peer group's members and its own. -/
def neighbor : Shape :=
  rec "BGPNeighbor" (peerGroupMembers ++
    [textE "peer_group", optRec "timers" (rec "BGPTimers" [int "holdtime", int "keepalive"]),
     optFlag "reject_in", optFlag "reject_out"])

/-- One address family of the BGP process. -/
def bgpAddressFamilyElement : Shape :=
  rec "BGPAddressFamilyElement" [.mk "networks" .empty (.list .cidr), texts "redistribute"]

/-- The BGP configuration of one set. -/
def bgpRecord : Shape :=
  rec "BGP"
    [optRec "options" (rec "BGPOptions"
       [.mk "asn" .never (.int "int64"), optInt "hold_time", optInt "keepalive_time",
        flagE "log_neighbor_changes", addr "router_id", addrZ "cluster_id"]),
     optRec "address_family" (rec "BGPAddressFamily"
       [optRec "ipv4" bgpAddressFamilyElement, optRec "ipv6" bgpAddressFamilyElement]),
     .mk "peer_groups" .empty (.dict .text peerGroup),
     .mk "neighbors" .empty (.dict .addr neighbor)]

/-! ### Firewall -/

/-- A rule set of a firewall policy. -/
def firewallPolicy : Shape :=
  let target := rec "FirewallPolicyTarget" [textE "network_group", .mk "port" .empty (.list (.int "int"))]
  rec "FirewallPolicy"
    [text "default_action",
     .mk "rules" .empty (.list (rec "FirewallPolicyRule"
       [text "action", textsE "state", optRec "source" target, optRec "destination" target,
        textE "protocol", textE "policy",
        optRec "interfaces" (rec "FirewallPolicyInterfaces" [textE "ingress", textE "egress"])]))]

/-- Policies per family. -/
def firewallPolicyBase : Shape :=
  rec "FirewallPolicyBase"
    [.mk "ipv4" .empty (.dict .text firewallPolicy), .mk "ipv6" .empty (.dict .text firewallPolicy)]

/-- The firewall of one set. -/
def firewallRecord : Shape :=
  let group := rec "FirewallGroup" [text "type", .mk "networks" .never (.list .cidr)]
  rec "Firewall"
    [optRec "policies" firewallPolicyBase,
     optRec "groups" (rec "FirewallGroupBase"
       [.mk "ipv4" .empty (.dict .text group), .mk "ipv6" .empty (.dict .text group)]),
     optRec "state_policy" (rec "FirewallStatePolicy" [text "established", text "related"]),
     optRec "mss_clamp" (rec "FirewallMSSClamp" [int "ipv4", int "ipv6", texts "interfaces"]),
     .mk "zone_policy" .empty (.dict .text (rec "FirewallZonePolicy"
       [.mk "from" .empty (.list (rec "FirewallZoneRule"
          [textE "ipv4_ruleset", textE "ipv6_ruleset", text "zone"])),
        textsE "interfaces", text "default_action"])),
     optRec "options" (rec "FirewallOptions"
       (["all-ping", "broadcast-ping", "config-trap", "ipv6-receive-redirects", "ipv6-src-route",
         "log-martians", "send-redirects", "source-validation", "syn-cookies",
         "twa-hazards-protection", "ip-src-route", "receive-redirects"].map textE)),
     optRec "policy_base" firewallPolicyBase]

/-! ### Policy -/

/-- A permit or deny rule matching a regular expression. -/
def basicRule : Shape := rec "PolicyBasicRule" [text "action", textE "description", text "regex"]

/-- The routing policy of one set. -/
def policyRecord : Shape :=
  let prefixList := rec "PolicyPrefixList"
    [.mk "rules" .never (.list (rec "PolicyPrefixListRule"
      [optInt "le", optInt "ge", .mk "prefix" .never .cidr]))]
  let routeMap := rec "PolicyRouteMap"
    [.mk "rules" .never (.list (rec "PolicyRouteMapRule"
      [text "action",
       optRec "match" (rec "PolicyRouteMapMatch"
         [textE "prefix_list", textE "community_list", textE "as_path", textE "rpki"]),
       optRec "set" (rec "PolicyRouteMapSet"
         [optInt "local_pref", optInt64 "as_path_exclude", addrZ "next_hop", textE "origin",
          textE "community", textE "large_community"]),
       int "number", optInt "continue"]))]
  rec "Policy"
    [optRec "prefix_lists" (rec "PolicyPrefixListBase"
       [.mk "ipv4" .empty (.dict .text prefixList), .mk "ipv6" .empty (.dict .text prefixList)]),
     optRec "route_maps" (rec "PolicyRouteMapBase"
       [.mk "ipv4" .empty (.dict .text routeMap), .mk "ipv6" .empty (.dict .text routeMap)]),
     .mk "aspath_lists" .empty (.dict .text (rec "PolicyASPath"
       [textE "description", .mk "rules" .never (.list basicRule)])),
     .mk "community_lists" .empty (.dict .text (rec "PolicyCommunity"
       [textE "description", .mk "rules" .never (.list basicRule)]))]

/-! ### Protocol -/

/-- The IS-IS process of one set. -/
def isisRecord : Shape :=
  let redistributeLevel := rec "ISISRedistributeLevel"
    [optRec "level_1" (rec "ISISRedistributeMap" [textE "connected_map", textE "static_map"]),
     optRec "level_2" (rec "ISISRedistributeMap" [textE "connected_map", textE "static_map"])]
  rec "ISIS"
    [optInt "level", optInt "lsp_mtu", text "iso",
     .mk "interfaces" .never (.list (rec "ISISInterface" [text "name", .mk "passive" .never .flag])),
     optRec "redistribute" (rec "ISISRedistributePolicy"
       [optRec "ipv4" redistributeLevel, optRec "ipv6" redistributeLevel])]

/-- The protocols of one set. -/
def protocolRecord : Shape :=
  rec "Protocol"
    [optRec "isis" isisRecord,
     optRec "lldp" (rec "LLDP" [textsE "interfaces"]),
     optRec "services" (rec "Services"
       [optRec "dhcp_server" (rec "DHCPServer"
         [.mk "networks" .never (.list (rec "DHCPNetwork"
           [addr "router_ip", .mk "network" .never .cidr,
            .mk "ranges" .never (.list (rec "DHCPRange" [addr "start_address", addr "end_address"]))]))])])]

/-! ### Documents -/

/-- The shape of one set's record. -/
def Kind.setShape : Kind → Shape
  | .device => deviceRecord
  | .iface => .dict .text ifaceRecord
  | .bgp => bgpRecord
  | .firewall => firewallRecord
  | .policy => policyRecord
  | .protocol => protocolRecord

/-- The name of a column document's record type. -/
def Kind.documentName : Kind → String
  | .device => "DeviceContainer"
  | .iface => "InterfaceContainer"
  | .bgp => "BGPContainer"
  | .firewall => "FirewallContainer"
  | .policy => "PolicyContainer"
  | .protocol => "ProtocolContainer"

/-- The shape of a whole column document. -/
def Kind.documentShape (k : Kind) : Shape :=
  .record ("column." ++ k.documentName)
    [metaMember, .mk "column_type" .never (.text "column.Type"),
     .mk "column" .never (.dict .text k.setShape)]

end NetFleet.Column
