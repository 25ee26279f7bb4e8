import NetFleet.Control.Toggle
import NetFleet.Column.Shapes
import NetFleet.Schema.Encode
import NetFleet.Text.Pad

/-!
# BGP peers

The managed peers of a router are the neighbors of its BGP set, in address
order (IPv4 before IPv6, then by number). A peer carries the address families
of its peer group when the group names any, else its own; it also keeps its
own route maps per family, which enabling it restores.

* Disabling a peer sets the `REJECT-ALL` route map for import and export on
  each of its families; enabling it deletes the route maps of each family and
  sets the peer's own again (the shipped templates `bgp/disable` and
  `bgp/enable`). A peer is named by any spelling of its address.
* The summary shows the router's BGP summary for a family (`ipv4`, `ipv6`, or
  `both`), with the managed peers that carry the family as the comment.
-/

namespace NetFleet.Control

open NetFleet (Json Fault Reply)
open NetFleet.Schema (Node)

/-- A managed BGP peer. -/
structure Peer where
  address : String
  peerGroup : String := ""
  families : List String
  /-- the peer's own route maps, by family -/
  routeMaps : List (String × Node) := []

/-- The families a family block names: `ipv4` and `ipv6`, when present. -/
def familyNames (family : Node) : List String :=
  ["ipv4", "ipv6"].filter fun f => !(family.member f).isNil

/-- The peer of the neighbor `n` at address `a`, the unset address written
`invalid IP`; it carries the families of its group among `groups` when the group
names any. -/
def Peer.ofNeighbor (groups : List (Schema.Key × Node)) (a : Option Net.Addr) (n : Node) : Peer :=
  let group := (n.member "peer_group").str
  let own := n.member "family"
  let families := match groups.find? (·.1 == .text group) with
    | some (_, g) => if (g.member "family").isNil then familyNames own else familyNames (g.member "family")
    | none => familyNames own
  let routeMaps := (familyNames own).filterMap fun f =>
    match ((own.member f).member "route_map").toOption with
    | some rm => some (f, rm.deref)
    | none => none
  { address := (a.map Net.Addr.render).getD "invalid IP", peerGroup := group, families, routeMaps }

/-- The peers of a BGP set, in address order. -/
def peersOf (bgp : Node) : List Peer :=
  (Column.neighborsInOrder bgp).map fun e => Peer.ofNeighbor (bgp.member "peer_groups").entries e.1 e.2

/-- A peer as JSON; an empty peer group and no route maps are left out. -/
def Peer.toJson (p : Peer) : Json :=
  Json.obj ([("address", Json.str p.address)] ++
    (if p.peerGroup = "" then [] else [("peer_group", Json.str p.peerGroup)]) ++
    [("families", Json.strs p.families)] ++
    (if p.routeMaps.isEmpty then []
     else [("route_maps", Json.obj (p.routeMaps.map fun (f, rm) => (f, Schema.encode Column.bgpRouteMap rm)))]))

/-- The peer an address names: any spelling of the address is accepted. -/
def findPeer (peers : List Peer) (addr : String) : Option Peer :=
  let addr := match Net.Addr.parse addr with
    | .ok a => a.render
    | .error _ => addr
  peers.find? (·.address = addr)

/-- The data of the peer templates: the peer, its families, and its own route
maps with their import and export maps. -/
def Peer.templateData (p : Peer) : Template.Data :=
  .map [("families", .list (p.families.map .str)),
    ("peer", .str p.address),
    ("route_maps", .map (p.routeMaps.map fun (f, rm) =>
      (f, .map [("Export", .str (rm.member "export").str), ("Import", .str (rm.member "import").str)])))]

/-- The line of a peer in the summary's listing. -/
def Peer.summaryLine (p : Peer) (disabled : List String) : String :=
  Text.padRight p.address 30 ++ " " ++ Text.padRight p.peerGroup 20 ++
    (if disabled.contains p.address then "\t[disabled]" else "")

variable {m : Type → Type} [Monad m]

namespace Station

/-- The router's BGP set. -/
def bgp (s : Station m) : Op m (Except Fault Node) := s.setOf .bgp

/-- The router's BGP set as the inventory holds it. -/
def generateBGP (s : Station m) : Op m Reply := do
  match ← s.bgp with
  | .error f => return faultReply f
  | .ok b => return Reply.ok "" (some (.data (Schema.encode Column.bgpRecord b)))

/-- The managed BGP peers. -/
def peers (s : Station m) : Op m (Except Fault (List Peer)) := do
  return (← s.bgp).map peersOf

/-- Enable (`disable = false`) or disable a BGP peer. -/
def togglePeer (s : Station m) (peer : String) (disable : Bool) (opts : Options) : Op m Reply := do
  let (operation, verb) := if disable then ("bgp.disable", "disable") else ("bgp.enable", "enable")
  let refusal := if disable
    then "BGP peer already marked as disabled in REDIS. Use force=true to commit anyway."
    else "BGP peer not marked as disabled in REDIS. Use force=true to commit anyway."
  if let some f := firstUnmet operation peer [selected "BGP peer" peer] then return faultReply f
  match ← s.peers with
  | .error f => return faultReply f
  | .ok list =>
    let found := findPeer list peer
    if let some f := firstUnmet operation peer [managed found.isSome "BGP peer not found." peer] then
      return faultReply f
    let p := found.getD { address := "", families := [] }
    s.apply
      { key := Overlay.bgpKey, entry := p.address, disable, refusal
        request :=
          { name := "bgp/" ++ verb
            vars := p.templateData
            commitComment := verb ++ " BGP peer " ++ p.address } } opts

/-- Enable a BGP peer: restore its own route maps. -/
def enablePeer (s : Station m) (peer : String) (opts : Options) : Op m Reply :=
  s.audit "bgp.enable" peer opts (s.togglePeer peer false opts)

/-- Disable a BGP peer: reject every route in both directions. -/
def disablePeer (s : Station m) (peer : String) (opts : Options) : Op m Reply :=
  s.audit "bgp.disable" peer opts (s.togglePeer peer true opts)

/-- The router's BGP summary for a family, with the managed peers that carry
it as the comment. -/
def bgpSummary (s : Station m) (family : String) : Op m Reply := do
  let (family, cmd) ← match family with
    | "" | "both" => pure ("both", "show bgp summary")
    | "ipv4" => pure ("ipv4", "show ip bgp summary")
    | "ipv6" => pure ("ipv6", "show ipv6 bgp summary")
    | _ => return Reply.fail "unsupported address family."
  s.display cmd do
    match ← s.peers with
    | .error _ => return .unreachable
    | .ok list =>
      match ← s.disabled Overlay.bgpKey with
      | .error f => return .failed f
      | .ok names =>
        let shown := list.filter fun p => family = "both" || p.families.contains family
        return .text (managedList "salt managed peers" (shown.map (·.summaryLine names)) [])

end Station

end NetFleet.Control
