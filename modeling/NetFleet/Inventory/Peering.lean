import NetFleet.Inventory.Desk
import NetFleet.Column.Kind
import NetFleet.Net.Text
import NetFleet.Text.Quoted

/-!
# Peering sessions

Jobs on the peering manager connector: routing policies, autonomous systems,
and direct eBGP sessions, each change synchronized into the inventory by the
connector. Writes are audited with the session's device and, where the request
names one, the neighbor address as target.

* An AS number must lie in `[1, 4294967295]` (a validation failure otherwise).
* A new direct session needs a device, a remote address and a peer AS; its
  type defaults to `transit-session` and its local AS to `defaultLocalASN`.
* An update of a session ignores its peer AS, type and local AS.
* A session's status is `enabled` or `maintenance`.
-/

namespace NetFleet.Inventory

open NetFleet (Json Fault Reply)

/-- A routing policy. -/
structure Policy where
  name : String := ""
  kind : String := ""
  family : String := ""
  weight : Option Int := none
  comment : String := ""

/-- A policy as the connector takes it. -/
def Policy.toJson (p : Policy) : Json :=
  Json.obj ([("name", Json.str p.name), ("type", Json.str p.kind), ("family", Json.str p.family)] ++
    (match p.weight with | some w => [("weight", Json.num (toString w))] | none => []) ++
    (if p.comment = "" then [] else [("comment", Json.str p.comment)]))

/-- An autonomous system. -/
structure AutonomousSystem where
  asn : Int := 0
  name : String := ""
  comment : String := ""
  ipv4PrefixLimit : Option Int := none
  ipv6PrefixLimit : Option Int := none

/-- An autonomous system as the connector takes it. -/
def AutonomousSystem.toJson (a : AutonomousSystem) : Json :=
  Json.obj ([("asn", Json.num (toString a.asn)), ("name", Json.str a.name)] ++
    (if a.comment = "" then [] else [("comment", Json.str a.comment)]) ++
    (match a.ipv4PrefixLimit with | some n => [("ipv4_prefix_limit", Json.num (toString n))] | none => []) ++
    (match a.ipv6PrefixLimit with | some n => [("ipv6_prefix_limit", Json.num (toString n))] | none => []))

/-- A direct (not exchange) eBGP session. -/
structure Session where
  device : String := ""
  remoteIp : String := ""
  localIp : String := ""
  peerAsn : Int := 0
  importPolicy : String := ""
  exportPolicy : String := ""
  kind : String := ""
  comment : String := ""
  ttl : Option Int := none
  status : String := ""
  localAsn : Int := 0

/-- A session as the connector takes it: empty texts and zero numbers left out. -/
def Session.toJson (s : Session) : Json :=
  let text (k v : String) : List (String × Json) := if v = "" then [] else [(k, Json.str v)]
  let number (k : String) (v : Int) : List (String × Json) := if v = 0 then [] else [(k, Json.num (toString v))]
  Json.obj ([("device", Json.str s.device), ("remote_ip", Json.str s.remoteIp)] ++
    text "local_ip" s.localIp ++ number "peer_asn" s.peerAsn ++
    text "import" s.importPolicy ++ text "export" s.exportPolicy ++
    text "type" s.kind ++ text "comment" s.comment ++
    (match s.ttl with | some t => [("ttl", Json.num (toString t))] | none => []) ++
    text "status" s.status ++ number "local_asn" s.localAsn)

/-- The local AS of new direct sessions. -/
def defaultLocalASN : Int := 36198

/-- The endpoint of the peering manager connector. -/
def peeringEndpoint : String := "connectors/pm/"

/-- A check of an AS number, failing as a validation. -/
def checkedASN (asn : Int) : Except Fault Unit :=
  match Net.checkASN asn with
  | .ok () => .ok ()
  | .error f => .error (.validation [f.message])

variable {m : Type → Type} [Monad m]

/-- A write to the connector, audited with the neighbor (`ip`) as target when
the request names one, else the endpoint. -/
def Desk.peeringWrite (d : Desk m) (operation setId method endpoint : String) (data : Option Json)
    (params : List (String × List String)) (test verbose : Bool) : Job m Reply := do
  let r ← d.callUtil method (peeringEndpoint ++ endpoint) data params test
  let target := match params.lookup "ip" with
    | some (ip :: _) => if ip = "" then endpoint else ip
    | _ => endpoint
  d.record operation setId target test r
  return terse r verbose

/-- The direct sessions in the inventory's shape. -/
def Desk.directSessions (d : Desk m) : Job m Reply :=
  d.callUtil "GET" (peeringEndpoint ++ "sessions/direct") none [] true

/-- The exchange sessions in the inventory's shape. -/
def Desk.exchangeSessions (d : Desk m) : Job m Reply :=
  d.callUtil "GET" (peeringEndpoint ++ "sessions/ixp") none [] true

/-- Replace the connector's data in the bgp column; quiet unless `verbose`. -/
def Desk.reloadSessions (d : Desk m) (verbose test : Bool) : Job m Reply :=
  d.peeringWrite "pm.reload" "" "POST" "sessions/reload" none [] test verbose

/-- Set the status of a session. -/
def Desk.setSessionStatus (d : Desk m) (device neighbor status : String) (test : Bool) : Job m Reply := do
  if status ≠ "enabled" && status ≠ "maintenance" then
    return Reply.fail ("unsupported session status " ++ Text.quote status)
  let device := Column.normalizeSetId device
  d.peeringWrite "pm.status" device "PUT" "sessions/status" none
    [("device", [device]), ("ip", [neighbor]), ("status", [status])] test true

/-- Add a routing policy. -/
def Desk.createPolicy (d : Desk m) (p : Policy) (test : Bool) : Job m Reply :=
  d.peeringWrite "pm.policy.create" "" "POST" "policy" (some p.toJson) [] test true

/-- Delete a routing policy. -/
def Desk.deletePolicy (d : Desk m) (name : String) (test : Bool) : Job m Reply :=
  d.peeringWrite "pm.policy.delete" "" "DELETE" "policy" none [("name", [name])] test true

/-- Add an autonomous system. -/
def Desk.createASN (d : Desk m) (a : AutonomousSystem) (test : Bool) : Job m Reply :=
  match checkedASN a.asn with
  | .error f => pure (Reply.ofFault (some f))
  | .ok () => d.peeringWrite "pm.asn.create" "" "POST" "asn" (some a.toJson) [] test true

/-- Refresh an autonomous system from the peering database. -/
def Desk.syncASN (d : Desk m) (asn : Int) (test : Bool) : Job m Reply :=
  match checkedASN asn with
  | .error f => pure (Reply.ofFault (some f))
  | .ok () => d.peeringWrite "pm.asn.sync" "" "POST" ("asn/" ++ toString asn ++ "/sync") none [] test true

/-- Add a direct session. -/
def Desk.addSession (d : Desk m) (s : Session) (test : Bool) : Job m Reply :=
  let s := { s with
    device := Column.normalizeSetId s.device
    kind := if s.kind = "" then "transit-session" else s.kind
    localAsn := if s.localAsn = 0 then defaultLocalASN else s.localAsn }
  let missing :=
    (if s.device = "" then ["device: required"] else []) ++
    (if s.remoteIp = "" then ["remote_ip: required"] else []) ++
    (if s.peerAsn = 0 then ["peer_asn: required"] else [])
  if !missing.isEmpty then pure (Reply.ofFault (some (.validation missing)))
  else d.peeringWrite "pm.session.add" s.device "POST" "sessions/direct" (some s.toJson) [] test true

/-- Update a direct session. -/
def Desk.updateSession (d : Desk m) (s : Session) (test : Bool) : Job m Reply :=
  let s := { s with device := Column.normalizeSetId s.device, peerAsn := 0, kind := "", localAsn := 0 }
  d.peeringWrite "pm.session.update" s.device "PUT" "sessions/direct" (some s.toJson) [] test true

/-- Delete a direct session. -/
def Desk.deleteSession (d : Desk m) (device neighbor : String) (test : Bool) : Job m Reply :=
  let device := Column.normalizeSetId device
  d.peeringWrite "pm.session.delete" device "DELETE" "sessions/direct" none
    [("device", [device]), ("ip", [neighbor])] test true

end NetFleet.Inventory
