import NetFleet.Inventory.Desk
import NetFleet.Column.Kind
import NetFleet.Net.Prefix

/-!
# Address management, routing views, Netbox and reverse DNS

Jobs on the other connectors of the utility service:

* IP address management: a report of managed addresses (of one device, or of
  all), and the free space within a prefix, always with a notice that only
  managed space counts.
* The AS paths a route collector sees for a prefix.
* Netbox: generating columns from it, and running its functions, which commit
  unless the run is a test. Interfaces can only be synchronized for named
  devices.
* Reverse DNS zones: synchronizing the managed PTR zones, listing records and
  zones, adding or deleting the zone of a prefix, which must read as one.
-/

namespace NetFleet.Inventory

open NetFleet (Json Fault Reply)

/-- The endpoint of address management. -/
def ipamEndpoint : String := "utility/ipam/"

/-- The notice that comes with every answer about free space. -/
def ipamNotice : String :=
  "This utility returns only ip space that is managed by salt-netdb. In order for\n" ++
  "it to return accurate free space, the entirety of the queried prefix must be\n" ++
  "managed by salt-netdb.\n"

/-- The endpoint of Netbox functions. -/
def netboxEndpoint : String := "netbox/"

/-- The endpoint of the reverse DNS connector. -/
def dnsEndpoint : String := "connectors/cfdns/"

/-- The reverse zone of a prefix. -/
structure Zone where
  prefixText : String := ""
  zone : String := ""
  account : String := ""
  managed : Bool := false

/-- A zone as the connector takes it. -/
def Zone.toJson (z : Zone) : Json :=
  .obj [("prefix", .str z.prefixText), ("zone", .str z.zone), ("account", .str z.account),
    ("managed", .bool z.managed)]

/-- Whether a text reads as a prefix. -/
def isPrefix (s : String) : Bool := (Net.Prefix.parse s).toOption.isSome

variable {m : Type → Type} [Monad m]

/-- The managed addresses, of one device when it is named. -/
def Desk.ipamReport (d : Desk m) (device : String) : Job m Reply :=
  d.callUtil "GET" (ipamEndpoint ++ "report") none
    (if device = "" then [] else [("device", [Column.normalizeSetId device])]) true

/-- The free space within a prefix. -/
def Desk.ipamChooser (d : Desk m) (pfx : String) : Job m Reply := do
  let r ← d.callUtil "GET" (ipamEndpoint ++ "chooser") none [("prefix", [pfx])] true
  return { r with notice := ipamNotice }

/-- The AS paths seen for a prefix. -/
def Desk.ripePaths (d : Desk m) (pfx : String) : Job m Reply :=
  d.callUtil "GET" "utility/ripe/paths" none [("prefix", [pfx])] true

/-- Generate data from Netbox. -/
def Desk.netboxGenerate (d : Desk m) (function : String) (data : Option Json) : Job m Reply :=
  d.callUtil "GET" (netboxEndpoint ++ function) data [] true

/-- Run a Netbox function, audited. -/
def Desk.netboxRun (d : Desk m) (function : String) (data : Option Json)
    (params : List (String × List String)) (test : Bool) : Job m Reply := do
  let r ← d.callUtil "GET" (netboxEndpoint ++ function) data params test
  d.record ("netbox." ++ function) "" "" test r
  return r

/-- The interfaces Netbox holds for a device. -/
def Desk.netboxInterfaces (d : Desk m) (device : String) : Job m Reply :=
  d.netboxGenerate "generate_interfaces" (some (.obj [("device", .str (Column.normalizeSetId device))]))

/-- Load the interfaces Netbox holds for devices. -/
def Desk.netboxSyncInterfaces (d : Desk m) (devices : List String) (test : Bool) : Job m Reply :=
  if devices.isEmpty then pure (Reply.fail "No devices selected.")
  else d.netboxRun "synchronize_interfaces"
    (some (.obj [("devices", .arr (devices.map fun x => .str (Column.normalizeSetId x)))])) [] test

/-- Create new addresses from prefixes and mark the old ones for pruning. -/
def Desk.netboxRenumber (d : Desk m) (ipv4 ipv6 : String) (test : Bool) : Job m Reply :=
  d.netboxRun "renumber" none [("ipv4", [ipv4]), ("ipv6", [ipv6])] test

/-- Bring the managed PTR zones in line with the inventory. -/
def Desk.dnsSync (d : Desk m) (test : Bool) : Job m Reply := do
  let r ← d.callUtil "POST" (dnsEndpoint ++ "update") none [] test
  d.record "cfdns.sync" "" "" test r
  return r

/-- The managed zones with their PTR records. -/
def Desk.dnsRecords (d : Desk m) : Job m Reply :=
  d.callUtil "GET" (dnsEndpoint ++ "records") none [] true

/-- The managed zones. -/
def Desk.dnsZones (d : Desk m) : Job m Reply :=
  d.callUtil "GET" (dnsEndpoint ++ "zones") none [] true

/-- Add or update the zone of a prefix. -/
def Desk.upsertZone (d : Desk m) (z : Zone) (test : Bool) : Job m Reply := do
  if !isPrefix z.prefixText then return Reply.fail ("Invalid prefix: " ++ z.prefixText)
  let r ← d.callUtil "POST" (dnsEndpoint ++ "zones") (some z.toJson) [] test
  d.record "cfdns.zone.upsert" "" z.prefixText test r
  return r

/-- Delete the zone of a prefix. -/
def Desk.deleteZone (d : Desk m) (pfx : String) (test : Bool) : Job m Reply := do
  if !isPrefix pfx then return Reply.fail ("Invalid prefix: " ++ pfx)
  let r ← d.callUtil "DELETE" (dnsEndpoint ++ "zones") none [("prefix", [pfx])] test
  d.record "cfdns.zone.delete" "" pfx test r
  return r

end NetFleet.Inventory
