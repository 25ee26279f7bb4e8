import NetFleet.Control.Ethernet
import NetFleet.Control.Tunnel
import NetFleet.Control.Sets
import NetFleet.Net.Text
import NetFleet.Text.Pad
import NetFleet.Dict

/-!
# The addresses of a router

The managed addresses of a router are those of its ethernet, bonding, VLAN,
tunnel and loopback interfaces, keyed by address: an address on two interfaces
is the one of the interface that comes last by name. Each comes with its prefix
length, the device and the interface, the interface's description and the
address's meta data. The addresses of one interface are a dictionary whose
order of visit is left open (`addressEntriesIn`); the report visits them in key
order (`addressEntries`).

The report gives them as data, or as text for people (`addressListing`): IPv6
addresses first, then IPv4, each in address order, one line per address with
its prefix length, interface and description in columns.
-/

namespace NetFleet.Control

open NetFleet (Json Fault Reply)
open NetFleet.Schema (Node)

/-- An address of the router as the report gives it. -/
structure AddressEntry where
  bits : Nat
  device : String
  iface : String
  description : String := ""
  metaData : List (String × Json) := []

/-- An address entry as JSON; an empty description and no meta data are left out. -/
def AddressEntry.toJson (e : AddressEntry) : Json :=
  Json.obj ([("cidr", Json.str (toString e.bits)), ("device", Json.str e.device), ("interface", Json.str e.iface)] ++
    (if e.description = "" then [] else [("description", Json.str e.description)]) ++
    (if e.metaData.isEmpty then [] else [("meta", Json.obj e.metaData)]))

/-- The meta data of an interface address. -/
def addressMeta (a : Node) : List (String × Json) :=
  ((a.deref.member "meta").entries).map fun (k, v) => (k.render, v.json?.getD .null)

/-- Whether an interface's addresses are managed: ethernet, bonding, VLAN, tunnel
and loopback interfaces. -/
def isManagedName (name : String) : Bool :=
  isEthernetName name || isTunnelName name || isLoopbackName name

/-- The entry of an address `p` of interface `name`, with the address's value `a`. -/
def addressEntry (router name : String) (iface : Node) (p : Net.Prefix) (a : Node) : AddressEntry :=
  { bits := p.bits, device := router, iface := name
    description := (iface.member "description").str, metaData := addressMeta a }

/-- Set the entry of one address of interface `name` under the address itself; a
key that is no prefix is passed over. -/
def addAddress (router name : String) (iface : Node) (acc : List (String × AddressEntry))
    (ka : Schema.Key × Node) : List (String × AddressEntry) :=
  match ka.1 with
  | .cidr (some p) => Dict.put p.addr.render (addressEntry router name iface p ka.2) acc
  | _ => acc

/-- Set the entries of the addresses of one interface, visited in the order
`visit` gives; an interface whose addresses are not managed is passed over. -/
def addInterface (visit : Column.Visit) (router : String) (acc : List (String × AddressEntry))
    (ni : String × Node) : List (String × AddressEntry) :=
  if isManagedName ni.1 then (visit ni.1 (ni.2.member "address").entries).foldl (addAddress router ni.1 ni.2) acc
  else acc

/-- The managed addresses of a router's interfaces, the interfaces taken in the
order given and the addresses of each in the order `visit` gives. -/
def addressEntriesIn (visit : Column.Visit) (router : String) (ifaces : List (String × Node)) :
    List (String × AddressEntry) :=
  ifaces.foldl (addInterface visit router) []

/-- The managed addresses of a router's interfaces, the addresses of each in key
order. -/
def addressEntries (router : String) (ifaces : List (String × Node)) : List (String × AddressEntry) :=
  addressEntriesIn Column.keyOrder router ifaces

/-- The text listing of managed addresses. -/
def addressListing (entries : List (String × AddressEntry)) : String :=
  "Salt managed addresses on this device:\n----------\n" ++
    String.join ((Net.sortAddresses (entries.map (·.1))).filterMap fun a =>
      (entries.lookup a).map fun e =>
        Text.padRight (a ++ "/" ++ toString e.bits) 30 ++ " " ++ Text.padRight e.iface 10 ++ " " ++
          Text.padRight e.description 40 ++ "\n")

/-- The reply of the managed addresses: as data when `report`, as text in the
comment when `comment`. -/
def addressReply (entries : List (String × AddressEntry)) (report comment : Bool) : Reply :=
  { result := true
    out := if report then some (.data (.obj (entries.map fun (a, e) => (a, e.toJson)))) else none
    comment := if comment then addressListing entries else "" }

variable {m : Type → Type} [Monad m]

namespace Station

/-- The managed addresses: as data when `report`, as text in the comment when
`comment`. -/
def addressReport (s : Station m) (report comment : Bool) : Op m Reply := do
  match ← s.interfaces with
  | .error f => return faultReply f
  | .ok ifaces => return addressReply (addressEntries s.router ifaces) report comment

/-- The managed addresses as text only. -/
def addressComment (s : Station m) : Op m Reply := s.addressReport false true

end Station

end NetFleet.Control
