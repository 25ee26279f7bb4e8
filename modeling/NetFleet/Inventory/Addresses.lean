import NetFleet.Inventory.Desk
import NetFleet.Column.Document
import NetFleet.Column.Kind
import NetFleet.Json.Dynamic
import NetFleet.Net.Prefix
import NetFleet.Schema.Decode

/-!
# Interface addresses

Jobs that read the interfaces of a device and assign or remove one address of
an interface. An edit reads the interface's fragment of the inventory, changes
it, checks the result against the shape of the interface column, and writes it
back; a dry run answers with the fragment it would have written instead.

* The interface must be in the inventory (`Interface eth1 not found on SIN1`).
* The address is an interface address, `addr/len`, keyed as written back in
  canonical form (`Invalid IP address` otherwise).
* A new address must not be assigned yet; its PTR name and roles become its
  `meta`. A removed address must be assigned; removing the last one drops the
  `address` member.
-/

namespace NetFleet.Inventory

open NetFleet (Json Fault Reply Output)

variable {m : Type → Type} [Monad m]

/-- The interfaces of a device, selected by device and interface. -/
def Desk.interfaces (d : Desk m) (device iface : String) : Job m Reply :=
  answer (d.netdb.query "interface" { setId := Column.normalizeSetId device, element := iface })

/-- An interface fragment decoded as dynamic JSON: `none` for `null`. -/
def fragmentOf (out : Option Json) : Except String (Option (List (String × Json))) :=
  match out with
  | none => .error "unexpected end of JSON input"
  | some .null => .ok none
  | some (.obj ms) => match Json.dynamic? (.obj ms) with
    | .ok (.obj d) => .ok (some d)
    | .ok _ => .ok (some [])
    | .error e => .error e
  | some j => .error ((Schema.DecodeError.mismatch (Schema.foundName j) "map[string]interface {}" []).message "")

/-- An interface as found in the inventory: the device's fragment, the device's
interfaces, and the interface's entry. -/
structure Found where
  fragment : List (String × Json)
  interfaces : List (String × Json)
  entry : List (String × Json)

/-- The entry of interface `iface` of `device` in a fragment, with the fragment
around it; none when the device's value holds no such entry. -/
def Found.locate (fragment : List (String × Json)) (device iface : String) : Option Found :=
  let interfaces := match Json.lookup? fragment device with
    | some (.obj is) => is
    | _ => []
  match Json.lookup? interfaces iface with
  | some (.obj entry) => some ⟨fragment, interfaces, entry⟩
  | _ => none

/-- The entry of an interface, with the fragment around it, or the reply for
why it cannot be had. -/
def Desk.findInterface (d : Desk m) (device iface : String) : Job m (Except Reply Found) := do
  match ← ((d.netdb.query "interface" { setId := device, element := iface }).run : m (Except Fault Netdb.Response)) with
  | .error f => return .error (Reply.ofFault (some f))
  | .ok r =>
    if !r.result then return .error r.envelope
    match fragmentOf r.out with
    | .error msg => return .error (Reply.ofFault (some (.backend "netdb" (.plain msg))))
    | .ok data =>
      match Found.locate (data.getD []) device iface with
      | some found => return .ok found
      | none => return .error (errorOf ("Interface " ++ iface ++ " not found on " ++ device))

/-- The fragment with the interface's entry replaced. -/
def Found.withEntry (f : Found) (device iface : String) (entry : List (String × Json)) :
    List (String × Json) :=
  Json.put device (.obj (Json.put iface (.obj entry) f.interfaces)) f.fragment

/-- The reply for an address that does not read. -/
def invalidAddress : Reply := errorOf "Invalid IP address"

/-- Check an edited interface fragment and write it, unless this is a dry run,
which answers with the fragment. -/
def Desk.writeInterfaces (d : Desk m) (operation device target : String)
    (fragment : List (String × Json)) (test : Bool) : Job m Reply := do
  match Column.Document.decodeSets .iface (Json.render .html (.obj fragment)) with
  | .error f => return Reply.ofFault (some f)
  | .ok _ =>
    if test then return { result := false, comment := testRunComment, out := some (.data (.obj fragment)) }
    let r ← answer (d.netdb.update "interface" (some (.obj fragment)) false)
    d.record operation device target false r
    return r

/-- The meta data of an address: its PTR name and its roles, when given. -/
def addressMeta (ptr : String) (roles : List String) : Json :=
  let parts : List (String × Json) :=
    (if ptr = "" then [] else [("dns", .obj [("ptr", .str ptr)])]) ++
    (if roles.isEmpty then [] else [("role", .arr (roles.map .str))])
  if parts.isEmpty then .null else .obj [("meta", .obj parts)]

/-- The addresses of the interface: its `address` object, empty when it has none. -/
def Found.addresses (found : Found) : List (String × Json) :=
  match Json.lookup? found.entry "address" with
  | some (.obj a) => a
  | _ => []

/-- The fragment with an address assigned to the interface, its PTR name and
roles as its meta data, and the address's key; or the reply for why it cannot
be assigned. -/
def Found.assign (found : Found) (device iface address ptr : String) (roles : List String) :
    Except Reply (String × List (String × Json)) :=
  match Net.Prefix.parse address with
  | .error _ => .error invalidAddress
  | .ok p =>
    let key := p.render
    let addrs := found.addresses
    if (Json.lookup? addrs key).isSome then
      .error (errorOf ("This IP address is already assigned to " ++ iface))
    else
      let entry := Json.put "address" (.obj (Json.put key (addressMeta ptr roles) addrs)) found.entry
      .ok (key, found.withEntry device iface entry)

/-- The fragment with an address removed from the interface, and the address's
key; or the reply for why it cannot be removed. -/
def Found.unassign (found : Found) (device iface address : String) :
    Except Reply (String × List (String × Json)) :=
  match Net.Prefix.parse address with
  | .error _ => .error invalidAddress
  | .ok p =>
    let key := p.render
    let noSuch := errorOf ("No such IP address assigned to " ++ iface)
    match Json.lookup? found.entry "address" with
    | some (.obj addrs) =>
      if (Json.lookup? addrs key).isNone then .error noSuch
      else
        let rest := addrs.filter (·.1 ≠ key)
        let entry := if rest.isEmpty then found.entry.filter (·.1 ≠ "address")
          else Json.put "address" (.obj rest) found.entry
        .ok (key, found.withEntry device iface entry)
    | _ => .error noSuch

/-- Edit an interface of the inventory and write the fragment back, recorded
under the interface and the key of what changed; the edit gives that key and the
fragment, or the reply for why it cannot be made. -/
def Desk.editInterface (d : Desk m) (operation device iface : String)
    (edit : Found → Except Reply (String × List (String × Json))) (test : Bool) : Job m Reply := do
  match ← d.findInterface device iface with
  | .error r => return r
  | .ok found =>
    match edit found with
    | .error r => return r
    | .ok (key, fragment) =>
      d.writeInterfaces operation device (iface ++ " " ++ key) fragment test

/-- Assign an address to an interface. -/
def Desk.addAddress (d : Desk m) (device iface address ptr : String) (roles : List String)
    (test : Bool) : Job m Reply :=
  let device := Column.normalizeSetId device
  d.editInterface "iface.addr.add" device iface (·.assign device iface address ptr roles) test

/-- Remove an address from an interface. -/
def Desk.removeAddress (d : Desk m) (device iface address : String) (test : Bool) : Job m Reply :=
  let device := Column.normalizeSetId device
  d.editInterface "iface.addr.delete" device iface (·.unassign device iface address) test

end NetFleet.Inventory
