import NetFleet.Control.Toggle
import NetFleet.Column.Shapes
import NetFleet.Schema.Encode
import NetFleet.Text.Cut
import NetFleet.Dict

/-!
# Ethernet, bonding and VLAN interfaces

The router's ethernet interfaces are those whose names start with `eth` or
`bond`. The router knows three kinds of them: `ethernet`, `bonding` (an
inventory `lacp` interface) and `vif` (a VLAN, below a parent whose kind is read
off its name: a name with `bond` in it is bonding, else one with `eth` is
ethernet).

* Generating them gives each interface as the inventory holds it, with the
  router's kind, the kind of a VLAN's parent, and whether it is disabled: by the
  inventory or by a mark in the overlay. An interface of another kind, or a
  VLAN below a parent of no known kind, stops the generation with a refusal.
  The interfaces are visited in the order given (`ethernetReply`), which is
  key order when the station generates them.
* Enabling and disabling removes or sets the `disable` statement of the
  interface's configuration path (`Toggle`). A permanent change also writes the
  disabled flag to the inventory, and the inventory's reply comes with it.
* Displaying them shows the router's own table, with the managed interfaces as
  the comment.
-/

namespace NetFleet.Control

open NetFleet (Json Fault Reply)
open NetFleet.Schema (Node)

/-- Whether a name is one of an ethernet or bonding interface. -/
def isEthernetName (name : String) : Bool := name.startsWith "eth" || name.startsWith "bond"

/-- The router's kind of the parent of a VLAN, from its name; empty when none. -/
def parentKind (parent : String) : String :=
  if Text.containsText parent "bond" then "bonding"
  else if Text.containsText parent "eth" then "ethernet"
  else ""

/-- The configuration path of an interface below `interfaces`, for the kinds
that have one. -/
def ethernetStatement (name : String) (iface : Node) : Option String :=
  match (iface.member "type").str with
  | "vlan" =>
    let vlan := iface.member "vlan"
    let parent := (vlan.member "parent").str
    let kind := if Text.containsText parent "bond" then "bonding" else "ethernet"
    some (kind ++ " " ++ parent ++ " vif " ++ toString (vlan.member "id").num)
  | "lacp" => some ("bonding " ++ name)
  | "ethernet" => some ("ethernet " ++ name)
  | _ => none

/-- An ethernet interface as the router applies it: the inventory's interface,
whether it is disabled, the router's kind, and for a VLAN its block with the
parent's kind. -/
def ethernetJson (iface : Node) (disabled : Bool) (kind : String) (vlanParent : Option String) : Json :=
  let members := match Schema.encode Column.ifaceRecord iface with
    | .obj ms => ms
    | _ => []
  let vlan : List (String × Json) := match vlanParent, Json.lookup? members "vlan" with
    | some pk, some (.obj v) => [("vlan", .obj (v ++ [("parent_vyos_type", .str pk)]))]
    | _, _ => []
  .obj (members.filter (fun kv => kv.1 ≠ "disabled" ∧ kv.1 ≠ "vlan") ++
    [("disabled", .bool disabled), ("vyos_type", .str kind)] ++ vlan)

/-- One interface as the router applies it, or the refusal for it. -/
def ethernetEntry (disabledNames : List String) (name : String) (iface : Node) : Except Reply Json :=
  let disabled := (iface.member "disabled").flag? || disabledNames.contains name
  match (iface.member "type").str with
  | "ethernet" => .ok (ethernetJson iface disabled "ethernet" none)
  | "lacp" => .ok (ethernetJson iface disabled "bonding" none)
  | "vlan" =>
    let pk := parentKind ((iface.member "vlan").member "parent").str
    if pk = "" then .error (Reply.fail (name ++ ": unsupported vlan parent interface type!"))
    else .ok (ethernetJson iface disabled "vif" (some pk))
  | _ => .error (Reply.fail (name ++ ": unsupported interface type!"))

/-- One interface as the router applies it, under its name, or the refusal for it. -/
def ethernetNamed (disabledNames : List String) (ni : String × Node) : Except Reply (String × Json) :=
  (ethernetEntry disabledNames ni.1 ni.2).map fun j => (ni.1, j)

/-- The router's ethernet interfaces as it applies them, visited in the order
given: the first one refused stops the generation with its refusal; otherwise
each is set under its name. -/
def ethernetReply (disabledNames : List String) (ifaces : List (String × Node)) : Reply :=
  match ifaces.mapM (ethernetNamed disabledNames) with
  | .error r => r
  | .ok entries => Reply.ok "" (some (.data (.obj (Dict.ofList entries))))

variable {m : Type → Type} [Monad m]

namespace Station

/-- The router's ethernet and bonding interfaces. -/
def ethernet (s : Station m) : Op m (Except Fault (List (String × Node))) :=
  s.interfacesWhere isEthernetName

/-- The router's ethernet, bonding and VLAN interfaces as the router applies
them. -/
def generateEthernet (s : Station m) : Op m Reply := do
  match ← s.ethernet with
  | .error f => return faultReply f
  | .ok ifaces =>
    match ← s.disabled Overlay.ethernetKey with
    | .error f => return faultReply f
    | .ok names => return ethernetReply names ifaces

/-- Enable (`disable = false`) or disable an ethernet interface. -/
def toggleEthernet (s : Station m) (name : String) (disable : Bool) (opts : Options) : Op m Reply := do
  let (operation, verb, action) :=
    if disable then ("ethernet.disable", "disable", "set") else ("ethernet.enable", "enable", "delete")
  let refusal := if disable
    then "Interface is already marked disabled in REDIS. Use force=true to commit anyway."
    else "Interface not marked as disabled in REDIS. Use force=true to commit anyway."
  if let some f := firstUnmet operation name [selected "interface" name] then return faultReply f
  match ← s.ethernet with
  | .error f => return faultReply f
  | .ok ifaces =>
    let found := ifaces.lookup name
    let iface := found.getD Column.ifaceRecord.zero
    let statement := ethernetStatement name iface
    let conditions :=
      [managed found.isSome "Interface not found on this router." name,
       { holds := statement.isSome, refusal := "Unsupported interface type.",
         details := (iface.member "type").str }]
    if let some f := firstUnmet operation name conditions then return faultReply f
    let r ← s.apply
      { key := Overlay.ethernetKey, entry := name, disable, refusal
        request :=
          { name := operation
            source := action ++ " interfaces \x7b\x7b .statement \x7d\x7d disable"
            vars := .map [("interface", .str name), ("statement", .str (statement.getD ""))]
            commitComment := verb ++ " interface " ++ name } } opts
    if !(opts.permanent && r.result) then return r
    let r := { r with comment := r.comment ++ " Permanent (netdb) " ++ verb ++ " requested." }
    match ← attempt (s.netdb.setInterfaceDisabled s.router name disable opts.test) with
    | .error f => return { r with netdb := some (faultReply f) }
    | .ok resp => return { r with netdb := some { result := resp.result, comment := resp.comment, error := resp.error } }

/-- Enable an ethernet interface: remove its `disable` statement. -/
def enableEthernet (s : Station m) (name : String) (opts : Options) : Op m Reply :=
  s.audit "ethernet.enable" name opts (s.toggleEthernet name false opts)

/-- Disable an ethernet interface: set its `disable` statement. -/
def disableEthernet (s : Station m) (name : String) (opts : Options) : Op m Reply :=
  s.audit "ethernet.disable" name opts (s.toggleEthernet name true opts)

/-- The router's table of ethernet (`kind` empty or `ethernet`) or bonding
(`lag`) interfaces, with the managed interfaces as the comment. -/
def displayEthernet (s : Station m) (kind : String) : Op m Reply := do
  let kind ← match kind with
    | "" | "ethernet" => pure "ethernet"
    | "lag" => pure "bonding"
    | _ => return Reply.fail "unsupported interface type."
  s.display ("show interfaces " ++ kind) do
    match ← s.ethernet with
    | .error _ => return .unreachable
    | .ok ifaces =>
      match ← s.disabled Overlay.ethernetKey with
      | .error f => return .failed f
      | .ok names => return .text (managedList "salt managed interfaces" (ifaces.map (·.1)) names)

end Station

end NetFleet.Control
