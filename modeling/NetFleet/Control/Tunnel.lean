import NetFleet.Control.Toggle
import NetFleet.Column.Shapes
import NetFleet.Schema.Encode
import NetFleet.Net.Text

/-!
# Tunnels

The router's tunnels are its interfaces whose names start with `tun`.

* Generating them gives each tunnel as the inventory holds it, whether it is
  disabled (by the inventory or by a mark in the overlay), and its key as the
  router takes it: the number of the dotted IPv4 key (`0.0.1.5` is `261`). A key
  that is not an IPv4 address stops the generation with a refusal.
* Enabling and disabling removes or sets the tunnel's `disable` statement
  (`Toggle`).
* Displaying them shows the router's own table, with the managed tunnels as
  the comment.
-/

namespace NetFleet.Control

open NetFleet (Json Fault Reply)
open NetFleet.Schema (Node)

/-- Whether a name is one of a tunnel. -/
def isTunnelName (name : String) : Bool := name.startsWith "tun"

/-- A tunnel as the router applies it, or the refusal for its key. -/
def tunnelEntry (disabledNames : List String) (name : String) (iface : Node) : Except Reply Json := do
  let members := match Schema.encode Column.ifaceRecord iface with
    | .obj ms => ms
    | _ => []
  let disabled := (iface.member "disabled").flag? || disabledNames.contains name
  let key ← match (iface.member "key").addr? with
    | none => pure []
    | some a => match Net.ipv4Number a.render with
      | .ok n => pure [("key_vyos", Json.ofNat n)]
      | .error f => throw (Reply.fail (name ++ ": " ++ f.message))
  return .obj (members.filter (·.1 ≠ "disabled") ++ [("disabled", .bool disabled)] ++ key)

/-- The tunnels as the router applies them, in the order given; the first key
that is refused stops them. -/
def tunnelEntries (disabledNames : List String) (ts : List (String × Node)) :
    Except Reply (List (String × Json)) :=
  ts.mapM fun (n, i) => (tunnelEntry disabledNames n i).map fun j => (n, j)

variable {m : Type → Type} [Monad m]

namespace Station

/-- The router's tunnels. -/
def tunnels (s : Station m) : Op m (Except Fault (List (String × Node))) :=
  s.interfacesWhere isTunnelName

/-- The router's tunnels as the router applies them. -/
def generateTunnels (s : Station m) : Op m Reply := do
  match ← s.tunnels with
  | .error f => return faultReply f
  | .ok ts =>
    match ← s.disabled Overlay.tunnelKey with
    | .error f => return faultReply f
    | .ok names =>
      match tunnelEntries names ts with
      | .error r => return r
      | .ok entries => return Reply.ok "" (some (.data (.obj entries)))

/-- Enable (`disable = false`) or disable a tunnel. -/
def toggleTunnel (s : Station m) (name : String) (disable : Bool) (opts : Options) : Op m Reply := do
  let (operation, verb, action) :=
    if disable then ("tunnel.disable", "disable", "set") else ("tunnel.enable", "enable", "delete")
  let refusal := if disable
    then "Tunnel is already marked disabled in REDIS. Use force=true to commit anyway."
    else "Tunnel not marked as disabled in REDIS. Use force=true to commit anyway."
  if let some f := firstUnmet operation name [selected "tunnel" name] then return faultReply f
  match ← s.tunnels with
  | .error f => return faultReply f
  | .ok ts =>
    let found := (ts.lookup name).isSome
    if let some f := firstUnmet operation name [managed found "Tunnel not found on this router." name] then
      return faultReply f
    s.apply
      { key := Overlay.tunnelKey, entry := name, disable, refusal
        request :=
          { name := operation
            source := action ++ " interfaces tunnel \x7b\x7b .tunnel \x7d\x7d disable"
            vars := .map [("tunnel", .str name)]
            commitComment := verb ++ " tunnel " ++ name } } opts

/-- Enable a tunnel: remove its `disable` statement. -/
def enableTunnel (s : Station m) (name : String) (opts : Options) : Op m Reply :=
  s.audit "tunnel.enable" name opts (s.toggleTunnel name false opts)

/-- Disable a tunnel: set its `disable` statement. -/
def disableTunnel (s : Station m) (name : String) (opts : Options) : Op m Reply :=
  s.audit "tunnel.disable" name opts (s.toggleTunnel name true opts)

/-- The router's table of tunnels, with the managed tunnels as the comment. -/
def displayTunnels (s : Station m) : Op m Reply :=
  s.display "show interfaces tunnel" do
    match ← s.tunnels with
    | .error _ => return .unreachable
    | .ok ts =>
      match ← s.disabled Overlay.tunnelKey with
      | .error f => return .failed f
      | .ok names => return .text (managedList "salt managed tunnels" (ts.map (·.1)) names)

end Station

end NetFleet.Control
