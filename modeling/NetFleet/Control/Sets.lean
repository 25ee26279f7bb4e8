import NetFleet.Control.Station
import NetFleet.Column.Shapes
import NetFleet.Schema.Encode

/-!
# Loopbacks, firewall and routing policy

Sets of the inventory that the router applies as they are: its loopbacks (the
dummy interfaces, whose names start with `dum`), its firewall set and its
policy set. Displaying the loopbacks shows the router's own table, with the
managed loopbacks as the comment; the overlay does not track them.
-/

namespace NetFleet.Control

open NetFleet (Json Fault Reply)
open NetFleet.Schema (Node)

/-- Whether a name is one of a loopback (dummy) interface. -/
def isLoopbackName (name : String) : Bool := name.startsWith "dum"

variable {m : Type → Type} [Monad m]

namespace Station

/-- The router's loopback interfaces. -/
def loopbacks (s : Station m) : Op m (Except Fault (List (String × Node))) :=
  s.interfacesWhere isLoopbackName

/-- The router's loopback interfaces as the inventory holds them. -/
def generateLoopbacks (s : Station m) : Op m Reply := do
  match ← s.loopbacks with
  | .error f => return faultReply f
  | .ok ls =>
    return Reply.ok "" (some (.data (.obj (ls.map fun (n, i) => (n, Schema.encode Column.ifaceRecord i)))))

/-- The router's table of loopbacks, with the managed loopbacks as the comment. -/
def displayLoopbacks (s : Station m) : Op m Reply :=
  s.display "show interfaces dummy" do
    match ← s.loopbacks with
    | .error _ => return .unreachable
    | .ok ls => return .text (managedList "salt managed loopback (dummy) interfaces" (ls.map (·.1)) [])

/-- A set of the router as the inventory holds it. -/
def generateSet (s : Station m) (k : Column.Kind) : Op m Reply := do
  match ← s.setOf k with
  | .error f => return faultReply f
  | .ok n => return Reply.ok "" (some (.data (Schema.encode k.setShape n)))

/-- The router's firewall set. -/
def generateFirewall (s : Station m) : Op m Reply := s.generateSet .firewall

/-- The router's policy set. -/
def generatePolicy (s : Station m) : Op m Reply := s.generateSet .policy

end Station

end NetFleet.Control
