import NetFleet.Control.Station
import NetFleet.Router.Templates

/-!
# Enabling and disabling tracked entries

Ethernet interfaces, tunnels, BGP peers and IS-IS interfaces are enabled and
disabled the same way, and the overlay remembers which of them the operators
disabled:

1. the entry must be named and known to the inventory (`firstUnmet` reports the
   first condition that fails, as an unmet precondition);
2. an overlay store and the router's shell must be there;
3. when the overlay mark already agrees with the request, the change is refused
   unless it is forced;
4. the change's template is loaded on the router;
5. unless the change was forced or only a test, the overlay mark follows it. A
   mark that cannot be written leaves the change made and the reply an error
   that says so; a mark that cannot be stored at all stops the operation.
-/

namespace NetFleet.Control

open NetFleet (Json Fault Reply)

/-- A condition an operation on a resource needs before it touches the router:
whether it holds, the refusal when it does not, and details for the log. -/
structure Condition where
  holds : Bool
  refusal : String
  details : String := ""

/-- The resource must be named; `what` names its kind in the refusal. -/
def selected (what resource : String) : Condition :=
  { holds := resource ≠ "", refusal := "No " ++ what ++ " selected." }

/-- The resource must be in the inventory. -/
def managed (found : Bool) (refusal resource : String) : Condition :=
  { holds := found, refusal, details := resource ++ " is not in netdb" }

/-- The first condition that does not hold, as an unmet precondition of the
operation on the resource. -/
def firstUnmet (operation resource : String) : List Condition → Option Fault
  | [] => none
  | c :: cs =>
    if c.holds then firstUnmet operation resource cs
    else some (.precondition operation resource c.refusal c.details)

/-- One enable or disable of an entry that the overlay tracks. -/
structure Toggle where
  /-- the overlay key of the entry's kind -/
  key : String
  entry : String
  disable : Bool
  /-- the reply when the overlay mark already agrees and the change is not forced -/
  refusal : String
  request : Router.TemplateRequest

variable {m : Type → Type} [Monad m]

/-- Mark the overlay after a change was made on the router with reply `r`. A
mark that cannot be written leaves the reply an error that says so; a mark that
cannot be stored at all stops the operation. -/
def Station.markOverlay (s : Station m) (keeper : Keeper m) (t : Toggle) (r : Reply) : Op m Reply := do
  let store ← monadLift keeper.read
  match s.lists.mark store t.key t.entry t.disable with
  | .applied _ store' =>
    monadLift (keeper.write store')
    return r
  | .refused _ f =>
    return { r with error := true, comment := r.comment ++ " Overlay update failed: " ++ f.message }
  | .crashed => throw ⟨Overlay.crashMessage⟩

/-- Apply a toggle whose entry passed its preconditions: consult the overlay,
load the template, then mark the overlay unless forced or testing. -/
def Station.apply (s : Station m) (t : Toggle) (opts : Options) : Op m Reply := do
  let some keeper := s.overlay | return faultReply noOverlay
  let some sh := s.shell | return faultReply noDevice
  match s.lists.contains (← monadLift keeper.read) t.key t.entry with
  | .error f => return faultReply f
  | .ok marked =>
    if marked == t.disable && !opts.force then return Reply.fail t.refusal
    let req := { t.request with test := opts.test, debug := opts.debug }
    match ← monadLift (Router.loadTemplate sh req) with
    | .error f => return faultReply f
    | .ok c =>
      let r := commitReply c
      if opts.force || opts.test then return r
      s.markOverlay keeper t r

end NetFleet.Control
