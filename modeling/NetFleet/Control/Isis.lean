import NetFleet.Control.Toggle
import NetFleet.Column.Shapes
import NetFleet.Schema.Encode

/-!
# IS-IS

The IS-IS process of a router is the `isis` block of its protocol set; a router
without one does not run IS-IS.

* Generating it gives the block without the interfaces marked disabled in the
  overlay. Any failure to read it is an error.
* Enabling an interface adds it to the process again, disabling removes it
  (`Toggle`); a passive interface cannot be disabled.
* The overload bit is set or removed directly: the overlay does not track it,
  and forcing does not apply.
* The displays show the router's own tables; adjacencies and interfaces come
  with the managed interfaces as the comment, each flagged when passive or
  disabled.
-/

namespace NetFleet.Control

open NetFleet (Json Fault Reply)
open NetFleet.Schema (Node)

/-- An IS-IS block without the interfaces named in `disabled`. -/
def withoutDisabled (isis : Node) (disabled : List String) : Node :=
  let keep := ((isis.member "interfaces").items).filter fun i => !disabled.contains (i.member "name").str
  match isis with
  | .record ms => .record (ms.map fun (k, v) => if k = "interfaces" then (k, .list keep) else (k, v))
  | other => other

/-- The line of an IS-IS interface in a listing. -/
def isisLine (disabled : List String) (iface : Node) : String :=
  let name := (iface.member "name").str
  name ++ (if (iface.member "passive").flag? then "\t[passive]" else "") ++
    (if disabled.contains name then "\t[disabled]" else "")

/-- The IS-IS interface of a name, if the block has one. -/
def isisInterface (isis : Option Node) (name : String) : Option Node :=
  isis.bind fun i => ((i.member "interfaces").items).find? fun x => (x.member "name").str = name

variable {m : Type → Type} [Monad m]

namespace Station

/-- The router's IS-IS block; `none` when it does not run IS-IS. -/
def isis (s : Station m) : Op m (Except Fault (Option Node)) := do
  return (← s.setOf .protocol).map fun p => ((p.member "isis").toOption).map Node.deref

/-- The router's IS-IS block without the interfaces disabled in the overlay. -/
def generateISIS (s : Station m) : Op m Reply := do
  match ← s.isis with
  | .error f => return { faultReply f with error := true }
  | .ok none => return { result := false, error := true, comment := "IS-IS not configured on this router." }
  | .ok (some i) =>
    match ← s.disabled Overlay.isisKey with
    | .error f => return faultReply f
    | .ok names => return Reply.ok "" (some (.data (Schema.encode Column.isisRecord (withoutDisabled i names))))

/-- Enable (`disable = false`) or disable IS-IS on an interface. -/
def toggleISIS (s : Station m) (name : String) (disable : Bool) (opts : Options) : Op m Reply := do
  let (operation, verb, action) :=
    if disable then ("isis.disable", "disable", "delete") else ("isis.enable", "enable", "set")
  let refusal := if disable
    then "IS-IS interface already marked as disabled in REDIS. Use force=true to commit anyway."
    else "IS-IS interface not marked as disabled in REDIS. Use force=true to commit anyway."
  if let some f := firstUnmet operation name [selected "interface" name] then return faultReply f
  match ← s.isis with
  | .error f => return faultReply f
  | .ok block =>
    let found := isisInterface block name
    let passive := (found.map fun i => (i.member "passive").flag?).getD false
    let conditions := [managed found.isSome "IS-IS interface not found." name] ++
      (if disable then [{ holds := !passive, refusal := "IS-IS passive interface cannot be disabled." }] else [])
    if let some f := firstUnmet operation name conditions then return faultReply f
    s.apply
      { key := Overlay.isisKey, entry := name, disable, refusal
        request :=
          { name := operation
            source := action ++ " protocols isis interface \x7b\x7b .interface \x7d\x7d"
            vars := .map [("interface", .str name)]
            commitComment := verb ++ " IS-IS on interface " ++ name } } opts

/-- Add an interface back to the IS-IS process. -/
def enableISIS (s : Station m) (name : String) (opts : Options) : Op m Reply :=
  s.audit "isis.enable" name opts (s.toggleISIS name false opts)

/-- Remove an interface from the IS-IS process. -/
def disableISIS (s : Station m) (name : String) (opts : Options) : Op m Reply :=
  s.audit "isis.disable" name opts (s.toggleISIS name true opts)

/-- Set (`enable`) or remove the IS-IS overload bit. -/
def isisOverload (s : Station m) (enable : Bool) (opts : Options) : Op m Reply :=
  s.audit "isis.overload" (if enable then "on" else "off") opts do
    let some sh := s.shell | return faultReply noDevice
    let req : Router.TemplateRequest :=
      { name := "isis.overload"
        source := if enable then "set protocols isis set-overload-bit" else "delete protocols isis set-overload-bit"
        commitComment := if enable then "IS-IS overload bit set" else "IS-IS overload bit removed"
        test := opts.test, debug := opts.debug }
    match ← monadLift (Router.loadTemplate sh req) with
    | .error f => return faultReply f
    | .ok c => return commitReply c

/-- The listing of the managed IS-IS interfaces. -/
def isisListing (s : Station m) : Op m Listing := do
  match ← s.isis with
  | .error _ => return .unreachable
  | .ok block =>
    match ← s.disabled Overlay.isisKey with
    | .error _ => return .unreachable
    | .ok names =>
      let lines := match block with
        | some i => ((i.member "interfaces").items).map (isisLine names)
        | none => []
      return .text (managedList "salt managed IS-IS interfaces" lines [])

/-- The router's IS-IS neighbors. -/
def isisAdjacencies (s : Station m) : Op m Reply := s.display "show isis neighbor" s.isisListing

/-- The router's IS-IS summary. -/
def isisSummary (s : Station m) : Op m Reply := s.cli ["show isis summary"]

/-- The router's IS-IS interfaces. -/
def isisInterfaces (s : Station m) : Op m Reply := s.display "show isis interface" s.isisListing

end Station

end NetFleet.Control
