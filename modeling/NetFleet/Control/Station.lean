import NetFleet.Netdb.Client
import NetFleet.Overlay.Entries
import NetFleet.Router.Commit
import NetFleet.Router.Facts
import NetFleet.Audit.Event
import NetFleet.Column.Document

/-!
# Stations

A station is where the operations on one router run. It holds the services
they use: a client of the inventory database, the overlay store that marks
entries the operators disabled (if there is one), the router's shell (if the
router can be reached), the facts about the router, and the user the
operations are recorded for.

Every operation answers with a `Reply`. Refusals (a precondition not met, an
overlay mark that already agrees) have `result = false` and a comment; failures
of a service also set `error`. An operation that changes the router adds one
event to the journal, unless the station is not audited.

An operation can also stop without an answer (`Abort`): when a change must be
written into an overlay document that holds `null`, nothing can be stored, the
operation ends there, and it is not recorded. `Op` is an `ExceptT Abort` layer
over the journal, so that a record that would follow is skipped by
construction.

A station needs the inventory client and the facts about the router; a
configuration without either is refused (`configFault`). This module also holds
what the operations share: running operational commands
(`Station.cli`), the reply of a configuration change (`commitReply`), reading a
set of a column for the router (`Station.setOf`), the router's overlay list under
a key (`Station.disabled`), and the listing of managed entries that comes with
operational output (`managedList`, `Station.display`).
-/

namespace NetFleet.Control

open NetFleet (Json Fault Reply Output)
open NetFleet.Schema (Node)

/-- How a change to the router is applied. -/
structure Options where
  /-- load and compare the change, then discard it; the overlay and the
  inventory are not written -/
  test : Bool := false
  /-- report the configuration lines loaded -/
  debug : Bool := false
  /-- apply the change even when the overlay mark already agrees; the mark is
  left as it was -/
  force : Bool := false
  /-- also write the disabled flag to the inventory -/
  permanent : Bool := false

/-- The overlay store as a station reaches it: read the whole store, write it
back. -/
structure Keeper (m : Type → Type) where
  read : m Overlay.Store
  write : Overlay.Store → m Unit

/-- The services of the operations on one router. -/
structure Station (m : Type → Type) where
  netdb : Netdb.Client m
  overlay : Option (Keeper m) := none
  shell : Option (Router.Shell m) := none
  facts : Router.Facts
  user : String := ""
  /-- whether changes are recorded in the journal -/
  audited : Bool := true

/-- Why an operation stopped without an answer. -/
structure Abort where
  message : String

/-- An operation: it runs on the station's monad, adds events to the journal,
and may stop without an answer. -/
abbrev Op (m : Type → Type) := ExceptT Abort (StateT (List Audit.Event) m)

/-- The reply for a fault. -/
def faultReply (f : Fault) : Reply := Reply.ofFault (some f)

/-- The refusal of a station configured without a service it requires: the
inventory client and the facts about the router must both be given, and each
one missing adds its message. -/
def configFault (hasNetdb hasFacts : Bool) : Option Fault :=
  let ms := (if hasNetdb then [] else ["netdb: required"]) ++ (if hasFacts then [] else ["grains: required"])
  if ms.isEmpty then none else some (.validation ms)

/-- The fault of an operation that needs the router's shell when there is none. -/
def noDevice : Fault := .plain "no router connection configured"

/-- The fault of an operation that needs the overlay when there is none. -/
def noOverlay : Fault := .plain "no overlay store configured"

/-- The refusal of operational commands on routers that do not take them. -/
def unsupportedSystem : String := "unsupported operating system."

/-- The reply of a configuration change: its outcome and comment, with the
difference it made and, when asked for, the lines loaded. -/
def commitReply (c : Router.CommitResult) : Reply :=
  { result := c.result, comment := c.comment
    out := some (.data (.obj ([("already_configured", .bool c.alreadyConfigured), ("diff", .str c.diff)] ++
      (if c.loadedConfig = "" then [] else [("loaded_config", .str c.loadedConfig)])))) }

/-- The listing of managed entries that comes with operational output: a title,
a rule, and one line per entry, those in `disabled` flagged. -/
def managedList (title : String) (names disabled : List String) : String :=
  title ++ ":\n--- \n" ++
    "\n".intercalate (names.map fun n => if disabled.contains n then n ++ "\t[disabled]" else n)

/-- The comment of an operational display, as far as it could be made. -/
inductive Listing where
  /-- the inventory could not be read -/
  | unreachable
  /-- the overlay could not be read -/
  | failed (f : Fault)
  | text (s : String)

variable {m : Type → Type} [Monad m]

/-- Run a call to a service, with its fault as a value. -/
def attempt {α : Type} (call : Netdb.Call m α) : Op m (Except Fault α) :=
  monadLift (call.run : m (Except Fault α))

namespace Station

/-- The id of the router. -/
def router (s : Station m) : String := s.facts.id

/-- The overlay lists of the router. -/
def lists (s : Station m) : Overlay.Lists := ⟨s.router⟩

/-- The router's overlay list under a key; empty without an overlay store. -/
def disabled (s : Station m) (key : String) : Op m (Except Fault (List String)) := do
  match s.overlay with
  | none => return .ok []
  | some k =>
    let store ← monadLift k.read
    return (s.lists.entries store key).map (·.1)

/-- Run operational commands on the router; only VyOS routers take them. The
output is each command's, by command. -/
def cli (s : Station m) (cmds : List String) : Op m Reply := do
  if !s.facts.isVyos then return Reply.fail unsupportedSystem
  match s.shell with
  | none => return faultReply noDevice
  | some sh =>
    let (outs, err) ← monadLift (Router.runCommands sh cmds [])
    match err with
    | some f => return faultReply f
    | none => return Reply.ok "" (some (.commands outs))

/-- Operational output with a listing of managed entries as its comment. A
failed command is answered as it is; an inventory that cannot be read leaves
the output with a comment that says so. -/
def display (s : Station m) (cmd : String) (listing : Op m Listing) : Op m Reply := do
  let r ← s.cli [cmd]
  if !r.result then return r
  match ← listing with
  | .unreachable => return { r with comment := "netdb API is down" }
  | .failed f => return faultReply f
  | .text t => return { r with comment := t }

/-- The journal's event of an operation on a target, before its reply is known. -/
def event (s : Station m) (operation target : String) (opts : Options) : Audit.Event :=
  { user := s.user, router := s.router, operation := operation, target := target
    test := opts.test, force := opts.force, permanent := opts.permanent }

/-- Record an operation in the journal, unless the station is not audited. -/
def record (s : Station m) (operation target : String) (opts : Options) (r : Reply) : Op m Unit := do
  if !s.audited then return
  modify (· ++ [(s.event operation target opts).withReply r])

/-- Run an operation and record it with its reply; an operation that stops
without an answer is not recorded. -/
def audit (s : Station m) (operation target : String) (opts : Options) (body : Op m Reply) :
    Op m Reply := do
  let r ← body
  s.record operation target opts r
  return r

/-- The router's set of a column, decoded with the column's shape; a set that
holds nothing is the zero of the shape. -/
def setOf (s : Station m) (k : Column.Kind) : Op m (Except Fault Node) := do
  return (← attempt (s.netdb.container s.router k.name)).map fun doc =>
    (doc.set? s.router).getD k.setShape.zero

/-- The router's interfaces, by name in sorted order. -/
def interfaces (s : Station m) : Op m (Except Fault (List (String × Node))) := do
  return (← s.setOf .iface).map fun n => n.entries.map fun (k, v) => (k.render, v)

/-- The router's interfaces whose names pass a test. -/
def interfacesWhere (s : Station m) (p : String → Bool) : Op m (Except Fault (List (String × Node))) := do
  return (← s.interfaces).map (·.filter fun kv => p kv.1)

end Station

end NetFleet.Control
