import NetFleet.Netdb.Client
import NetFleet.Audit.Event
import NetFleet.Reply

/-!
# The inventory desk

Jobs that act on the inventory database as a whole, rather than on one router,
run at a desk: a client of the database, perhaps a client of the utility service,
the user the jobs run for, and whether their writes are audited.

A job answers with a `Reply` and may record audit events: one per write that was
not a dry run, with the reply's outcome. The journal is kept in the order the
events happened.

* `Desk.answer` turns a request into a reply: the envelope of the answer, or
  the reply for the fault.
* `Desk.callUtil` sends to the utility service; without one the reply is an
  error that says so.
* `terse` drops all but the outcome and the comment of a clean success, for
  jobs that are quiet unless asked.
-/

namespace NetFleet.Inventory

open NetFleet (Json Fault Reply Output)

/-- What the jobs work with. -/
structure Desk (m : Type → Type) where
  netdb : Netdb.Client m
  util : Option (Netdb.Client m)
  user : String
  /-- whether writes are recorded in the journal -/
  audited : Bool := true

/-- A job: it runs on the desk's monad and adds events to the journal. -/
abbrev Job (m : Type → Type) := StateT (List Audit.Event) m

/-- The comment of writes that were only checked. -/
def testRunComment : String := "Test run. Database not updated."

/-- An error reply with a comment. -/
def errorOf (comment : String) : Reply := { result := false, error := true, comment }

variable {m : Type → Type} [Monad m]

/-- The reply for a request to a service. -/
def answer (call : Netdb.Call m Netdb.Response) : Job m Reply := do
  match ← (call.run : m (Except Fault Netdb.Response)) with
  | .ok r => pure r.envelope
  | .error f => pure (Reply.ofFault (some f))

/-- Send a request to the utility service; unless `test`, the service commits. -/
def Desk.callUtil (d : Desk m) (method endpoint : String) (data : Option Json)
    (params : List (String × List String)) (test : Bool) : Job m Reply :=
  match d.util with
  | none => pure (errorOf "netdb-util is not configured")
  | some c => answer (c.request method endpoint data params test)

/-- Record a write in the journal: not for a dry run, and only when the desk is
audited. -/
def Desk.record (d : Desk m) (operation setId target : String) (test : Bool) (r : Reply) :
    Job m Unit := do
  if test || !d.audited then return
  let e : Audit.Event := { user := d.user, router := setId, operation, target, test }
  modify (· ++ [e.withReply r])

/-- A clean success reduced to its outcome and comment, unless `verbose`. -/
def terse (r : Reply) (verbose : Bool) : Reply :=
  if r.result && !r.error && !verbose then { result := true, comment := r.comment } else r

end NetFleet.Inventory
