import NetFleet.Inventory.Desk

/-!
# Clients on a wire

To say what a client sends, its link is a wire: every request is recorded, in
order and with the service it went to, and is answered by a function of the
requests sent before it (`Answers`). However the services answer, and whatever
state they keep, their behaviour is such a function, so a statement made for
every `Answers` holds for every behaviour of the services.

`Call.onWire` runs a call from the requests already sent and gives its outcome
and the requests sent by then; `Job.onWire` does the same for a job of the
inventory desk, with its journal. The one lemma that opens a client's request is
`call_onWire`: the request is sent when its target reads as a URL, and then it
is the one request added, answered as `receive` reads the answer.
-/

namespace NetFleet.Netdb

open NetFleet (Json Fault Reply)
open NetFleet.Http

/-- The services a client talks to. -/
inductive Service where
  | data
  | util
deriving DecidableEq

/-- A request on the wire, with the service it went to. -/
structure Sent where
  service : Service
  request : Request

/-- How the services answer: each request from the ones sent before it. -/
abbrev Answers := List Sent → Sent → Exchange

/-- Computations that send requests; the state is what was sent so far. -/
abbrev Wire := StateM (List Sent)

/-- The link to a service on the wire. -/
def Wire.link (ans : Answers) (s : Service) : Link Wire :=
  ⟨fun r log => (ans log ⟨s, r⟩, log ++ [⟨s, r⟩])⟩

/-- A client of a service on the wire. -/
def Wire.client (ans : Answers) (s : Service) (ep : Endpoint) : Client Wire :=
  ⟨Wire.link ans s, ep⟩

variable {α β : Type}

/-! ### Running a call -/

/-- Run a call from the requests `log` sent before it: its outcome, and the
requests sent by then. -/
def Call.onWire (x : Call Wire α) (log : List Sent) : Except Fault α × List Sent :=
  (x.run.run log).run

namespace Call

@[simp] theorem onWire_pure (a : α) (log : List Sent) :
    (pure a : Call Wire α).onWire log = (.ok a, log) := rfl

@[simp] theorem onWire_throw (f : Fault) (log : List Sent) :
    (throw f : Call Wire α).onWire log = (.error f, log) := rfl

/-- A check made without the wire sends nothing. -/
@[simp] theorem onWire_lift (x : Except Fault α) (log : List Sent) :
    (liftM x : Call Wire α).onWire log = (x, log) := by
  cases x <;> rfl

/-- A step on the wire inside a call cannot fail. -/
@[simp] theorem onWire_send (x : Wire α) (log : List Sent) :
    (liftM x : Call Wire α).onWire log = (.ok (x.run log).1, (x.run log).2) := rfl

/-- A step that succeeds runs on from the requests it sent; one that fails stops. -/
theorem onWire_bind (x : Call Wire α) (f : α → Call Wire β) (log : List Sent) :
    (x >>= f).onWire log =
      match x.onWire log with
      | (.ok a, log') => (f a).onWire log'
      | (.error e, log') => (.error e, log') := by
  simp only [onWire, ExceptT.run_bind, StateT.run_bind]
  rcases (x.run.run log) with ⟨_ | a, log'⟩ <;> rfl

/-- When no continuation sends anything, a call sends what its first step sends. -/
theorem onWire_bind_sent (x : Call Wire α) (f : α → Call Wire β) (log : List Sent)
    (hf : ∀ a log', ((f a).onWire log').2 = log') :
    ((x >>= f).onWire log).2 = (x.onWire log).2 := by
  rw [onWire_bind]
  rcases x.onWire log with ⟨_ | a, log'⟩
  · rfl
  · exact hf a log'

end Call

/-- The request a client sends to read a target as `u`. -/
def requestOf (ep : Endpoint) (method : String) (u : Url) (body : Option Json) : Request :=
  ⟨ep, method, u, body.map (Json.render .html)⟩

/-- A request is sent when its target reads as a URL; it is then the one request
the call adds, and the call answers what `receive` reads from its answer. -/
theorem call_onWire (ans : Answers) (s : Service) (ep : Endpoint) (method endpoint : String)
    (body : Option Json) (params : List (String × List String)) (accepted : List Nat)
    (log : List Sent) :
    ((Wire.client ans s ep).call method endpoint body params accepted).onWire log =
      match Url.parse ep.origin (targetOf ep endpoint params) with
      | .error msg => (.error (.plain msg), log)
      | .ok u =>
        (receive ep method (targetOf ep endpoint params) u accepted
            (ans log ⟨s, requestOf ep method u body⟩),
          log ++ [⟨s, requestOf ep method u body⟩]) := by
  rcases hu : Url.parse ep.origin (targetOf ep endpoint params) with msg | u
  · simp only [Client.call, Wire.client, hu, Call.onWire_bind]
    rfl
  · simp only [Client.call, Wire.client, hu, Call.onWire_bind]
    rcases hr : receive ep method (targetOf ep endpoint params) u accepted
        (ans log ⟨s, requestOf ep method u body⟩) with f | r
    all_goals
      simp only [requestOf] at hr
      simp only [Call.onWire_pure, Call.onWire_send, Wire.link, StateT.run, hr]
      rfl

/-! ### Running a job of the desk -/

/-- A desk whose clients are on the wire: the database at `ep`, and the utility
service at `utilEp` when there is one. -/
def wiredDesk (ans : Answers) (ep : Endpoint) (utilEp : Option Endpoint) (user : String)
    (audited : Bool) : Inventory.Desk Wire :=
  { netdb := Wire.client ans .data ep, util := utilEp.map (Wire.client ans .util), user, audited }

/-- Run a job from the journal `J` and the requests `log` sent before it: its
answer and journal, and the requests sent by then. -/
def Job.onWire (x : Inventory.Job Wire α) (J : List Audit.Event) (log : List Sent) :
    (α × List Audit.Event) × List Sent :=
  ((x.run J).run log).run

namespace Job

@[simp] theorem onWire_pure (a : α) (J : List Audit.Event) (log : List Sent) :
    Job.onWire (pure a : Inventory.Job Wire α) J log = ((a, J), log) := rfl

/-- A computation on the wire inside a job leaves the journal alone. -/
@[simp] theorem onWire_send (y : Wire α) (J : List Audit.Event) (log : List Sent) :
    Job.onWire (liftM y : Inventory.Job Wire α) J log = (((y.run log).1, J), (y.run log).2) := rfl

@[simp] theorem onWire_modify (f : List Audit.Event → List Audit.Event) (J : List Audit.Event)
    (log : List Sent) :
    Job.onWire (modify f : Inventory.Job Wire PUnit) J log = ((⟨⟩, f J), log) := rfl

/-- The steps of a job run one after the other. -/
theorem onWire_bind (x : Inventory.Job Wire α) (f : α → Inventory.Job Wire β)
    (J : List Audit.Event) (log : List Sent) :
    Job.onWire (x >>= f) J log =
      let ((a, J'), log') := Job.onWire x J log
      Job.onWire (f a) J' log' := rfl

/-- When no continuation sends anything, a job sends what its first step sends. -/
theorem onWire_bind_sent (x : Inventory.Job Wire α) (f : α → Inventory.Job Wire β)
    (J : List Audit.Event) (log : List Sent) (hf : ∀ a J' log', (Job.onWire (f a) J' log').2 = log') :
    (Job.onWire (x >>= f) J log).2 = (Job.onWire x J log).2 := by
  rw [onWire_bind]
  rcases Job.onWire x J log with ⟨⟨a, J'⟩, log'⟩
  exact hf a J' log'

end Job

/-- Recording a reply adds its event to the journal, unless the run is a dry run
or the desk is not audited. -/
theorem record_onWire (d : Inventory.Desk Wire) (operation setId target : String) (test : Bool)
    (r : Reply) (J : List Audit.Event) (log : List Sent) :
    Job.onWire (d.record operation setId target test r) J log =
      ((⟨⟩, if test || !d.audited then J else
        J ++ [({ user := d.user, router := setId, operation, target, test } : Audit.Event).withReply r]),
        log) := by
  unfold Inventory.Desk.record
  by_cases h : (test || !d.audited) = true
  · simp only [h, if_true]
    rfl
  · simp only [h, Bool.false_eq_true, if_false]
    rfl

/-- Recording an event sends nothing. -/
theorem record_sends (d : Inventory.Desk Wire) (operation setId target : String) (test : Bool)
    (r : Reply) (J : List Audit.Event) (log : List Sent) :
    (Job.onWire (d.record operation setId target test r) J log).2 = log := by
  rw [record_onWire]

/-- The reply for a call is the envelope of its answer or the reply for its
fault; the call's requests are the job's. -/
theorem answer_onWire (x : Call Wire Response) (J : List Audit.Event) (log : List Sent) :
    Job.onWire (Inventory.answer x) J log =
      ((match (x.onWire log).1 with
        | .ok r => r.envelope
        | .error f => Reply.ofFault (some f), J), (x.onWire log).2) := by
  simp only [Inventory.answer, Job.onWire_bind, Job.onWire_send, Call.onWire]
  rcases (x.run.run log) with ⟨_ | r, log'⟩ <;> rfl

end NetFleet.Netdb
