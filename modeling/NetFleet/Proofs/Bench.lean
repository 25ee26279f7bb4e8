import Mathlib
import NetFleet.Control.Bench

/-!
# Operations on the bench

`Bench.exec` runs an operation of a station on the bench: from a journal and the
state of the stand-ins it gives the answer (or the abort), the journal and the
bench afterwards. Its lemmas take a `do` block apart one step at a time.

Each service a station reaches on the bench changes its own part of the bench:

* a call to the inventory changes the state of the services and leaves the
  overlay store and the router's shell as they were (`Bench.Keeps`); these frame
  facts are triples, proved by `mvcgen` through the client's code;
* reading the overlay changes nothing, and writing it changes the store only;
* loading a template runs at most one command on the shell and changes nothing
  else; a load that succeeds ran exactly one, and its result is a success.
-/

namespace NetFleet.Control

open NetFleet (Fault)
open Std.Do

set_option mvcgen.warning false

variable {α β : Type}

/-! ### Running an operation -/

/-- Run an operation on the bench from the journal `J`: the answer or the abort,
the journal, and the bench afterwards. -/
def Bench.exec (x : Op (StateM Bench) α) (J : List Audit.Event) (b : Bench) :
    (Except Abort α × List Audit.Event) × Bench :=
  ((x.run.run J).run b).run

namespace Bench

@[simp] theorem exec_pure (a : α) (J : List Audit.Event) (b : Bench) :
    exec (pure a) J b = ((.ok a, J), b) := rfl

@[simp] theorem exec_throw (e : Abort) (J : List Audit.Event) (b : Bench) :
    exec (throw e : Op (StateM Bench) α) J b = ((.error e, J), b) := rfl

@[simp] theorem exec_lift (y : StateM Bench α) (J : List Audit.Event) (b : Bench) :
    exec (monadLift y) J b = ((.ok (y.run b).run.1, J), (y.run b).run.2) := rfl

@[simp] theorem exec_modify (f : List Audit.Event → List Audit.Event) (J : List Audit.Event)
    (b : Bench) : exec (modify f : Op (StateM Bench) PUnit) J b = ((.ok ⟨⟩, f J), b) := rfl

@[simp] theorem exec_map (f : α → β) (x : Op (StateM Bench) α) (J : List Audit.Event) (b : Bench) :
    exec (f <$> x) J b =
      match exec x J b with
      | ((.ok a, J₁), b₁) => ((.ok (f a), J₁), b₁)
      | ((.error e, J₁), b₁) => ((.error e, J₁), b₁) := by
  simp only [exec, ExceptT.run_map, StateT.run_map]
  rcases ((x.run.run J).run b) with ⟨⟨_ | a, J₁⟩, b₁⟩ <;> rfl

/-- A step that answers runs on from its journal and bench; one that aborts stops. -/
@[simp] theorem exec_bind (x : Op (StateM Bench) α) (f : α → Op (StateM Bench) β)
    (J : List Audit.Event) (b : Bench) :
    exec (x >>= f) J b =
      match exec x J b with
      | ((.ok a, J₁), b₁) => exec (f a) J₁ b₁
      | ((.error e, J₁), b₁) => ((.error e, J₁), b₁) := by
  simp only [exec, ExceptT.run_bind, StateT.run_bind]
  rcases ((x.run.run J).run b) with ⟨⟨_ | a, J₁⟩, b₁⟩ <;> simp <;> rfl

end Bench

/-! ### What the inventory's calls change -/

/-- The overlay store and the shell of a bench are `st` and `sh`. -/
def Bench.Keeps (st : Overlay.Store) (sh : Router.ScriptedShell) (b : Bench) : Prop :=
  b.store = st ∧ b.shell = sh

namespace Bench

variable (isData : Bool) (ep : Http.Endpoint) (st : Overlay.Store) (sh : Router.ScriptedShell)

@[spec] theorem call_keeps (method endpoint : String) (body : Option NetFleet.Json)
    (params : List (String × List String)) (accepted : List Nat) :
    ⦃fun b => ⌜b.Keeps st sh⌝⦄ (client isData ep).call method endpoint body params accepted
    ⦃post⟨fun _ b => ⌜b.Keeps st sh⌝, fun _ b => ⌜b.Keeps st sh⌝⟩⦄ := by
  mvcgen [Netdb.Client.call, client]

/-- An `Except` value lifted into a call, as the `match` that `mvcgen` takes apart. -/
theorem liftExcept_eq (x : Except Fault α) :
    (MonadLift.monadLift x : Netdb.Call (StateM Bench) α) =
      match x with
      | .ok a => pure a
      | .error e => throw e := by
  cases x <;> rfl

@[spec] theorem container_keeps (setId column : String) :
    ⦃fun b => ⌜b.Keeps st sh⌝⦄ (client isData ep).container setId column
    ⦃post⟨fun _ b => ⌜b.Keeps st sh⌝, fun _ b => ⌜b.Keeps st sh⌝⟩⦄ := by
  mvcgen [Netdb.Client.container, Netdb.Client.getColumn, Netdb.Client.get, liftExcept_eq]

@[spec] theorem setInterfaceDisabled_keeps (setId iface : String) (disabled test : Bool) :
    ⦃fun b => ⌜b.Keeps st sh⌝⦄ (client isData ep).setInterfaceDisabled setId iface disabled test
    ⦃post⟨fun _ b => ⌜b.Keeps st sh⌝, fun _ b => ⌜b.Keeps st sh⌝⟩⦄ := by
  mvcgen [Netdb.Client.setInterfaceDisabled, Netdb.Client.fragment, Netdb.Client.query,
    Netdb.Client.validateAndUpdate, Netdb.Client.update, Netdb.Client.write, liftExcept_eq]

/-- A call that keeps the store and the shell as a triple keeps them in its run. -/
theorem keeps_of_triple {x : Netdb.Call (StateM Bench) α}
    (h : ∀ st sh, ⦃fun b => ⌜b.Keeps st sh⌝⦄ x
      ⦃post⟨fun _ b => ⌜b.Keeps st sh⌝, fun _ b => ⌜b.Keeps st sh⌝⟩⦄) (b : Bench) :
    ((x.run.run b).run.2).Keeps b.store b.shell := by
  have hrun : ⦃fun b' => ⌜b'.Keeps b.store b.shell⌝⦄ x.run ⦃⇓ _ b' => ⌜b'.Keeps b.store b.shell⌝⦄ := by
    have hx := h b.store b.shell
    mvcgen [hx]
  exact StateM.of_wp_run_eq rfl (fun p : Except Fault α × Bench => p.2.Keeps b.store b.shell)
    (fun _ => hrun b ⟨rfl, rfl⟩)

/-- A call to a service, run inside an operation: it answers with its fault as a
value, leaves the journal alone, and keeps the store and the shell. -/
theorem exec_attempt {x : Netdb.Call (StateM Bench) α}
    (h : ∀ st sh, ⦃fun b => ⌜b.Keeps st sh⌝⦄ x
      ⦃post⟨fun _ b => ⌜b.Keeps st sh⌝, fun _ b => ⌜b.Keeps st sh⌝⟩⦄)
    (J : List Audit.Event) (b : Bench) :
    ∃ b', exec (attempt x) J b = ((.ok (x.run.run b).run.1, J), b') ∧ b'.Keeps b.store b.shell :=
  ⟨_, rfl, keeps_of_triple h b⟩

end Bench

/-! ### The overlay store and the shell -/

namespace Bench

theorem exec_read (J : List Audit.Event) (b : Bench) :
    exec (monadLift keeper.read) J b = ((.ok b.store, J), b) := rfl

theorem exec_write (st : Overlay.Store) (J : List Audit.Event) (b : Bench) :
    exec (monadLift (keeper.write st)) J b = ((.ok ⟨⟩, J), { b with store := st }) := rfl

/-- Every command run on a scripted shell is logged, whatever it answers. -/
theorem run_log (sh : Router.ScriptedShell) (cmd : String) : (sh.run cmd).2.log = sh.log ++ [cmd] := by
  simp only [Router.ScriptedShell.run]
  rcases Router.pickResponse cmd sh.responses with _ | ⟨a, rs⟩
  · cases sh.fallback <;> rfl
  · rfl

@[simp] theorem shellOf_run (cmd : String) (b : Bench) :
    (shellOf.run cmd).run b = pure ((b.shell.run cmd).1, { b with shell := (b.shell.run cmd).2 }) := rfl

/-- A configuration session that the shell ran without an error is a success,
whatever it printed. -/
theorem parseCommit_result (out : String) (test : Bool) : (Router.parseCommit out test).result = true := by
  simp only [Router.parseCommit]
  split_ifs <;> rfl

/-- What loading a template left on the bench: the store as it was, and the
commands `cmds` run on the shell, at most one; a load that succeeded ran one and
reports a success. -/
def Loaded (b : Bench) (res : Except Fault Router.CommitResult) (b' : Bench) : Prop :=
  b'.store = b.store ∧ ∃ cmds, b'.shell.log = b.shell.log ++ cmds ∧ cmds.length ≤ 1 ∧
    ∀ c, res = .ok c → cmds.length = 1 ∧ c.result = true

theorem loaded_run (req : Router.TemplateRequest) (b : Bench) :
    Loaded b ((Router.loadTemplate shellOf req).run b).run.1
      ((Router.loadTemplate shellOf req).run b).run.2 := by
  unfold Router.loadTemplate
  rcases Router.render req with f | lines
  · exact ⟨rfl, [], by simp, by simp, by simp⟩
  · by_cases h : lines.isEmpty
    · simp only [h, if_true]
      exact ⟨rfl, [], by simp, by simp, by simp⟩
    -- the one command is the session's script; what it answered decides the result
    · have hlog := run_log b.shell (Router.commitScript lines req.test req.commitComment)
      rcases hsh : b.shell.run (Router.commitScript lines req.test req.commitComment) with
        ⟨⟨out, err⟩, sh'⟩
      rw [hsh] at hlog
      simp only [h, hsh, Bool.false_eq_true, if_false, StateT.run_bind, shellOf_run, pure_bind]
      cases err with
      | some e => exact ⟨rfl, _, hlog, by simp, by simp⟩
      | none =>
        refine ⟨rfl, _, hlog, by simp, ?_⟩
        rintro c ⟨⟩
        split_ifs <;> simp [parseCommit_result]

theorem exec_load (req : Router.TemplateRequest) (J : List Audit.Event) (b : Bench) :
    ∃ res b₁, exec (monadLift (Router.loadTemplate shellOf req)) J b = ((.ok res, J), b₁) ∧
      Loaded b res b₁ :=
  ⟨_, _, rfl, loaded_run req b⟩

end Bench

/-! ### A station on the bench -/

namespace Bench

variable (ep : Http.Endpoint) (facts : Router.Facts) (user : String) (ov sh au : Bool)

@[simp] theorem station_overlay :
    (station ep facts user ov sh au).overlay = if ov then some keeper else none := rfl

@[simp] theorem station_shell :
    (station ep facts user ov sh au).shell = if sh then some shellOf else none := rfl

@[simp] theorem station_netdb : (station ep facts user ov sh au).netdb = client true ep := rfl

@[simp] theorem station_router : (station ep facts user ov sh au).router = facts.id := rfl

/-- The router's set of a column as a station on the bench reads it from `b`. -/
def setIn (router : String) (k : Column.Kind) (b : Bench) : Except Fault Schema.Node :=
  ((((client true ep).container router k.name).run.run b).run.1).map fun doc =>
    (doc.set? router).getD k.setShape.zero

/-- Reading a set of a column answers what the inventory holds and keeps the
store and the shell. -/
theorem exec_setOf (k : Column.Kind) (J : List Audit.Event) (b : Bench) :
    ∃ b₁, exec ((station ep facts user ov sh au).setOf k) J b = ((.ok (setIn ep facts.id k b), J), b₁) ∧
      b₁.Keeps b.store b.shell := by
  obtain ⟨b₁, h, hk⟩ := exec_attempt (fun st sh => container_keeps true ep st sh facts.id k.name) J b
  exact ⟨b₁, by simp [Station.setOf, h, setIn], hk⟩

end Bench

end NetFleet.Control
