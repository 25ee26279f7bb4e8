import NetFleet.Proofs.CheckedWrites
import NetFleet.Proofs.FailClosed
import NetFleet.Inventory.Columns
import NetFleet.Inventory.Connectors
import NetFleet.Inventory.Peering

/-!
# The audit trail of the desk's writes

Every write job of the desk (`Write`) has one of a few shapes: it checks its
arguments without the wire, may read the database, tries one write, to the
database or to the utility service, and records the reply in the journal. On the
wire, whatever the services answer, a run leaves the trail that `Audited`
describes:

* it sends at most one write, as its last request, and records at most one event;
* a dry run records nothing, and each of its requests is marked as one: a read,
  a write to a checking endpoint of the database, or a request to the utility
  service whose query does not say `test`;
* a desk that is not audited records nothing;
* on an audited desk, a run that commits and sends a write records exactly one
  event, for the desk's user, whose success is the result that the write's answer
  reports, before the reply is trimmed;
* an event reports a success only after a write. An event can follow no write:
  when the write could not be sent (no utility service, data that JSON cannot
  hold, a target that reads as no URL) the event records that failure;
* a run whose arguments fail their checks (`Write.admits`) sends and records
  nothing, and one whose arguments pass them records its event when it commits on
  an audited desk. The address jobs check the interface they edit, so they read
  it first and may stop there, before any write.

The shapes are one step that tries a write (`Tries`: `callUtil_tries`,
`answer_write_tries`), followed by the record of its reply (`tries_record`),
with reads before them (`auditedRun_bind_reads`).
-/

namespace NetFleet.Netdb

open NetFleet (Json Fault Reply)
open NetFleet.Http

/-! ### Writes, dry runs and results -/

/-- Whether a request of a write job writes: every request to the utility service
does, and one to the database that is not a read. -/
def Sent.isWrite (s : Sent) : Bool := s.service == .util || s.request.method != "GET"

/-- The statuses under which a service answers with an envelope. -/
def Service.accepted : Service → List Nat
  | .data => dataStatuses
  | .util => utilStatuses

/-- The result an answer reports: that of the envelope it carries under an
accepted status, and a failure when it carries none. -/
def resultOf (accepted : List Nat) : Exchange → Bool
  | .failed _ => false
  | .answered status body =>
    accepted.contains status &&
      match Response.read status body with
      | .ok r => r.result
      | .error _ => false

/-- A request that commits nothing: a read of the database, a write to a checking
endpoint of the database, or a request to the utility service whose query, after
a path without `?`, does not name `test`, which the service then only tries. -/
def DryRun (ep : Endpoint) (utilEp : Option Endpoint) (s : Sent) : Prop :=
  s.isWrite = false ∨
  (∃ column method u body, Url.parse ep.origin (ep.base ++ (column ++ "/validate")) = .ok u ∧
    s = ⟨.data, requestOf ep method u body⟩) ∨
  (∃ uep path params method u body, utilEp = some uep ∧ '?' ∉ path.toList ∧
    params.lookup "test" = none ∧ Url.parse uep.origin (targetOf uep path params) = .ok u ∧
    s = ⟨.util, requestOf uep method u body⟩)

/-- The digits of an integer hold no `?`. -/
theorem repr_noQuery (n : Int) : '?' ∉ n.repr.toList := by
  have hd : ∀ m, '?' ∉ Nat.toDigits 10 m := fun m h => by
    have := Nat.isDigit_of_mem_toDigits (by decide) (by decide) h
    revert this
    decide
  cases n <;> simp [Int.repr, hd]

/-- A column the inventory knows holds no `?` in its name. -/
theorem validColumn_noQuery {column : String} (h : Inventory.validColumn column = true) :
    '?' ∉ column.toList := by
  obtain ⟨k, hk⟩ := Option.isSome_iff_exists.mp h
  have hname : k.name = column := by simpa using List.find?_some hk
  subst hname
  cases k <;> decide

/-- The reply for what `receive` reads reports the result of the answer. -/
theorem receive_reply_result (cep : Endpoint) (method target : String) (u : Url)
    (accepted : List Nat) (x : Exchange) :
    (match receive cep method target u accepted x with
      | .ok r => r.envelope
      | .error f => Reply.ofFault (some f)).result = resultOf accepted x := by
  cases x with
  | failed reason => exact Overlay.ofFault_some_result _
  | answered status body =>
    simp only [receive, resultOf]
    by_cases hs : status ∈ accepted
    · rcases hr : Response.read status body with msg | r
      · simp [hs, Overlay.ofFault_some_result]
      · simp [hs, Response.envelope]
    · simp [hs, Overlay.ofFault_some_result]

/-! ### The trail of a run -/

section Trail

variable (ans : Answers) (ep : Endpoint) (utilEp : Option Endpoint) (user : String)
  (audited test : Bool)

/-- The audit trail of a run of a write job that sent `sent` after the requests
`log` and added `added` to the journal; `admits` says whether the job's arguments
pass its checks, and `readsFirst` whether the job reads the database before it
checks what to write. A run past its checks that commits on an audited desk
records one event (`attempted`), unless the job reads first and stops before its
write. -/
structure Audited (admits readsFirst : Bool) (log sent : List Sent) (added : List Audit.Event) :
    Prop where
  oneWrite : (sent.filter Sent.isWrite).length ≤ 1
  oneEvent : added.length ≤ 1
  dryRun : test = true → added = [] ∧ ∀ s ∈ sent, DryRun ep utilEp s
  unaudited : audited = false → added = []
  recorded : test = false → audited = true → ∀ s ∈ sent, s.isWrite = true →
    sent.getLast? = some s ∧ ∃ e, added = [e] ∧ e.user = user ∧ e.test = false ∧
      e.success = resultOf s.service.accepted (ans (log ++ sent.dropLast) s)
  successWrote : ∀ e ∈ added, e.success = true → ∃ s ∈ sent, s.isWrite = true
  rejected : admits = false → sent = [] ∧ added = []
  attempted : admits = true → test = false → audited = true →
    added.length = 1 ∨ readsFirst = true ∧ ∀ s ∈ sent, s.isWrite = false

namespace Audited

/-- A run that sends and records nothing: its arguments failed their checks, it
is a test or the desk is not audited, or it read first. -/
theorem quiet (admits readsFirst : Bool) (log : List Sent)
    (h : admits = true → test = false → audited = true → readsFirst = true) :
    Audited ans ep utilEp user audited test admits readsFirst log [] [] where
  oneWrite := by simp
  oneEvent := by simp
  dryRun _ := by simp
  unaudited _ := rfl
  recorded _ _ s hs := by simp at hs
  successWrote e he := by simp at he
  rejected _ := ⟨rfl, rfl⟩
  attempted ha ht hau := .inr ⟨h ha ht hau, by simp⟩

/-- Reads before a run add no write and no event, and keep its trail. -/
theorem after_reads {readsFirst : Bool} {log sent reads : List Sent} {added : List Audit.Event}
    (hr : ∀ s ∈ reads, s.isWrite = false)
    (h : Audited ans ep utilEp user audited test true readsFirst (log ++ reads) sent added) :
    Audited ans ep utilEp user audited test true readsFirst log (reads ++ sent) added := by
  have hreads : reads.filter Sent.isWrite = [] := List.filter_eq_nil_iff.mpr fun s hs => by
    simp [hr s hs]
  -- a write of the whole run is one of the run after the reads
  have hwrite : ∀ s ∈ reads ++ sent, s.isWrite = true → s ∈ sent := by
    intro s hs hw
    rcases List.mem_append.mp hs with hs | hs
    · simp [hr s hs] at hw
    · exact hs
  refine ⟨?_, h.oneEvent, ?_, h.unaudited, ?_, ?_, (fun h => by cases h), ?_⟩
  · simpa [List.filter_append, hreads] using h.oneWrite
  · intro ht
    refine ⟨(h.dryRun ht).1, fun s hs => ?_⟩
    rcases List.mem_append.mp hs with hs | hs
    · exact .inl (hr s hs)
    · exact (h.dryRun ht).2 s hs
  · intro ht ha s hs hw
    have hs' := hwrite s hs hw
    have hne : sent ≠ [] := List.ne_nil_of_mem hs'
    obtain ⟨hlast, e, he, heu, het, hes⟩ := h.recorded ht ha s hs' hw
    refine ⟨by rw [List.getLast?_append_of_ne_nil _ hne, hlast], e, he, heu, het, ?_⟩
    rw [hes, List.dropLast_append_of_ne_nil hne, List.append_assoc]
  · intro e he hs
    obtain ⟨s, hs, hw⟩ := h.successWrote e he hs
    exact ⟨s, List.mem_append_right _ hs, hw⟩
  · intro ha ht hau
    rcases h.attempted ha ht hau with h1 | ⟨hrf, hs⟩
    · exact .inl h1
    · refine .inr ⟨hrf, fun s hmem => ?_⟩
      rcases List.mem_append.mp hmem with hmem | hmem
      · exact hr s hmem
      · exact hs s hmem

/-- A run that tries the write `w` and records the event `e` of its reply, unless
it is a dry run or the desk is not audited. -/
theorem attempt {readsFirst : Bool} {log : List Sent} (w : Option Sent) (e : Audit.Event)
    (hw : ∀ s ∈ w, s.isWrite = true ∧ (test = true → DryRun ep utilEp s))
    (hu : e.user = user) (ht : e.test = test)
    (hs : e.success = (w.map fun s => resultOf s.service.accepted (ans log s)).getD false) :
    Audited ans ep utilEp user audited test true readsFirst log w.toList
      (if test || !audited then [] else [e]) where
  oneWrite := (List.length_filter_le _ _).trans (by cases w <;> simp)
  oneEvent := by split <;> simp
  dryRun h := by
    subst h
    exact ⟨rfl, fun s hs => (hw s (Option.mem_toList.mp hs)).2 rfl⟩
  unaudited h := by simp [h]
  recorded h ha s hmem _ := by
    subst h ha
    obtain rfl : w = some s := Option.mem_toList.mp hmem
    refine ⟨rfl, e, rfl, hu, ht, ?_⟩
    simpa using hs
  successWrote e' he' hsucc := by
    have he'' : e' = e := by
      split at he'
      · simp at he'
      · simpa using he'
    subst he''
    cases w with
    | none => simp [hs] at hsucc
    | some s => exact ⟨s, by simp, (hw s rfl).1⟩
  rejected h := by cases h
  attempted _ ht ha := .inl (by simp [ht, ha])

end Audited

end Trail

/-! ### Steps on the wire -/

/-- Replacing column data answers as its write does, with the data as output
when the write succeeds. -/
theorem update_onWire (ans : Answers) (ep : Endpoint) (column : String) (data : Option Json)
    (test : Bool) (log : List Sent) :
    ((Wire.client ans .data ep).update column data test).onWire log =
      match ((Wire.client ans .data ep).write "PUT" column data test).onWire log with
      | (.ok r, log') => (.ok (if r.result then { r with out := some (data.getD .null) } else r), log')
      | (.error f, log') => (.error f, log') := by
  rw [Client.update, Call.onWire_bind]
  rcases ((Wire.client ans .data ep).write "PUT" column data test).onWire log with ⟨_ | r, log'⟩
  · rfl
  · dsimp only
    split <;> rfl

/-- Replacing column data sends what its write sends, and its reply reports the
write's result. -/
theorem answer_update (ans : Answers) (ep : Endpoint) (column : String) (data : Option Json)
    (test : Bool) (J : List Audit.Event) (log : List Sent) :
    let upd := Job.onWire (Inventory.answer ((Wire.client ans .data ep).update column data test)) J log
    let wr := Job.onWire
      (Inventory.answer ((Wire.client ans .data ep).write "PUT" column data test)) J log
    upd.2 = wr.2 ∧ upd.1.2 = wr.1.2 ∧ upd.1.1.result = wr.1.1.result := by
  dsimp only
  rw [answer_onWire, answer_onWire, update_onWire]
  rcases ((Wire.client ans .data ep).write "PUT" column data test).onWire log with ⟨_ | r, log'⟩
  · exact ⟨rfl, rfl, rfl⟩
  -- only a success's output changes, and not its result
  · refine ⟨rfl, rfl, ?_⟩
    dsimp only
    split <;> rfl

/-- A request to the utility service is the call with the query that says
whether to commit, once its method is one the service takes. -/
theorem request_onWire (ans : Answers) (uep : Endpoint) (method endpoint : String)
    (data : Option Json) (params : List (String × List String)) (test : Bool) (log : List Sent) :
    ((Wire.client ans .util uep).request method endpoint data params test).onWire log =
      if utilMethods.contains method then
        ((Wire.client ans .util uep).call method endpoint data
          (if test then params else (params.filter (·.1 ≠ "test")) ++ [("test", ["false"])])
          utilStatuses).onWire log
      else (.error (.method method), log) := by
  unfold Client.request
  by_cases hm : utilMethods.contains method = true
  · simp only [hm, Bool.not_true, Bool.false_eq_true, if_false, if_true]
  · simp only [hm, Bool.not_false, if_true, Bool.false_eq_true, if_false, Call.onWire_bind]
    rfl

/-! ### Steps that try one write -/

section Runs

variable (ans : Answers) (ep : Endpoint) (utilEp : Option Endpoint) (user : String)
  (audited : Bool)

/-- A run of a job from the journal `J` after the requests `log` leaves the trail
`Audited` describes. -/
def AuditedRun (test admits readsFirst : Bool) (x : Inventory.Job Wire Reply)
    (J : List Audit.Event) (log : List Sent) : Prop :=
  ∃ sent added, (Job.onWire x J log).2 = log ++ sent ∧ (Job.onWire x J log).1.2 = J ++ added ∧
    Audited ans ep utilEp user audited test admits readsFirst log sent added

/-- A step that tries one write: it leaves the journal alone, sends at most the
write `w`, and replies with the result that the write's answer reports, a failure
when nothing was sent. -/
def Tries (test : Bool) (x : Inventory.Job Wire Reply) (J : List Audit.Event) (log : List Sent) :
    Prop :=
  ∃ w : Option Sent, (Job.onWire x J log).2 = log ++ w.toList ∧ (Job.onWire x J log).1.2 = J ∧
    (Job.onWire x J log).1.1.result =
      (w.map fun s => resultOf s.service.accepted (ans log s)).getD false ∧
    ∀ s ∈ w, s.isWrite = true ∧ (test = true → DryRun ep utilEp s)

/-- A step tries what another tries when it sends the same, keeps the journal the
same and replies with the same result. -/
theorem Tries.congr {test : Bool} {x y : Inventory.Job Wire Reply} {J : List Audit.Event}
    {log : List Sent} (h : Tries ans ep utilEp test x J log)
    (h2 : (Job.onWire y J log).2 = (Job.onWire x J log).2)
    (hJ : (Job.onWire y J log).1.2 = (Job.onWire x J log).1.2)
    (hr : (Job.onWire y J log).1.1.result = (Job.onWire x J log).1.1.result) :
    Tries ans ep utilEp test y J log := by
  obtain ⟨w, h2', hJ', hr', hw⟩ := h
  exact ⟨w, h2.trans h2', hJ.trans hJ', hr.trans hr', hw⟩

/-- A call that writes tries its request, sent when its target reads as a URL. -/
theorem answer_call_tries (s : Service) (cep : Endpoint) (method endpoint : String)
    (body : Option Json) (params : List (String × List String)) (test : Bool)
    (J : List Audit.Event) (log : List Sent) (hw : s = .util ∨ method ≠ "GET")
    (hdry : test = true → ∀ u, Url.parse cep.origin (targetOf cep endpoint params) = .ok u →
      DryRun ep utilEp ⟨s, requestOf cep method u body⟩) :
    Tries ans ep utilEp test
      (Inventory.answer ((Wire.client ans s cep).call method endpoint body params s.accepted)) J log := by
  unfold Tries
  rw [answer_onWire, call_onWire]
  rcases hu : Url.parse cep.origin (targetOf cep endpoint params) with msg | u
  · exact ⟨none, by simp, rfl, Overlay.ofFault_some_result _, by simp⟩
  · refine ⟨some ⟨s, requestOf cep method u body⟩, by simp, rfl, receive_reply_result .., ?_⟩
    intro s' hs'
    obtain rfl := Option.some_inj.mp (Option.mem_def.mp hs')
    refine ⟨?_, fun ht => hdry ht u hu⟩
    rcases hw with rfl | hm
    · rfl
    · simp [Sent.isWrite, requestOf, hm]

/-- A write to the database tries one request, to the column or, for a test, to
its checking endpoint. -/
theorem answer_write_tries (method column : String) (data : Option Json) (test : Bool)
    (J : List Audit.Event) (log : List Sent) (hm : method ≠ "GET") :
    Tries ans ep utilEp test
      (Inventory.answer ((Wire.client ans .data ep).write method column data test)) J log := by
  refine answer_call_tries ans ep utilEp .data ep method _ data [] test J log (.inr hm) ?_
  intro ht u hu
  subst ht
  exact .inr (.inl ⟨column, method, u, data, by simpa using hu, rfl⟩)

/-- Replacing column data tries its write. -/
theorem answer_update_tries (column : String) (data : Option Json) (test : Bool)
    (J : List Audit.Event) (log : List Sent) :
    Tries ans ep utilEp test
      (Inventory.answer ((Wire.client ans .data ep).update column data test)) J log := by
  obtain ⟨h2, hJ, hr⟩ := answer_update ans ep column data test J log
  exact (answer_write_tries ans ep utilEp "PUT" column data test J log (by decide)).congr
    ans ep utilEp h2 hJ hr

/-- A call to the utility service tries one request: none without a service or
for a method it does not take. A test's query is the job's own, so it says no
`test` when the job's parameters do not. -/
theorem callUtil_tries (method endpoint : String) (data : Option Json)
    (params : List (String × List String)) (test : Bool) (J : List Audit.Event) (log : List Sent)
    (hq : params.lookup "test" = none) (he : '?' ∉ endpoint.toList) :
    Tries ans ep utilEp test
      ((wiredDesk ans ep utilEp user audited).callUtil method endpoint data params test) J log := by
  cases utilEp with
  | none => exact ⟨none, (List.append_nil _).symm, rfl, rfl, by simp⟩
  | some uep =>
    show Tries ans ep (some uep) test
      (Inventory.answer ((Wire.client ans .util uep).request method endpoint data params test)) J log
    by_cases hm : utilMethods.contains method = true
    · have hcall := answer_call_tries ans ep (some uep) .util uep method endpoint data
        (if test then params else (params.filter (·.1 ≠ "test")) ++ [("test", ["false"])]) test J
        log (.inl rfl) (by
          intro ht u hu
          subst ht
          exact .inr (.inr ⟨uep, endpoint, params, method, u, data, rfl, he, hq, hu, rfl⟩))
      refine hcall.congr ans ep (some uep) ?_ ?_ ?_
      all_goals simp only [answer_onWire, request_onWire, if_pos hm, Service.accepted]
    · refine ⟨none, ?_, ?_, ?_, by simp⟩
      all_goals rw [answer_onWire, request_onWire, if_neg hm]
      · simp
      · exact Overlay.ofFault_some_result _

/-! ### Runs that try one write -/

/-- A run that sends and records nothing leaves a trail, when its arguments failed
their checks, it is a test or the desk is not audited, or it read first. -/
theorem auditedRun_pure (test admits readsFirst : Bool) (r : Reply) (J : List Audit.Event)
    (log : List Sent) (h : admits = true → test = false → audited = true → readsFirst = true) :
    AuditedRun ans ep utilEp user audited test admits readsFirst (pure r) J log :=
  ⟨[], [], (List.append_nil _).symm, (List.append_nil _).symm,
    Audited.quiet ans ep utilEp user audited test admits readsFirst log h⟩

/-- A step that tries a write, followed by the record of its reply, leaves the
trail of an attempt: the event of the reply, unless the run is a dry run or the
desk is not audited. -/
theorem tries_record {test readsFirst : Bool} {x : Inventory.Job Wire Reply}
    {J : List Audit.Event} {log : List Sent} (h : Tries ans ep utilEp test x J log)
    (operation setId target : String) (g : Reply → Reply) :
    AuditedRun ans ep utilEp user audited test true readsFirst
      (x >>= fun r => (wiredDesk ans ep utilEp user audited).record operation setId target test r >>=
        fun _ => pure (g r)) J log := by
  obtain ⟨w, h2, hJ, hres, hw⟩ := h
  rcases hx : Job.onWire x J log with ⟨⟨r, J₁⟩, log₁⟩
  rw [hx] at h2 hJ hres
  dsimp only at h2 hJ hres
  subst log₁ J₁
  let e : Audit.Event := { user, router := setId, operation, target, test }
  have hrun : Job.onWire (x >>= fun r => (wiredDesk ans ep utilEp user audited).record operation
      setId target test r >>= fun _ => pure (g r)) J log =
      ((g r, if test || !audited then J else J ++ [e.withReply r]), log ++ w.toList) := by
    rw [Job.onWire_bind, hx]
    dsimp only
    rw [Job.onWire_bind, record_onWire]
    rfl
  refine ⟨w.toList, if test || !audited then [] else [e.withReply r], by rw [hrun], ?_,
    Audited.attempt ans ep utilEp user audited test w _ hw rfl rfl hres⟩
  rw [hrun]
  split <;> simp

/-- Reads that keep the journal, before a run, keep the run's trail. -/
theorem auditedRun_bind_reads {test readsFirst : Bool} {β : Type} (x : Inventory.Job Wire β)
    (k : β → Inventory.Job Wire Reply) {J : List Audit.Event} {log : List Sent} (reads : List Sent)
    (h2 : (Job.onWire x J log).2 = log ++ reads) (hJ : (Job.onWire x J log).1.2 = J)
    (hr : ∀ s ∈ reads, s.isWrite = false)
    (hk : AuditedRun ans ep utilEp user audited test true readsFirst (k (Job.onWire x J log).1.1) J
      (log ++ reads)) :
    AuditedRun ans ep utilEp user audited test true readsFirst (x >>= k) J log := by
  rcases hx : Job.onWire x J log with ⟨⟨a, J₁⟩, log₁⟩
  rw [hx] at h2 hJ hk
  dsimp only at h2 hJ hk
  subst log₁ J₁
  obtain ⟨sent, added, hs, ha, htrail⟩ := hk
  refine ⟨reads ++ sent, added, ?_, ?_, htrail.after_reads ans ep utilEp user audited test hr⟩
  · rw [Job.onWire_bind, hx]
    simpa using hs
  · rw [Job.onWire_bind, hx]
    exact ha

/-- A check before the wire: a run whose arguments fail it sends and records
nothing. -/
theorem auditedRun_guard (c admits : Bool) (hc : c = !admits) (fail : Reply)
    (x : Inventory.Job Wire Reply) {test readsFirst : Bool} {J : List Audit.Event}
    {log : List Sent}
    (hx : admits = true → AuditedRun ans ep utilEp user audited test true readsFirst x J log) :
    AuditedRun ans ep utilEp user audited test admits readsFirst (if c then pure fail else x) J log := by
  subst hc
  cases admits
  · exact auditedRun_pure ans ep utilEp user audited test false readsFirst fail J log
      (by intro ha; cases ha)
  · exact hx rfl

/-! ### The write jobs -/

/-- Finding an interface sends the query of its fragment, a read, and keeps the
journal. -/
theorem findInterface_onWire (device iface : String) (J : List Audit.Event) (log : List Sent) :
    ∃ reads, (Job.onWire ((wiredDesk ans ep utilEp user audited).findInterface device iface) J
        log).2 = log ++ reads ∧
      (Job.onWire ((wiredDesk ans ep utilEp user audited).findInterface device iface) J log).1.2 = J ∧
      ∀ s ∈ reads, s.isWrite = false := by
  -- what follows the query only reads its answer and keeps the journal
  have hJ : (Job.onWire ((wiredDesk ans ep utilEp user audited).findInterface device iface) J
      log).1.2 = J := by
    rw [Inventory.Desk.findInterface, Job.onWire_bind]
    dsimp only
    repeat' split
    all_goals rfl
  rw [findInterface_sends, query_sends]
  refine ⟨_, rfl, hJ, ?_⟩
  split <;> simp [Sent.isWrite, requestOf]

/-- Writing an interfaces fragment tries one write, once the interface column's
shape accepts the fragment and the run is no test. -/
theorem writeInterfaces_audited (operation device target : String)
    (fragment : List (String × Json)) (test : Bool) (J : List Audit.Event) (log : List Sent) :
    AuditedRun ans ep utilEp user audited test true true
      ((wiredDesk ans ep utilEp user audited).writeInterfaces operation device target fragment test)
      J log := by
  unfold Inventory.Desk.writeInterfaces
  rcases Column.Document.decodeSets .iface (Json.render .html (.obj fragment)) with f | doc
  · exact auditedRun_pure ans ep utilEp user audited test true true _ J log (fun _ _ _ => rfl)
  cases test
  case true => exact auditedRun_pure ans ep utilEp user audited true true true _ J log (fun _ _ _ => rfl)
  case false =>
    exact tries_record ans ep utilEp user audited
      (answer_update_tries ans ep utilEp "interface" (some (.obj fragment)) false J log)
      operation device target id

/-- An edit of an interface reads the interface, then writes the edited
fragment. -/
theorem editInterface_audited (operation device iface : String)
    (edit : Inventory.Found → Except Reply (String × List (String × Json))) (test : Bool)
    (J : List Audit.Event) (log : List Sent) :
    AuditedRun ans ep utilEp user audited test true true
      ((wiredDesk ans ep utilEp user audited).editInterface operation device iface edit test) J log := by
  obtain ⟨reads, h2, hJ, hr⟩ := findInterface_onWire ans ep utilEp user audited device iface J log
  refine auditedRun_bind_reads ans ep utilEp user audited _ _ reads h2 hJ hr ?_
  rcases (Job.onWire ((wiredDesk ans ep utilEp user audited).findInterface device iface) J
    log).1.1 with r | found
  · exact auditedRun_pure ans ep utilEp user audited test true true r J (log ++ reads)
      (fun _ _ _ => rfl)
  · dsimp only
    rcases edit found with r | ⟨key, fragment⟩
    · exact auditedRun_pure ans ep utilEp user audited test true true r J (log ++ reads)
        (fun _ _ _ => rfl)
    · exact writeInterfaces_audited ans ep utilEp user audited operation device _ fragment test J
        (log ++ reads)

/-- A write of a file's data is tried once the column is known and the file
reads; without a body that JSON can hold, nothing is sent. -/
theorem writeFile_audited (operation column path : String) (file : Inventory.DataFile)
    (test : Bool) (send : Option Json → Call Wire Response)
    (hsend : ∀ body J log, Tries ans ep utilEp test (Inventory.answer (send body)) J log)
    (J : List Audit.Event) (log : List Sent) :
    AuditedRun ans ep utilEp user audited test
      (Inventory.validColumn column && (Inventory.readDataFile path file).toBool) false
      ((wiredDesk ans ep utilEp user audited).writeFile operation column path file test send) J log := by
  unfold Inventory.Desk.writeFile
  cases hv : Inventory.validColumn column
  · exact auditedRun_pure ans ep utilEp user audited test _ false _ J log (by intro ha; cases ha)
  rcases hf : Inventory.readDataFile path file with r | data
  · exact auditedRun_pure ans ep utilEp user audited test _ false r J log (by intro ha; cases ha)
  · simp only [Bool.not_true, Bool.false_eq_true, if_false]
    -- the write is tried with the body, or not at all when the data has none
    split
    · exact tries_record ans ep utilEp user audited (hsend _ J log) operation "" column id
    · rename_i f _
      exact tries_record ans ep utilEp user audited
        (show Tries ans ep utilEp test (pure (Reply.ofFault (some f))) J log from
          ⟨none, (List.append_nil _).symm, rfl, Overlay.ofFault_some_result f, by simp⟩)
        operation "" column id

/-- Reloading a column from the repository tries one write, once the column is
known. -/
theorem reloadColumn_audited (column : String) (verbose test : Bool) (J : List Audit.Event)
    (log : List Sent) :
    AuditedRun ans ep utilEp user audited test (Inventory.validColumn column) false
      ((wiredDesk ans ep utilEp user audited).reloadColumn column verbose test) J log := by
  refine auditedRun_guard ans ep utilEp user audited _ _ rfl _ _ fun hv => ?_
  -- a known column names the endpoint, with no query in it
  have he : '?' ∉ (Inventory.repoEndpoint ++ column).toList := by
    simpa [Inventory.repoEndpoint] using validColumn_noQuery hv
  exact tries_record ans ep utilEp user audited
    (callUtil_tries ans ep utilEp user audited "POST" _ none [] test J log rfl he)
    "repo.reload" "" column (Inventory.terse · verbose)

/-- A write to the peering manager tries one write, when the job's parameters do
not name `test` and its endpoint holds no query. -/
theorem peeringWrite_audited (operation setId method endpoint : String) (data : Option Json)
    (params : List (String × List String)) (test verbose : Bool) (J : List Audit.Event)
    (log : List Sent) (hq : params.lookup "test" = none)
    (he : '?' ∉ (Inventory.peeringEndpoint ++ endpoint).toList) :
    AuditedRun ans ep utilEp user audited test true false
      ((wiredDesk ans ep utilEp user audited).peeringWrite operation setId method endpoint data params
        test verbose) J log :=
  tries_record ans ep utilEp user audited
    (callUtil_tries ans ep utilEp user audited method _ data params test J log hq he)
    operation setId _ (Inventory.terse · verbose)

/-- A run of a Netbox function tries one write, when the job's parameters do not
name `test` and the function's endpoint holds no query. -/
theorem netboxRun_audited (function : String) (data : Option Json)
    (params : List (String × List String)) (test : Bool) (J : List Audit.Event) (log : List Sent)
    (hq : params.lookup "test" = none) (he : '?' ∉ (Inventory.netboxEndpoint ++ function).toList) :
    AuditedRun ans ep utilEp user audited test true false
      ((wiredDesk ans ep utilEp user audited).netboxRun function data params test) J log :=
  tries_record ans ep utilEp user audited
    (callUtil_tries ans ep utilEp user audited "GET" _ data params test J log hq he)
    ("netbox." ++ function) "" "" id

end Runs

/-! ### Every write job -/

/-- The Netbox functions the desk runs on their own. -/
inductive NetboxFunction where
  | synchronizeDevices
  | synchronizeIGP
  | synchronizeEBGP
  | updatePTRs
  | updateDescriptions
  | pruneIPs

/-- The name of a Netbox function, as its endpoint has it. -/
def NetboxFunction.name : NetboxFunction → String
  | .synchronizeDevices => "synchronize_devices"
  | .synchronizeIGP => "synchronize_igp"
  | .synchronizeEBGP => "synchronize_ebgp"
  | .updatePTRs => "update_ptrs"
  | .updateDescriptions => "update_iface_descriptions"
  | .pruneIPs => "prune_ips"

open NetFleet.Inventory (DataFile Policy AutonomousSystem Session Zone) in
/-- The write jobs of the desk, by their arguments. -/
inductive Write where
  | loadFile (column path : String) (file : DataFile)
  | updateFile (column path : String) (file : DataFile)
  | addAddress (device iface address ptr : String) (roles : List String)
  | removeAddress (device iface address : String)
  | reloadColumn (column : String) (verbose : Bool)
  | reloadSessions (verbose : Bool)
  | setSessionStatus (device neighbor status : String)
  | createPolicy (p : Policy)
  | deletePolicy (name : String)
  | createASN (a : AutonomousSystem)
  | syncASN (asn : Int)
  | addSession (s : Session)
  | updateSession (s : Session)
  | deleteSession (device neighbor : String)
  | netboxRun (function : NetboxFunction)
  | netboxSyncInterfaces (devices : List String)
  | netboxRenumber (ipv4 ipv6 : String)
  | dnsSync
  | upsertZone (z : Zone)
  | deleteZone (pfx : String)

namespace Write

/-- The job at a desk, committing unless `test`. -/
def run {m : Type → Type} [Monad m] (d : Inventory.Desk m) (test : Bool) : Write → Inventory.Job m Reply
  | .loadFile column path file => d.loadFile column path file test
  | .updateFile column path file => d.updateFile column path file test
  | .addAddress device iface address ptr roles => d.addAddress device iface address ptr roles test
  | .removeAddress device iface address => d.removeAddress device iface address test
  | .reloadColumn column verbose => d.reloadColumn column verbose test
  | .reloadSessions verbose => d.reloadSessions verbose test
  | .setSessionStatus device neighbor status => d.setSessionStatus device neighbor status test
  | .createPolicy p => d.createPolicy p test
  | .deletePolicy name => d.deletePolicy name test
  | .createASN a => d.createASN a test
  | .syncASN asn => d.syncASN asn test
  | .addSession s => d.addSession s test
  | .updateSession s => d.updateSession s test
  | .deleteSession device neighbor => d.deleteSession device neighbor test
  | .netboxRun function => d.netboxRun function.name none [] test
  | .netboxSyncInterfaces devices => d.netboxSyncInterfaces devices test
  | .netboxRenumber ipv4 ipv6 => d.netboxRenumber ipv4 ipv6 test
  | .dnsSync => d.dnsSync test
  | .upsertZone z => d.upsertZone z test
  | .deleteZone pfx => d.deleteZone pfx test

/-- Whether the job's arguments pass the checks it makes before the wire: a known
column and a file that reads, a session status, an AS number, the fields of a
new session, a device to synchronize, a prefix. -/
def admits : Write → Bool
  | .loadFile column path file | .updateFile column path file =>
    Inventory.validColumn column && (Inventory.readDataFile path file).toBool
  | .reloadColumn column _ => Inventory.validColumn column
  | .setSessionStatus _ _ status => status = "enabled" || status = "maintenance"
  | .createASN a => (Inventory.checkedASN a.asn).toBool
  | .syncASN asn => (Inventory.checkedASN asn).toBool
  | .addSession s => Column.normalizeSetId s.device ≠ "" && s.remoteIp ≠ "" && s.peerAsn ≠ 0
  | .netboxSyncInterfaces devices => !devices.isEmpty
  | .upsertZone z => Inventory.isPrefix z.prefixText
  | .deleteZone pfx => Inventory.isPrefix pfx
  | _ => true

/-- Whether the job reads the database before it checks what to write: the address
jobs check the interface they read. -/
def readsFirst : Write → Bool
  | .addAddress .. | .removeAddress .. => true
  | _ => false

end Write

/-- The audit trail of the desk's writes. Whatever the services answer, a run of
any write job with any arguments, committing or a test, sends requests and adds
events to the journal, and these form the trail that `Audited` describes: at most
one write, the last request, and at most one event; nothing recorded for a test,
whose requests are all marked as a dry run, nor on a desk that is not audited; on
an audited desk, exactly one event after a committed write, for the desk's user,
reporting the result of the write's answer; no event reporting success without a
write; and nothing sent nor recorded when the job's arguments fail their checks. -/
theorem writes_audited (ans : Answers) (ep : Endpoint) (utilEp : Option Endpoint) (user : String)
    (audited test : Bool) (w : Write) (J : List Audit.Event) (log : List Sent) :
    let run := Job.onWire (w.run (wiredDesk ans ep utilEp user audited) test) J log
    ∃ sent added, run.2 = log ++ sent ∧ run.1.2 = J ++ added ∧
      Audited ans ep utilEp user audited test w.admits w.readsFirst log sent added := by
  cases w with
  | loadFile column path file =>
    exact writeFile_audited ans ep utilEp user audited "loader.load" column path file test _
      (fun body J log => answer_write_tries ans ep utilEp "POST" column body test J log (by decide))
      J log
  | updateFile column path file =>
    exact writeFile_audited ans ep utilEp user audited "loader.update" column path file test _
      (fun body J log => answer_update_tries ans ep utilEp column body test J log) J log
  | addAddress device iface address ptr roles =>
    exact editInterface_audited ans ep utilEp user audited _ _ iface _ test J log
  | removeAddress device iface address =>
    exact editInterface_audited ans ep utilEp user audited _ _ iface _ test J log
  | reloadColumn column verbose =>
    exact reloadColumn_audited ans ep utilEp user audited column verbose test J log
  | reloadSessions verbose =>
    exact peeringWrite_audited ans ep utilEp user audited _ _ _ _ _ [] test verbose J log rfl
      (by decide)
  | setSessionStatus device neighbor status =>
    refine auditedRun_guard ans ep utilEp user audited _ _ ?_ _ _ fun _ =>
      peeringWrite_audited ans ep utilEp user audited _ _ _ _ _ _ test true J log (by simp)
        (by decide)
    by_cases h : status = "enabled" <;> simp [h, Write.admits]
  | createPolicy p =>
    exact peeringWrite_audited ans ep utilEp user audited _ _ _ _ _ [] test true J log rfl
      (by decide)
  | deletePolicy name =>
    exact peeringWrite_audited ans ep utilEp user audited _ _ _ _ _ _ test true J log (by simp)
      (by decide)
  | createASN a =>
    show AuditedRun ans ep utilEp user audited test (Inventory.checkedASN a.asn).toBool false
      ((wiredDesk ans ep utilEp user audited).createASN a test) J log
    unfold Inventory.Desk.createASN
    cases Inventory.checkedASN a.asn with
    | error f =>
      exact auditedRun_pure ans ep utilEp user audited test false false _ J log
        (by intro ha; cases ha)
    | ok u =>
      exact peeringWrite_audited ans ep utilEp user audited _ _ _ _ _ [] test true J log rfl
        (by decide)
  | syncASN asn =>
    show AuditedRun ans ep utilEp user audited test (Inventory.checkedASN asn).toBool false
      ((wiredDesk ans ep utilEp user audited).syncASN asn test) J log
    unfold Inventory.Desk.syncASN
    cases Inventory.checkedASN asn with
    | error f =>
      exact auditedRun_pure ans ep utilEp user audited test false false _ J log
        (by intro ha; cases ha)
    | ok u =>
      -- the endpoint names the AS number in digits
      exact peeringWrite_audited ans ep utilEp user audited _ _ _ _ _ [] test true J log rfl
        (by simp [Inventory.peeringEndpoint, repr_noQuery])
  | addSession s =>
    refine auditedRun_guard ans ep utilEp user audited _ _ ?_ _ _ fun _ =>
      peeringWrite_audited ans ep utilEp user audited _ _ _ _ _ [] test true J log rfl (by decide)
    -- a field is missing exactly when one of the three checks fails
    simp only [Write.admits]
    by_cases hd : Column.normalizeSetId s.device = "" <;> by_cases hr : s.remoteIp = "" <;>
      by_cases ha : s.peerAsn = 0 <;> simp [hd, hr, ha]
  | updateSession s =>
    exact peeringWrite_audited ans ep utilEp user audited _ _ _ _ _ [] test true J log rfl
      (by decide)
  | deleteSession device neighbor =>
    exact peeringWrite_audited ans ep utilEp user audited _ _ _ _ _ _ test true J log (by simp)
      (by decide)
  | netboxRun function =>
    exact netboxRun_audited ans ep utilEp user audited function.name none [] test J log rfl
      (by cases function <;> decide)
  | netboxSyncInterfaces devices =>
    refine auditedRun_guard ans ep utilEp user audited _ _ ?_ _ _ fun _ =>
      netboxRun_audited ans ep utilEp user audited _ _ [] test J log rfl (by decide)
    simp [Write.admits]
  | netboxRenumber ipv4 ipv6 =>
    exact netboxRun_audited ans ep utilEp user audited _ none _ test J log (by simp) (by decide)
  | dnsSync =>
    exact tries_record ans ep utilEp user audited
      (callUtil_tries ans ep utilEp user audited "POST" _ none [] test J log rfl (by decide))
      "cfdns.sync" "" "" id
  | upsertZone z =>
    exact auditedRun_guard ans ep utilEp user audited _ _ rfl _ _ fun _ =>
      tries_record ans ep utilEp user audited
        (callUtil_tries ans ep utilEp user audited "POST" _ _ [] test J log rfl (by decide))
        "cfdns.zone.upsert" "" z.prefixText id
  | deleteZone pfx =>
    exact auditedRun_guard ans ep utilEp user audited _ _ rfl _ _ fun _ =>
      tries_record ans ep utilEp user audited
        (callUtil_tries ans ep utilEp user audited "DELETE" _ none _ test J log (by simp)
          (by decide))
        "cfdns.zone.delete" "" pfx id

/-- An event can stand for a write that was never sent: without a utility
service, reloading a column sends nothing and records one event, a failure. -/
theorem unsent_reload_recorded :
    let run := Job.onWire ((wiredDesk (fun _ _ => .failed "") ⟨"netdb", "http://netdb", "/api/"⟩
      none "ops" true).reloadColumn "bgp" false false) [] []
    run.2 = [] ∧ run.1.2.map Audit.Event.success = [false] :=
  ⟨rfl, rfl⟩

end NetFleet.Netdb
