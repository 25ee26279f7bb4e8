import NetFleet.Proofs.Wire
import NetFleet.Inventory.Addresses

/-!
# Checked writes

Four paths write a column of the database after checking it: merging an override
into the fragment it selects (`Client.applyOverride`), setting or clearing the
disabled flag of an interface (`Client.setInterfaceDisabled`), and assigning or
removing an address of an interface (`Desk.addAddress`, `Desk.removeAddress`).
Each reads the fragment, edits it without the wire, checks the edited column
against the column's shape, and only then sends it.

On the wire, whatever the database answers, each path sends at most one write,
and only once every step before it went through; the write is a `PUT` of the
text of the edited column, the very text that the column's shape accepted
(`CheckedWrite`). So a column that the shape refuses is never sent
(`writes_checked`).

The paths share their last step, `Client.validateAndUpdate` and
`Desk.writeInterfaces`. What they send is read off those steps
(`validateAndUpdate_writes`, `writeInterfaces_writes`) and off the reads before
them, which write nothing (`fragment_sends`, `findInterface_reads`).
-/

namespace NetFleet.Netdb

open NetFleet (Json Fault Reply)
open NetFleet.Http

/-! ### Writes on the wire -/

/-- The writes among requests: those to the database that are not reads. -/
def writesOf (sent : List Sent) : List Sent :=
  sent.filter fun r => r.service == .data && r.request.method != "GET"

@[simp] theorem writesOf_nil : writesOf [] = [] := rfl

@[simp] theorem writesOf_append (s t : List Sent) :
    writesOf (s ++ t) = writesOf s ++ writesOf t :=
  List.filter_append ..

@[simp] theorem writesOf_get (ep : Endpoint) (u : Url) (body : Option Json) :
    writesOf [⟨.data, requestOf ep "GET" u body⟩] = [] := by
  simp [writesOf, requestOf]

@[simp] theorem writesOf_put (ep : Endpoint) (u : Url) (body : Option Json) :
    writesOf [⟨.data, requestOf ep "PUT" u body⟩] = [⟨.data, requestOf ep "PUT" u body⟩] := by
  simp [writesOf, requestOf]

/-- A checked write of `data` to `target`: the column's shape `k` accepts the
text of `data`, `target` reads as a URL, and the writes are one `PUT` of that
text to it. -/
def CheckedWrite (ep : Endpoint) (k : Column.Kind) (target : String) (data : List (String × Json))
    (writes : List Sent) : Prop :=
  ∃ doc u, Column.Document.decodeSets k (Json.render .html (.obj data)) = .ok doc ∧
    Url.parse ep.origin target = .ok u ∧
    writes = [⟨.data, requestOf ep "PUT" u (some (.obj data))⟩]

@[simp] theorem targetOf_nil (ep : Endpoint) (endpoint : String) :
    targetOf ep endpoint [] = ep.base ++ endpoint := by
  simp [targetOf]

/-- The requests sent after `log` by a run that ended with the requests `log'`. -/
def sentAfter (log log' : List Sent) : List Sent := log'.drop log.length

@[simp] theorem sentAfter_append (log s : List Sent) : sentAfter log (log ++ s) = s := by
  simp [sentAfter]

@[simp] theorem sentAfter_self (log : List Sent) : sentAfter log log = [] := by
  simp [sentAfter]

/-- The writes a call sends when it runs after the requests `log`. -/
def Call.writes {α : Type} (x : Call Wire α) (log : List Sent) : List Sent :=
  writesOf (sentAfter log (x.onWire log).2)

/-- The writes a job sends when it runs after the journal `J` and the requests
`log`. -/
def Job.writes {α : Type} (x : Inventory.Job Wire α) (J : List Audit.Event) (log : List Sent) :
    List Sent :=
  writesOf (sentAfter log (Job.onWire x J log).2)

variable (ans : Answers) (ep : Endpoint)

/-! ### The steps of the database client -/

/-- A query sends one read, when its target reads as a URL. -/
theorem query_sends (column : String) (f : Filter) (log : List Sent) :
    (((Wire.client ans .data ep).query column f).onWire log).2 = log ++
      match Url.parse ep.origin (ep.base ++ column) with
      | .error _ => []
      | .ok u => [⟨.data, requestOf ep "GET" u (some f.toJson)⟩] := by
  rw [Client.query, call_onWire, targetOf_nil]
  rcases Url.parse ep.origin (ep.base ++ column) with msg | u <;> simp

/-- A query writes nothing. -/
theorem query_reads (column : String) (f : Filter) (log : List Sent) :
    ∃ s, (((Wire.client ans .data ep).query column f).onWire log).2 = log ++ s ∧ writesOf s = [] := by
  refine ⟨_, query_sends ans ep column f log, ?_⟩
  split <;> simp

/-- Reading a fragment sends its query and nothing else. -/
theorem fragment_sends (column : String) (f : Filter) (mustExist : Bool) (log : List Sent) :
    (((Wire.client ans .data ep).fragment column f mustExist).onWire log).2 =
      (((Wire.client ans .data ep).query column f).onWire log).2 := by
  rw [Client.fragment, Call.onWire_bind_sent]
  -- what follows the query only reads its answer
  intro r log'
  dsimp only
  repeat' split
  all_goals rfl

/-- Reading a fragment writes nothing. -/
theorem fragment_reads (column : String) (f : Filter) (mustExist : Bool) (log : List Sent) :
    ∃ s, (((Wire.client ans .data ep).fragment column f mustExist).onWire log).2 = log ++ s ∧
      writesOf s = [] := by
  rw [fragment_sends]
  exact query_reads ans ep column f log

/-- Replacing column data sends one `PUT` of it, to the column or to its
checking endpoint, when that target reads as a URL. -/
theorem update_sends (column : String) (data : Option Json) (test : Bool) (log : List Sent) :
    (((Wire.client ans .data ep).update column data test).onWire log).2 = log ++
      match Url.parse ep.origin (ep.base ++ column ++ if test then "/validate" else "") with
      | .error _ => []
      | .ok u => [⟨.data, requestOf ep "PUT" u data⟩] := by
  rw [Client.update, Call.onWire_bind_sent]
  · rw [Client.write, call_onWire, targetOf_nil, String.append_assoc]
    rcases Url.parse ep.origin (ep.base ++ (column ++ if test then "/validate" else "")) with
      msg | u <;> simp
  · intro r log'
    split <;> rfl

/-- Checking and replacing column data writes it only when the column's shape
accepts its text, and then writes that text. -/
theorem validateAndUpdate_writes (column : String) (data : List (String × Json)) (test : Bool)
    (log : List Sent) :
    ∃ s, (((Wire.client ans .data ep).validateAndUpdate column data test).onWire log).2 = log ++ s ∧
      (writesOf s = [] ∨ ∃ k, Column.Kind.resolve column = .ok k ∧
        CheckedWrite ep k (ep.base ++ column ++ if test then "/validate" else "") data (writesOf s)) := by
  simp only [Client.validateAndUpdate, Call.onWire_bind, Call.onWire_lift]
  rcases hk : Column.Kind.resolve column with f | k
  · exact ⟨[], by simp, .inl rfl⟩
  rcases hd : Column.Document.decodeSets k (Json.render .html (.obj data)) with f | doc
  · exact ⟨[], by simp [hd], .inl rfl⟩
  refine ⟨_, by simpa [hd] using update_sends ans ep column (some (.obj data)) test log, ?_⟩
  rcases hu : Url.parse ep.origin (ep.base ++ column ++ if test then "/validate" else "") with msg | u
  · exact .inl rfl
  · exact .inr ⟨k, rfl, doc, u, hd, hu, by simp⟩

/-! ### The paths that write -/

/-- An override is written only once it is valid, the fragment it selects was
read, and the column merged from it is accepted; the write is that column, sent
to the column or, for a test, to its checking endpoint. -/
theorem applyOverride_writes (o : Column.Override) (test : Bool) (log : List Sent) :
    ((Wire.client ans .data ep).applyOverride o test).writes log = [] ∨
    ∃ k current merged, o.validate = .ok () ∧
      (((Wire.client ans .data ep).fragment o.columnType (.ofOverride o) false).onWire log).1 =
        .ok current ∧
      o.apply current = .ok merged ∧ Column.Kind.resolve o.columnType = .ok k ∧
      CheckedWrite ep k (ep.base ++ o.columnType ++ if test then "/validate" else "") merged
        (((Wire.client ans .data ep).applyOverride o test).writes log) := by
  simp only [Call.writes, Client.applyOverride, Call.onWire_bind, Call.onWire_lift]
  rcases hv : o.validate with f | ⟨⟩
  · exact .inl (by simp)
  obtain ⟨s₁, h₁, hr₁⟩ := fragment_reads ans ep o.columnType (.ofOverride o) false log
  dsimp only
  split
  · rename_i current log₁ hfr
    rw [hfr] at h₁
    subst h₁
    rcases ha : o.apply current with f | merged
    · exact .inl (by simpa using hr₁)
    obtain ⟨s₂, h₂, hw⟩ := validateAndUpdate_writes ans ep o.columnType merged test (log ++ s₁)
    simp only [h₂, List.append_assoc, sentAfter_append, writesOf_append, hr₁, List.nil_append, hfr]
    rcases hw with hw | ⟨k, hk, hc⟩
    · exact .inl hw
    · exact .inr ⟨k, current, merged, trivial, rfl, ha, hk, hc⟩
  · rename_i f log₁ hfr
    rw [hfr] at h₁
    subst h₁
    exact .inl (by simpa using hr₁)

/-- An interface's disabled flag is written only once the interface's fragment
was read and holds the interface, and the fragment with the flag changed is
accepted; the write is that fragment. -/
theorem setInterfaceDisabled_writes (setId iface : String) (disabled test : Bool) (log : List Sent) :
    ((Wire.client ans .data ep).setInterfaceDisabled setId iface disabled test).writes log = [] ∨
    ∃ current updated,
      (((Wire.client ans .data ep).fragment "interface" { setId, element := iface } true).onWire
        log).1 = .ok current ∧
      withDisabled (current.getD []) setId iface disabled = some updated ∧
      CheckedWrite ep .iface (ep.base ++ "interface" ++ if test then "/validate" else "") updated
        (((Wire.client ans .data ep).setInterfaceDisabled setId iface disabled test).writes log) := by
  simp only [Call.writes, Client.setInterfaceDisabled, Call.onWire_bind]
  obtain ⟨s₁, h₁, hr₁⟩ := fragment_reads ans ep "interface" { setId, element := iface } true log
  split
  · rename_i current log₁ hfr
    rw [hfr] at h₁
    subst h₁
    rcases hu : withDisabled (current.getD []) setId iface disabled with _ | updated
    · exact .inl (by simpa using hr₁)
    obtain ⟨s₂, h₂, hw⟩ := validateAndUpdate_writes ans ep "interface" updated test (log ++ s₁)
    simp only [h₂, List.append_assoc, sentAfter_append, writesOf_append, hr₁, List.nil_append]
    rcases hw with hw | ⟨k, hk, hc⟩
    · exact .inl hw
    -- the interface column is the one the check resolves
    · have hk' : k = .iface := by cases hk; rfl
      subst hk'
      exact .inr ⟨current, updated, by rw [hfr], hu, hc⟩
  · rename_i f log₁ hfr
    rw [hfr] at h₁
    subst h₁
    exact .inl (by simpa using hr₁)

/-! ### The desk's address jobs -/

section Desk

variable (utilEp : Option Endpoint) (user : String) (audited : Bool)

/-- Finding an interface sends the query of its fragment and nothing else. -/
theorem findInterface_sends (device iface : String) (J : List Audit.Event) (log : List Sent) :
    (Job.onWire ((wiredDesk ans ep utilEp user audited).findInterface device iface) J log).2 =
      (((Wire.client ans .data ep).query "interface" { setId := device, element := iface }).onWire
        log).2 := by
  rw [Inventory.Desk.findInterface, Job.onWire_bind_sent]
  · rfl
  -- what follows the query only reads its answer
  intro r J' log'
  repeat' split
  all_goals rfl

/-- Finding an interface reads its fragment and writes nothing. -/
theorem findInterface_reads (device iface : String) (J : List Audit.Event) (log : List Sent) :
    ∃ s, (Job.onWire ((wiredDesk ans ep utilEp user audited).findInterface device iface) J log).2 =
      log ++ s ∧ writesOf s = [] := by
  obtain ⟨s, hs, hr⟩ := query_reads ans ep "interface" { setId := device, element := iface } log
  exact ⟨s, (findInterface_sends ans ep utilEp user audited device iface J log).trans hs, hr⟩

/-- Writing an interfaces fragment sends it only when the interface column's
shape accepts it and the run is no test; the write is that fragment. -/
theorem writeInterfaces_writes (operation device target : String) (fragment : List (String × Json))
    (test : Bool) (J : List Audit.Event) (log : List Sent) :
    ∃ s, (Job.onWire ((wiredDesk ans ep utilEp user audited).writeInterfaces operation device target
        fragment test) J log).2 = log ++ s ∧
      (writesOf s = [] ∨ test = false ∧
        CheckedWrite ep .iface (ep.base ++ "interface") fragment (writesOf s)) := by
  simp only [Inventory.Desk.writeInterfaces]
  rcases hd : Column.Document.decodeSets .iface (Json.render .html (.obj fragment)) with f | doc
  · exact ⟨[], by simp, .inl rfl⟩
  cases test
  case true => exact ⟨[], by simp, .inl rfl⟩
  case false =>
    -- the update is the job's one request; recording its reply sends nothing
    have hsent : (Job.onWire ((wiredDesk ans ep utilEp user audited).writeInterfaces operation
        device target fragment false) J log).2 =
        (((Wire.client ans .data ep).update "interface" (some (.obj fragment)) false).onWire log).2 := by
      rw [Inventory.Desk.writeInterfaces, hd]
      dsimp only
      rw [if_neg Bool.false_ne_true, Job.onWire_bind_sent, answer_onWire]
      · rfl
      intro r J' log'
      rw [Job.onWire_bind_sent, record_sends]
      intro _ _ _
      rfl
    simp only [hd, Inventory.Desk.writeInterfaces, Bool.false_eq_true, if_false] at hsent ⊢
    rw [hsent, update_sends]
    refine ⟨_, rfl, ?_⟩
    rcases hu : Url.parse ep.origin (ep.base ++ "interface" ++ if false then "/validate" else "") with
      msg | u
    · exact .inl rfl
    · simp only [Bool.false_eq_true, if_false, String.append_empty] at hu
      exact .inr ⟨trivial, doc, u, hd, hu, by simp⟩

/-- An edit of an interface is written only once the interface was found and the
edit was made, and the run is no test; the write is the edited fragment, once the
interface column's shape accepts it. -/
theorem editInterface_writes (operation device iface : String)
    (edit : Inventory.Found → Except Reply (String × List (String × Json))) (test : Bool)
    (J : List Audit.Event) (log : List Sent) :
    Job.writes ((wiredDesk ans ep utilEp user audited).editInterface operation device iface edit
        test) J log = [] ∨
    ∃ found key fragment,
      (Job.onWire ((wiredDesk ans ep utilEp user audited).findInterface device iface) J log).1.1 =
        .ok found ∧
      edit found = .ok (key, fragment) ∧ test = false ∧
      CheckedWrite ep .iface (ep.base ++ "interface") fragment
        (Job.writes ((wiredDesk ans ep utilEp user audited).editInterface operation device iface
          edit test) J log) := by
  obtain ⟨s₁, h₁, hr₁⟩ := findInterface_reads ans ep utilEp user audited device iface J log
  simp only [Job.writes, Inventory.Desk.editInterface, Job.onWire_bind]
  rcases hf : Job.onWire ((wiredDesk ans ep utilEp user audited).findInterface device iface) J log
    with ⟨⟨_ | found, J₁⟩, log₁⟩
  all_goals rw [hf] at h₁; subst h₁; dsimp only
  case error => exact .inl (by simpa using hr₁)
  case ok =>
    rcases he : edit found with r | ⟨key, fragment⟩
    · exact .inl (by simpa using hr₁)
    obtain ⟨s₂, h₂, hw⟩ := writeInterfaces_writes ans ep utilEp user audited operation device
      (iface ++ " " ++ key) fragment test J₁ (log ++ s₁)
    dsimp only
    rw [h₂, List.append_assoc, sentAfter_append, writesOf_append, hr₁, List.nil_append]
    rcases hw with hw | ⟨ht, hc⟩
    · exact .inl hw
    · exact .inr ⟨found, key, fragment, rfl, he, ht, hc⟩

end Desk

/-! ### No unchecked write -/

/-- The database is never written with a column that its shape refuses. Whatever
the database answers: applying an override writes at most once, and only once the
override is valid, the fragment it selects was read, the merge went through and
the merged column is accepted; the write is a `PUT` of that column, to the column
or for a test to its checking endpoint. Changing an interface's disabled flag
writes only the fragment read with that flag changed, once it is accepted.
Assigning or removing an address writes only the edited fragment of an interface
that was found, once it is accepted, and never on a dry run. -/
theorem writes_checked (ans : Answers) (ep : Endpoint) (utilEp : Option Endpoint) (user : String)
    (audited : Bool) (J : List Audit.Event) (log : List Sent) :
    (∀ (o : Column.Override) (test : Bool),
      ((Wire.client ans .data ep).applyOverride o test).writes log = [] ∨
      ∃ k current merged, o.validate = .ok () ∧
        (((Wire.client ans .data ep).fragment o.columnType (.ofOverride o) false).onWire log).1 =
          .ok current ∧
        o.apply current = .ok merged ∧ Column.Kind.resolve o.columnType = .ok k ∧
        CheckedWrite ep k (ep.base ++ o.columnType ++ if test then "/validate" else "") merged
          (((Wire.client ans .data ep).applyOverride o test).writes log)) ∧
    (∀ (setId iface : String) (disabled test : Bool),
      ((Wire.client ans .data ep).setInterfaceDisabled setId iface disabled test).writes log = [] ∨
      ∃ current updated,
        (((Wire.client ans .data ep).fragment "interface" { setId, element := iface } true).onWire
          log).1 = .ok current ∧
        withDisabled (current.getD []) setId iface disabled = some updated ∧
        CheckedWrite ep .iface (ep.base ++ "interface" ++ if test then "/validate" else "") updated
          (((Wire.client ans .data ep).setInterfaceDisabled setId iface disabled test).writes log)) ∧
    (∀ (device iface address ptr : String) (roles : List String) (test : Bool),
      let d := wiredDesk ans ep utilEp user audited
      let device' := Column.normalizeSetId device
      Job.writes (d.addAddress device iface address ptr roles test) J log = [] ∨
      ∃ found key fragment,
        (Job.onWire (d.findInterface device' iface) J log).1.1 = .ok found ∧
        found.assign device' iface address ptr roles = .ok (key, fragment) ∧ test = false ∧
        CheckedWrite ep .iface (ep.base ++ "interface") fragment
          (Job.writes (d.addAddress device iface address ptr roles test) J log)) ∧
    (∀ (device iface address : String) (test : Bool),
      let d := wiredDesk ans ep utilEp user audited
      let device' := Column.normalizeSetId device
      Job.writes (d.removeAddress device iface address test) J log = [] ∨
      ∃ found key fragment,
        (Job.onWire (d.findInterface device' iface) J log).1.1 = .ok found ∧
        found.unassign device' iface address = .ok (key, fragment) ∧ test = false ∧
        CheckedWrite ep .iface (ep.base ++ "interface") fragment
          (Job.writes (d.removeAddress device iface address test) J log)) := by
  refine ⟨fun o test => applyOverride_writes ans ep o test log,
    fun setId iface disabled test => setInterfaceDisabled_writes ans ep setId iface disabled test log,
    ?_, ?_⟩
  -- both address jobs are edits of the interface found under the normalized device
  · intro device iface address ptr roles test
    exact editInterface_writes ans ep utilEp user audited "iface.addr.add" _ iface _ test J log
  · intro device iface address test
    exact editInterface_writes ans ep utilEp user audited "iface.addr.delete" _ iface _ test J log

end NetFleet.Netdb
