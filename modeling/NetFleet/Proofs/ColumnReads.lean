import NetFleet.Netdb.Client
import NetFleet.Reply

/-!
# How a failed column read is reported

A read of the database sends one request, so what it answers is a function of
the one answer it gets. `answering x ep` is a database that answers every
request with `x`; a statement for every `x` covers every answer the database can
give, whatever its status and body.

A read fails in two ways that a reply tells apart: a failure of the database,
reported as an error of the system (`Reply.error`), and a missing column,
reported as a plain failure with the database's comment. An answer that is no
envelope (`Envelope`), an `out` that is neither an object nor `null`, and a
false result are classified so. Two answers fall between the two ways: a
successful envelope without `out` is a failure of the database whose cause is
that the resource was not found, so its reply is a plain failure; and an `out`
of `null` is a missing column (`column_read_faults`).
-/

namespace NetFleet.Netdb

open NetFleet (Json Fault Reply)
open NetFleet.Http

/-! ### A database that gives one answer -/

/-- A database that answers every request with `x`. -/
def answering (x : Exchange) (ep : Endpoint) : Client Id := ⟨⟨fun _ => x⟩, ep⟩

/-- The answer `x` carries the envelope `r`: a status under which the database
answers with one, and a body that reads as it. -/
def Envelope (x : Exchange) (r : Response) : Prop :=
  ∃ status body, x = .answered status body ∧ status ∈ dataStatuses ∧ Response.read status body = .ok r

variable (x : Exchange) (ep : Endpoint)

/-- A request is sent when its target reads as a URL, and the call answers what
`receive` reads from the database's answer. -/
theorem call_answering (method endpoint : String) (body : Option Json)
    (params : List (String × List String)) (accepted : List Nat) :
    ((answering x ep).call method endpoint body params accepted).run =
      match Url.parse ep.origin (targetOf ep endpoint params) with
      | .error msg => .error (.plain msg)
      | .ok u => receive ep method (targetOf ep endpoint params) u accepted x := by
  rcases hu : Url.parse ep.origin (targetOf ep endpoint params) with msg | u
  · simp only [Client.call, answering, hu]
    rfl
  · simp only [Client.call, answering, hu]
    simp only [ExceptT.run_bind, pure_bind, liftM, monadLift, MonadLift.monadLift, ExceptT.lift,
      ExceptT.run_mk]
    -- the answer comes from `Id`, so the call reads it and passes on what it read
    rw [show (Except.ok <$> x : Id (Except Fault Exchange)) = pure (.ok x) from rfl, pure_bind]
    dsimp only
    rcases receive ep method (targetOf ep endpoint params) u accepted x with f | r <;> rfl

/-- The database's answer is read as an envelope exactly when it is one. -/
theorem receive_ok_iff (method target : String) (u : Url) (r : Response) :
    receive ep method target u dataStatuses x = .ok r ↔ Envelope x r := by
  constructor
  · intro h
    cases x with
    | failed reason => cases h
    | answered status body =>
      simp only [receive] at h
      split at h
      · cases h
      · next hs =>
        refine ⟨status, body, rfl, by simpa using hs, ?_⟩
        split at h
        · next r' hr' => cases h; exact hr'
        · cases h
  · rintro ⟨status, body, rfl, hs, hr⟩
    simp [receive, hs, hr]

/-- What is not read as an envelope is a failure of the database, with a plain
message. -/
theorem receive_error (method target : String) (u : Url) (accepted : List Nat) {f : Fault}
    (h : receive ep method target u accepted x = .error f) :
    ∃ msg, f = .backend ep.name (.plain msg) := by
  cases x with
  | failed reason => cases h; exact ⟨_, rfl⟩
  | answered status body =>
    simp only [receive] at h
    split at h
    · cases h; exact ⟨_, rfl⟩
    · split at h
      · cases h
      · cases h; exact ⟨_, rfl⟩

/-! ### How a fault is reported -/

/-- A read that failed with a failure of a service, reported with the error flag
`err`. -/
def BackendFault {α : Type} (read : Except Fault α) (err : Bool) : Prop :=
  ∃ f, read = .error f ∧ f.hasBackend = true ∧ (Reply.ofFault (some f)).error = err

/-- A read that failed as a missing column with a comment, reported as a plain
failure. -/
def MissingColumn {α : Type} (read : Except Fault α) (column setId comment : String) : Prop :=
  read = .error (.columnNotFound column setId comment) ∧
    (Reply.ofFault (some (.columnNotFound column setId comment))).error = false

/-- A failure of a service with a plain message is an error of the system. -/
theorem backend_plain_reported (service msg : String) :
    BackendFault (.error (.backend service (.plain msg)) : Except Fault α) true :=
  ⟨_, rfl, rfl, rfl⟩

/-- A missing column is a plain failure. -/
theorem columnNotFound_reported (column setId comment : String) :
    MissingColumn (.error (.columnNotFound column setId comment) : Except Fault α) column setId
      comment :=
  ⟨rfl, rfl⟩

/-! ### Reads -/

variable {x}

/-- A read answers the envelope when its result is true, and a missing column
with the database's comment when it is false. -/
theorem get_answering (endpoint : String) (u : Url)
    (hu : Url.parse ep.origin (ep.base ++ endpoint) = .ok u) :
    ((answering x ep).get endpoint).run =
      (receive ep "GET" (ep.base ++ endpoint) u dataStatuses x).bind fun r =>
        if r.result then .ok r else .error (.columnNotFound "" "" r.comment) := by
  have h := call_answering x ep "GET" endpoint none [] dataStatuses
  simp only [targetOf, List.isEmpty_nil, if_true, String.append_empty, hu] at h
  simp only [Client.get, ExceptT.run_bind, h]
  rcases receive ep "GET" (ep.base ++ endpoint) u dataStatuses x with f | r
  · rfl
  · cases hres : r.result
    all_goals
      show ExceptT.run (if r.result = true then pure r else throw _) = _
      simp only [hres, Except.bind]
      rfl

section Column

variable {setId column : String} {u : Url}
  (hu : Url.parse ep.origin (ep.base ++ (column ++ "/" ++ setId)) = .ok u)
include hu

/-- An answer that is no envelope fails the column read as itself. -/
theorem getColumn_of_receive_error {f : Fault}
    (hr : receive ep "GET" (ep.base ++ (column ++ "/" ++ setId)) u dataStatuses x = .error f) :
    ((answering x ep).getColumn setId column).run = .error f := by
  obtain ⟨msg, rfl⟩ := receive_error x ep _ _ u _ hr
  simp only [Client.getColumn, ExceptT.run_bind, ExceptT.run_tryCatch, get_answering ep _ u hu, hr,
    Except.bind]
  rfl

/-- A false result fails the column read as a missing column, with the
database's comment. -/
theorem getColumn_of_false {r : Response}
    (hr : receive ep "GET" (ep.base ++ (column ++ "/" ++ setId)) u dataStatuses x = .ok r)
    (hres : r.result = false) :
    ((answering x ep).getColumn setId column).run = .error (.columnNotFound column setId r.comment) := by
  simp only [Client.getColumn, ExceptT.run_bind, ExceptT.run_tryCatch, get_answering ep _ u hu, hr,
    Except.bind, hres]
  rfl

/-- A true result without `out` fails the column read as a failure of the
database whose cause is that the resource was not found. -/
theorem getColumn_noOut {r : Response}
    (hr : receive ep "GET" (ep.base ++ (column ++ "/" ++ setId)) u dataStatuses x = .ok r)
    (hres : r.result = true) (hout : r.out = none) :
    ((answering x ep).getColumn setId column).run =
      .error (.backend "netdb" (.within ("decoding " ++ column ++ " column")
        (.wrap "" ": response has no out" (.sentinel .notFound)))) := by
  simp only [Client.getColumn, ExceptT.run_bind, ExceptT.run_tryCatch, get_answering ep _ u hu, hr,
    Except.bind, hres, if_true]
  simp only [bind, pure, hout]
  rfl

/-- A true result with an `out` of `null` fails the column read as a missing
column. -/
theorem getColumn_nullOut {r : Response}
    (hr : receive ep "GET" (ep.base ++ (column ++ "/" ++ setId)) u dataStatuses x = .ok r)
    (hres : r.result = true) (hout : r.out = some .null) :
    ((answering x ep).getColumn setId column).run = .error (.columnNotFound column setId "") := by
  simp only [Client.getColumn, ExceptT.run_bind, ExceptT.run_tryCatch, get_answering ep _ u hu, hr,
    Except.bind, hres, if_true]
  simp only [bind, pure, hout]
  rfl

/-- A true result with an object as `out` answers the set's data, or fails as a
missing column when the object lacks the set. -/
theorem getColumn_objOut {r : Response} {ms : List (String × Json)}
    (hr : receive ep "GET" (ep.base ++ (column ++ "/" ++ setId)) u dataStatuses x = .ok r)
    (hres : r.result = true) (hout : r.out = some (.obj ms)) :
    ((answering x ep).getColumn setId column).run =
      match Json.lookup? ms setId with
      | some data => .ok data
      | none => .error (.columnNotFound column setId "") := by
  simp only [Client.getColumn, ExceptT.run_bind, ExceptT.run_tryCatch, get_answering ep _ u hu, hr,
    Except.bind, hres, if_true]
  simp only [bind, pure, hout]
  rcases Json.lookup? ms setId with _ | data <;> rfl

/-- A true result whose `out` is neither an object nor `null` fails the column
read as a failure of the database, with a plain message. -/
theorem getColumn_otherOut {r : Response} {j : Json}
    (hr : receive ep "GET" (ep.base ++ (column ++ "/" ++ setId)) u dataStatuses x = .ok r)
    (hres : r.result = true) (hout : r.out = some j) (hnull : j ≠ .null)
    (hobj : ∀ ms, j ≠ .obj ms) :
    ∃ msg, ((answering x ep).getColumn setId column).run =
      .error (.backend "netdb" (.within ("decoding " ++ column ++ " column") (.plain msg))) := by
  simp only [Client.getColumn, ExceptT.run_bind, ExceptT.run_tryCatch, get_answering ep _ u hu, hr,
    Except.bind, hres, if_true]
  simp only [bind, pure, hout]
  -- the last branch of the match, past `null` and the objects
  cases j
  case null => exact absurd rfl hnull
  case obj ms => exact absurd rfl (hobj ms)
  all_goals exact ⟨_, rfl⟩

end Column

/-- A set of a column whose shape is known fails to be read as its data does. -/
theorem container_of_getColumn_error {setId column : String} {k : Column.Kind} {f : Fault}
    (hk : Column.Kind.resolve column = .ok k)
    (h : ((answering x ep).getColumn setId column).run = .error f) :
    ((answering x ep).container setId column).run = .error f := by
  simp only [Client.container, ExceptT.run_bind, hk, h]
  rfl

/-! ### Every answer -/

/-- How a failed read of a column is reported, for every answer of the database.
When the database answers no envelope (it cannot be reached, the status is none
of 200, 404 and 422, or the body is no envelope), and when a successful
envelope's `out` is neither an object nor `null`, the read fails with a failure
of the database, reported as an error of the system. A false result, an `out`
object without the set and an `out` of `null` fail as the missing column, with
the database's comment for a false result, reported as a plain failure. A
successful envelope without `out` fails with a failure of the database that is
reported as a plain failure, for its cause is that the resource was not found.
The read of the endpoint alone fails as a failure of the database or as a
missing column with the comment, and a set of a column whose shape is known fails
as its data does. -/
theorem column_read_faults (x : Exchange) (ep : Endpoint) (setId column : String) (u : Url)
    (hu : Url.parse ep.origin (ep.base ++ (column ++ "/" ++ setId)) = .ok u) :
    let get := ((answering x ep).get (column ++ "/" ++ setId)).run
    let read := ((answering x ep).getColumn setId column).run
    ((∀ r, ¬ Envelope x r) → BackendFault get true) ∧
    (∀ r, Envelope x r → r.result = false → MissingColumn get "" "" r.comment) ∧
    ((∀ r, ¬ Envelope x r) → BackendFault read true) ∧
    (∀ r, Envelope x r → r.result = false → MissingColumn read column setId r.comment) ∧
    (∀ r ms, Envelope x r → r.result = true → r.out = some (.obj ms) →
      Json.lookup? ms setId = none → MissingColumn read column setId "") ∧
    (∀ r j, Envelope x r → r.result = true → r.out = some j → j ≠ .null → (∀ ms, j ≠ .obj ms) →
      BackendFault read true) ∧
    (∀ r, Envelope x r → r.result = true → r.out = none → BackendFault read false) ∧
    (∀ r, Envelope x r → r.result = true → r.out = some .null → MissingColumn read column setId "") ∧
    (∀ k f, Column.Kind.resolve column = .ok k → read = .error f →
      ((answering x ep).container setId column).run = .error f) := by
  intro get read
  -- the answer read as an envelope, or the failure of the database it is
  have hno : (∀ r, ¬ Envelope x r) → ∃ msg,
      receive ep "GET" (ep.base ++ (column ++ "/" ++ setId)) u dataStatuses x =
        .error (.backend ep.name (.plain msg)) := by
    intro hn
    rcases hr : receive ep "GET" (ep.base ++ (column ++ "/" ++ setId)) u dataStatuses x with f | r
    · obtain ⟨msg, rfl⟩ := receive_error x ep _ _ u _ hr
      exact ⟨msg, rfl⟩
    · exact absurd ((receive_ok_iff x ep _ _ u r).mp hr) (hn r)
  have hyes : ∀ r, Envelope x r →
      receive ep "GET" (ep.base ++ (column ++ "/" ++ setId)) u dataStatuses x = .ok r :=
    fun r he => (receive_ok_iff x ep _ _ u r).mpr he
  refine ⟨?_, ?_, ?_, ?_, ?_, ?_, ?_, ?_, ?_⟩
  · intro hn
    obtain ⟨msg, hr⟩ := hno hn
    have : get = .error (.backend ep.name (.plain msg)) := by
      simp only [get, get_answering ep _ u hu, hr]
      rfl
    rw [this]
    exact backend_plain_reported _ _
  · intro r he hres
    have : get = .error (.columnNotFound "" "" r.comment) := by
      simp only [get, get_answering ep _ u hu, hyes r he, Except.bind, hres]
      rfl
    rw [this]
    exact columnNotFound_reported _ _ _
  · intro hn
    obtain ⟨msg, hr⟩ := hno hn
    rw [show read = _ from getColumn_of_receive_error ep hu hr]
    exact backend_plain_reported _ _
  · intro r he hres
    rw [show read = _ from getColumn_of_false ep hu (hyes r he) hres]
    exact columnNotFound_reported _ _ _
  · intro r ms he hres hout hl
    rw [show read = _ from getColumn_objOut ep hu (hyes r he) hres hout, hl]
    exact columnNotFound_reported _ _ _
  · intro r j he hres hout hnull hobj
    obtain ⟨msg, hread⟩ := getColumn_otherOut ep hu (hyes r he) hres hout hnull hobj
    exact ⟨_, hread, rfl, rfl⟩
  · intro r he hres hout
    exact ⟨_, getColumn_noOut ep hu (hyes r he) hres hout, rfl, rfl⟩
  · intro r he hres hout
    rw [show read = _ from getColumn_nullOut ep hu (hyes r he) hres hout]
    exact columnNotFound_reported _ _ _
  · intro k f hk hf
    exact container_of_getColumn_error ep hk hf

/-- A result that computes to success is a success. -/
theorem exists_ok_of_toBool {ε α : Type} {e : Except ε α} (h : e.toBool = true) : ∃ a, e = .ok a := by
  cases e with
  | error _ => cases h
  | ok a => exact ⟨a, rfl⟩

/-- The read of set `SIN1` of the firewall column, where the database answers a
successful envelope without `out`. -/
theorem column_read_faults_firewall :
    ∃ u, Url.parse "http://netdb" ("http://netdb" ++ "/api/" ++ ("firewall" ++ "/" ++ "SIN1")) = .ok u ∧
    let x : Exchange := .answered 200 "\x7b\"result\":true\x7d"
    let ep : Endpoint := ⟨"netdb", "http://netdb", "/api/"⟩
    let get := ((answering x ep).get ("firewall" ++ "/" ++ "SIN1")).run
    let read := ((answering x ep).getColumn "SIN1" "firewall").run
    ((∀ r, ¬ Envelope x r) → BackendFault get true) ∧
    (∀ r, Envelope x r → r.result = false → MissingColumn get "" "" r.comment) ∧
    ((∀ r, ¬ Envelope x r) → BackendFault read true) ∧
    (∀ r, Envelope x r → r.result = false → MissingColumn read "firewall" "SIN1" r.comment) ∧
    (∀ r ms, Envelope x r → r.result = true → r.out = some (.obj ms) →
      Json.lookup? ms "SIN1" = none → MissingColumn read "firewall" "SIN1" "") ∧
    (∀ r j, Envelope x r → r.result = true → r.out = some j → j ≠ .null → (∀ ms, j ≠ .obj ms) →
      BackendFault read true) ∧
    (∀ r, Envelope x r → r.result = true → r.out = none → BackendFault read false) ∧
    (∀ r, Envelope x r → r.result = true → r.out = some .null →
      MissingColumn read "firewall" "SIN1" "") ∧
    (∀ k f, Column.Kind.resolve "firewall" = .ok k → read = .error f →
      ((answering x ep).container "SIN1" "firewall").run = .error f) := by
  obtain ⟨u, hu⟩ := exists_ok_of_toBool (show (Url.parse "http://netdb"
    ("http://netdb" ++ "/api/" ++ ("firewall" ++ "/" ++ "SIN1"))).toBool = true by decide +kernel)
  exact ⟨u, hu, column_read_faults _ ⟨"netdb", "http://netdb", "/api/"⟩ "SIN1" "firewall" u hu⟩

/-- Where the database answers a successful envelope without `out`, the read of
a column fails with a failure of the database that is not reported as an error
of the system. -/
theorem missing_out_reported_plain :
    BackendFault ((answering (.answered 200 "\x7b\"result\":true\x7d")
      ⟨"netdb", "http://netdb", "/api/"⟩).getColumn "SIN1" "firewall").run false := by
  obtain ⟨u, hu⟩ := exists_ok_of_toBool (show (Url.parse "http://netdb"
    ("http://netdb" ++ "/api/" ++ ("firewall" ++ "/" ++ "SIN1"))).toBool = true by decide +kernel)
  -- the body reads as a successful envelope without `out`
  have hbody : (Response.read 200 "\x7b\"result\":true\x7d").toOption.map
      (fun r => (r.result, r.out.isNone)) = some (true, true) := by
    decide +kernel
  rcases hread : Response.read 200 "\x7b\"result\":true\x7d" with msg | r
  · simp [hread, Except.toOption] at hbody
  · simp only [hread, Except.toOption, Option.map_some, Option.some.injEq, Prod.mk.injEq,
      Option.isNone_iff_eq_none] at hbody
    have he : Envelope (.answered 200 "\x7b\"result\":true\x7d") r := ⟨200, _, rfl, by decide, hread⟩
    exact ⟨_, getColumn_noOut _ hu ((receive_ok_iff _ _ _ _ u r).mpr he) hbody.1 hbody.2, rfl, rfl⟩

end NetFleet.Netdb
