import NetFleet.Http.Exchange
import NetFleet.Netdb.Response
import NetFleet.Column.Document
import NetFleet.Column.Override
import NetFleet.Fault

/-!
# Clients of the database services

A client sends JSON requests to one service over a `Link` and reads the envelope
of each answer. A request fails

* when its target is no URL (the fault is the reading error),
* when the transport fails (`Get "url": reason`), when the status is not one the
  operation accepts (`url: 404: Not Found`), or when the body is no envelope;
  these are backend faults of the service.

On the database, reading a column treats a false result as a missing column, and
writing a column can be checked first against the column's shape
(`Client.applyOverride`, `Client.setInterfaceDisabled`). The utility service
takes four methods only, and commits unless asked for a dry run.
-/

namespace NetFleet.Netdb

open NetFleet (Json Fault)
open NetFleet.Http

/-- A client of one service. -/
structure Client (m : Type → Type) where
  link : Link m
  service : Endpoint

/-- Operations of a client: they fail with a fault. -/
abbrev Call (m : Type → Type) := ExceptT Fault m

/-- The statuses under which the database answers with an envelope. -/
def dataStatuses : List Nat := [200, 404, 422]

/-- The statuses under which the utility service answers with an envelope. -/
def utilStatuses : List Nat := [200, 400, 404, 422]

/-- What the answer to a request of `service` means: the envelope it carries, or
the backend fault of why there is none. `target` is the text the request's `url`
was read from; `accepted` are the statuses under which an envelope is read. -/
def receive (service : Endpoint) (method target : String) (url : Url) (accepted : List Nat) :
    Exchange → Except Fault Response
  | .failed reason =>
    .error (.backend service.name
      (.plain (verbOf method ++ " " ++ Text.quote url.render ++ ": " ++ reason)))
  | .answered status raw =>
    if !accepted.contains status then
      .error (.backend service.name
        (.plain (target ++ ": " ++ toString status ++ ": " ++ statusText status)))
    else match Response.read status raw with
      | .ok r => .ok r
      | .error msg => .error (.backend service.name (.plain msg))

/-- The target of a request to an endpoint of a service, with its query. -/
def targetOf (service : Endpoint) (endpoint : String) (params : List (String × List String)) :
    String :=
  service.base ++ endpoint ++ (if params.isEmpty then "" else "?" ++ encodeQuery params)

/-- Send one request and read the envelope of its answer. -/
def Client.call [Monad m] (c : Client m) (method endpoint : String) (body : Option Json)
    (params : List (String × List String)) (accepted : List Nat) : Call m Response := do
  let target := targetOf c.service endpoint params
  let url ← match Url.parse c.service.origin target with
    | .ok u => pure u
    | .error msg => throw (.plain msg)
  let ex ← (c.link.send ⟨c.service, method, url, body.map (Json.render .html)⟩ : m Exchange)
  match receive c.service method target url accepted ex with
  | .ok r => pure r
  | .error f => throw f

/-- A selection of a fragment of a column: set, category, family and element;
empty parts are left out. -/
structure Filter where
  setId : String := ""
  category : String := ""
  family : String := ""
  element : String := ""

/-- The part of a column that an override changes. -/
def Filter.ofOverride (o : Column.Override) : Filter :=
  { setId := o.setId, category := o.category, family := o.family, element := o.elementId }

/-- A filter as the database reads it: a list of four, `null` for empty parts. -/
def Filter.toJson (f : Filter) : Json :=
  .arr ([f.setId, f.category, f.family, f.element].map fun s => if s = "" then .null else .str s)

/-- Read an endpoint of the database; a false result is a missing column with the
database's comment. -/
def Client.get [Monad m] (c : Client m) (endpoint : String) : Call m Response := do
  let r ← c.call "GET" endpoint none [] dataStatuses
  if r.result then pure r else throw (.columnNotFound "" "" r.comment)

/-- The columns the database serves. -/
def Client.listColumns [Monad m] (c : Client m) : Call m Response := c.get "columns"

/-- The data of one set of a column, as sent. -/
def Client.getColumn [Monad m] (c : Client m) (setId column : String) : Call m Json := do
  let r ← tryCatch (c.get (column ++ "/" ++ setId)) fun f =>
    match f with
    | .columnNotFound _ _ comment => throw (.columnNotFound column setId comment)
    | other => throw other
  let fail := fun (f : Fault) => Fault.backend "netdb" (.within ("decoding " ++ column ++ " column") f)
  match r.out with
  | none => throw (fail (.wrap "" ": response has no out" (.sentinel .notFound)))
  | some .null => throw (.columnNotFound column setId "")
  | some (.obj ms) =>
    match Json.lookup? ms setId with
    | some data => pure data
    | none => throw (.columnNotFound column setId "")
  | some j =>
    throw (fail (.plain ((Schema.DecodeError.mismatch (Schema.foundName j)
      "map[string]jsontext.Value" []).message "")))

/-- One set of a column read and decoded with the column's shape. -/
def Client.container [Monad m] (c : Client m) (setId column : String) :
    Call m Column.Document := do
  let k ← (Column.Kind.resolve column : Except Fault Column.Kind)
  let data ← c.getColumn setId column
  let keyed := Json.render .html (.obj [(setId, data)])
  (Column.Document.decodeSets k keyed : Except Fault Column.Document)

/-- The fragment a filter selects; the answer comes back as it is. -/
def Client.query [Monad m] (c : Client m) (column : String) (f : Filter) : Call m Response :=
  c.call "GET" column (some f.toJson) [] dataStatuses

/-- Write column data with a method; a test only validates. Without data the
request has no body. -/
def Client.write [Monad m] (c : Client m) (method column : String) (data : Option Json) (test : Bool) :
    Call m Response :=
  c.call method (column ++ (if test then "/validate" else "")) data [] dataStatuses

/-- Create column data. -/
def Client.save [Monad m] (c : Client m) (column : String) (data : Option Json) (test : Bool) :
    Call m Response := c.write "POST" column data test

/-- Replace column data; a successful answer carries the data as its output
(`null` for no data). -/
def Client.update [Monad m] (c : Client m) (column : String) (data : Option Json) (test : Bool) :
    Call m Response := do
  let r ← c.write "PUT" column data test
  if r.result then pure { r with out := some (data.getD .null) } else pure r

/-- Remove column data. -/
def Client.delete [Monad m] (c : Client m) (column : String) (data : Option Json) (test : Bool) :
    Call m Response := c.write "DELETE" column data test

/-- The fragment a filter selects, as a dynamic object (`none` when the database
sent `null`). A false result is an empty fragment, or a missing column when the
fragment must exist. -/
def Client.fragment [Monad m] (c : Client m) (column : String) (f : Filter) (mustExist : Bool) :
    Call m (Option (List (String × Json))) := do
  let r ← c.query column f
  if !r.result then
    if mustExist then throw (.columnNotFound column f.setId r.comment) else pure (some [])
  else
    let fail := fun (msg : String) =>
      Fault.backend "netdb" (.within ("decoding " ++ column ++ " fragment") (.plain msg))
    match r.out with
    | none => pure (some [])
    | some .null => pure none
    | some (.obj ms) =>
      match Json.dynamic? (.obj ms) with
      | .ok (.obj d) => pure (some d)
      | .ok _ => pure (some [])
      | .error msg => throw (fail msg)
    | some j =>
      throw (fail ((Schema.DecodeError.mismatch (Schema.foundName j)
        "map[string]interface {}" []).message ""))

/-- Check column data against the column's shape, then replace it. -/
def Client.validateAndUpdate [Monad m] (c : Client m) (column : String)
    (data : List (String × Json)) (test : Bool) : Call m Response := do
  let k ← (Column.Kind.resolve column : Except Fault Column.Kind)
  let _ ← (Column.Document.decodeSets k (Json.render .html (.obj data)) : Except Fault Column.Document)
  c.update column (some (.obj data)) test

/-- Merge an override into the fragment it selects, check the result and submit
it. -/
def Client.applyOverride [Monad m] (c : Client m) (o : Column.Override) (test : Bool) :
    Call m Response := do
  (o.validate : Except Fault Unit)
  let current ← c.fragment o.columnType (.ofOverride o) false
  let merged ← (o.apply current : Except Fault (List (String × Json)))
  c.validateAndUpdate o.columnType merged test

/-- An interfaces fragment with the disabled flag of one interface set or
cleared; `none` when the fragment does not hold that interface. -/
def withDisabled (cur : List (String × Json)) (setId iface : String) (disabled : Bool) :
    Option (List (String × Json)) :=
  let ifaces := match Json.lookup? cur setId with
    | some (.obj is) => is
    | _ => []
  match Json.lookup? ifaces iface with
  | some (.obj entry) =>
    let entry' := if disabled then Json.put "disabled" (.bool true) entry
      else entry.filter (·.1 ≠ "disabled")
    some (Json.put setId (.obj (Json.put iface (.obj entry') ifaces)) cur)
  | _ => none

/-- Set or clear the disabled flag of an interface that the database holds. -/
def Client.setInterfaceDisabled [Monad m] (c : Client m) (setId iface : String)
    (disabled test : Bool) : Call m Response := do
  let current ← c.fragment "interface" { setId, element := iface } true
  match withDisabled (current.getD []) setId iface disabled with
  | some updated => c.validateAndUpdate "interface" updated test
  | none => throw (.columnNotFound "interface" setId ("interface " ++ iface ++ " not found in netdb"))

/-- The methods the utility service takes. -/
def utilMethods : List String := ["GET", "POST", "PUT", "DELETE"]

/-- Send data to an endpoint of the utility service; unless `test` is set, the
service is told to commit (`test=false`). -/
def Client.request [Monad m] (c : Client m) (method endpoint : String) (data : Option Json)
    (params : List (String × List String)) (test : Bool) : Call m Response := do
  if !utilMethods.contains method then throw (.method method)
  let q := if test then params else (params.filter (·.1 ≠ "test")) ++ [("test", ["false"])]
  c.call method endpoint data q utilStatuses

/-- Read an endpoint of the utility service. -/
def Client.utilGet [Monad m] (c : Client m) (endpoint : String)
    (params : List (String × List String)) : Call m Response :=
  c.request "GET" endpoint none params true

end NetFleet.Netdb
