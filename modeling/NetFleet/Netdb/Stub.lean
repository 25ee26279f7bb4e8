import NetFleet.Http.Exchange
import NetFleet.Json.Parse
import NetFleet.Json.Print
import NetFleet.Json.Dynamic

/-!
# Stand-in services

An in-memory stand-in for the database and utility services, so that clients can
run without a network. Each service logs every request it receives and answers
with the first of:

1. a transport failure, when one is set;
2. the first scripted answer not used up whose path (and method, if given)
   matches; an answer marked `once` is used up by one match;
3. for the database, an answer from its in-memory columns: the list of columns,
   a set of a column, the fragment of a column that a filter selects, or a write
   (`PUT` and `POST` store sets, `DELETE` removes them, `/validate` only checks);
4. otherwise, the utility service confirms any request and the database answers
   `404` `Not found`.
-/

namespace NetFleet.Netdb

open NetFleet (Json)
open NetFleet.Http

/-- A scripted answer. -/
structure Scripted where
  path : String
  method : Option String := none
  status : Nat := 200
  body : String := ""
  once : Bool := false
  used : Bool := false

/-- One stand-in service. -/
structure Stub where
  /-- the columns: column name → set id → value (dynamic JSON) -/
  db : List (String × Json) := []
  script : List Scripted := []
  failure : Option String := none

/-- Both stand-ins and the log of requests they received, oldest first. -/
structure Stubs where
  netdb : Stub := {}
  util : Stub := {}
  log : List Json := []

/-- The first usable scripted answer for a method and path, and the script with it
used. -/
def takeScripted (method path : String) : List Scripted → Option (Scripted × List Scripted)
  | [] => none
  | s :: rest =>
    if !s.used && s.path = path && (s.method.all (· = method)) then
      some (s, (if s.once then { s with used := true } else s) :: rest)
    else (takeScripted method path rest).map fun (hit, rest') => (hit, s :: rest')

/-- An answer with a JSON body. -/
def answer (status : Nat) (body : Json) : Exchange := .answered status (Json.render .html body)

/-- The answer `404` with a comment. -/
def notFound (comment : String) : Exchange :=
  answer 404 (.obj [("result", .bool false), ("comment", .str comment)])

/-- Take the value at `path` in `v`, for each step an object holding the key. -/
def walk : Json → List String → Option Json
  | v, [] => some v
  | .obj ms, k :: rest => (Json.lookup? ms k).bind (walk · rest)
  | _, _ :: _ => none

/-- Wrap a value back into one object per step of a path. -/
def wrapPath (v : Json) : List String → Json
  | [] => v
  | k :: rest => .obj [(k, wrapPath v rest)]

/-- The sets of a column, empty when there is no such column. -/
def Stub.sets (s : Stub) (column : String) : List (String × Json) :=
  match Json.lookup? s.db column with
  | some (.obj ms) => ms
  | _ => []

/-- What the database answers from its columns, with the database afterwards. -/
def Stub.serveData (s : Stub) (method path : String) (body : Option Json) : Exchange × Stub :=
  let ok (extra : List (String × Json)) := answer 200 (.obj ([("result", .bool true)] ++ extra))
  let (column, rest) := match path.splitOn "/" with
    | [c] => (c, none)
    | c :: more => (c, some ("/".intercalate more))
    | [] => (path, none)
  if method = "GET" && path = "columns" then
    (ok [("out", Json.strs ((s.db.map (·.1)).mergeSort fun a b => decide (a ≤ b)))], s)
  else if method = "GET" then
    match rest with
    | some key =>
      match Json.lookup? (s.sets column) key with
      | some v => (ok [("out", .obj [(key, v)])], s)
      | none => (notFound "No data found", s)
    | none =>
      let sets := s.sets column
      if sets.isEmpty then (notFound "No data found", s)
      else
        let steps := match body with
          | some (.arr items) => items.filterMap Json.str?
          | _ => []
        match walk (.obj sets) steps with
        | some v => (ok [("out", wrapPath v steps)], s)
        | none => (notFound "No data found", s)
  else if (method = "PUT" || method = "POST" || method = "DELETE") &&
      (rest.isNone || rest = some "validate") then
    match body with
    | some (.obj given) =>
      if rest = some "validate" then (ok [("comment", .str (column ++ " data validated"))], s)
      else
        let sets := given.foldl (fun acc (k, v) =>
          if method = "DELETE" then acc.filter (·.1 ≠ k) else Json.put k v acc) (s.sets column)
        let verb := if method = "PUT" then "updated" else if method = "POST" then "saved" else "deleted"
        let kept := method = "DELETE" && (Json.lookup? s.db column).isNone
        (ok [("comment", .str (column ++ " column " ++ verb))],
          if kept then s else { s with db := Json.put column (.obj sets) s.db })
    | _ => (answer 422 (.obj [("result", .bool false), ("comment", .str "Invalid data")]), s)
  else (notFound "Not found", s)

/-- The entry of the log for a request. -/
def logEntry (service method path query : String) (body : Option String) : Json :=
  let bodyPart : List (String × Json) := match body with
    | none | some "" => []
    | some b => match Json.parse b with
      | .ok j => [("body", (Json.dynamic? j).toOption.getD j)]
      | .error _ => [("body", Json.str b)]
  Json.obj ([("service", Json.str service), ("method", Json.str method), ("path", Json.str path)] ++
    (if query = "" then [] else [("query", Json.str query)]) ++ bodyPart)

/-- Serve one request to a service (`true` for the database). -/
def Stubs.serve (st : Stubs) (isData : Bool) (r : Request) : Exchange × Stubs :=
  let s := if isData then st.netdb else st.util
  let path := (r.url.path.drop r.endpoint.basePath.length).toString
  let entry := logEntry (if isData then "netdb" else "util") r.method path r.url.query r.body
  let st := { st with log := st.log ++ [entry] }
  let store := fun (s' : Stub) => if isData then { st with netdb := s' } else { st with util := s' }
  match s.failure with
  | some reason => (.failed reason, st)
  | none =>
    match takeScripted r.method path s.script with
    | some (hit, script) => (.answered hit.status hit.body, store { s with script })
    | none =>
      if isData then
        let body := r.body.bind fun b => (Json.parse b).toOption.map fun j => (Json.dynamic? j).toOption.getD j
        let (ex, s') := s.serveData r.method path body
        (ex, store s')
      else
        (answer 200 (.obj [("result", .bool true), ("comment", .str (r.method ++ " " ++ path))]), st)

/-- The link to the stand-ins, as a state of them. -/
def Stubs.link (isData : Bool) : Link (StateM Stubs) where
  send r := fun st => st.serve isData r

end NetFleet.Netdb
