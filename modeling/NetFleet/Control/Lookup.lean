import NetFleet.Control.Station
import NetFleet.Json.Dynamic
import NetFleet.Schema.Decode

/-!
# Looking up column data

The router's data in any column can be read without a shape, as dynamic JSON
(`Json.dynamic?`), and walked by a path: a column name and the keys below it,
joined by a delimiter (`:` unless another is given), as in
`bgp:neighbors:10.0.0.2`.

* Pulling a column needs an object that is not empty.
* A path must name a column. A key that is missing, or a value on the way that
  is not an object, is not found, and the fault names the path up to that key.
* The keys of an object come sorted; a value that is not an object has none.
* Several paths are looked up at once; a path that is not found, or that leads
  to `null`, gives an empty list, and any other failure fails the whole lookup.
-/

namespace NetFleet.Control

open NetFleet (Json Fault Reply)

/-- The delimiter of paths when none is given. -/
def defaultDelimiter : String := ":"

/-- A fault of the database's data for a column. -/
def decodingFault (column msg : String) : Fault :=
  .backend "netdb" (.within ("decoding " ++ column ++ " column") (.plain msg))

/-- The fault of a path that leads nowhere: the path up to the key that failed. -/
def pathNotFound (path : String) : Fault := .wrap (path ++ ": ") "" (.sentinel .notFound)

/-- Walk a value by keys; `seen` holds the path walked so far. -/
def walkKeys (delim : String) (seen : List String) (cur : Json) : List String → Except Fault Json
  | [] => .ok cur
  | key :: rest =>
    match cur with
    | .obj ms =>
      match Json.lookup? ms key with
      | some v => walkKeys delim (seen ++ [key]) v rest
      | none => .error (pathNotFound (delim.intercalate (seen ++ [key])))
    | _ => .error (pathNotFound (delim.intercalate seen))

variable {m : Type → Type} [Monad m]

namespace Station

/-- The columns the database serves. -/
def listColumns (s : Station m) : Op m Reply := do
  match ← attempt s.netdb.listColumns with
  | .error f => return faultReply f
  | .ok r => return r.envelope

/-- The router's data in a column, as dynamic JSON. -/
def columnData (s : Station m) (column : String) : Op m (Except Fault Json) := do
  match ← attempt (s.netdb.getColumn s.router column) with
  | .error f => return .error f
  | .ok raw => return (Json.dynamic? raw).mapError (decodingFault column)

/-- The router's data in a column, which must be an object that is not empty. -/
def pullColumn (s : Station m) (column : String) : Op m (Except Fault (List (String × Json))) := do
  match ← s.columnData column with
  | .error f => return .error f
  | .ok (.obj ms) =>
    if ms.isEmpty then return .error (.wrap (column ++ ": Empty column returned: ") "" (.sentinel .notFound))
    else return .ok ms
  | .ok .null => return .error (.wrap (column ++ ": Empty column returned: ") "" (.sentinel .notFound))
  | .ok j =>
    return .error (decodingFault column
      ((Schema.DecodeError.mismatch (Schema.foundName j) "map[string]interface {}" []).message ""))

/-- The value a path reaches. -/
def columnGet (s : Station m) (path delimiter : String) : Op m (Except Fault Json) := do
  let delim := if delimiter = "" then defaultDelimiter else delimiter
  let parts := path.splitOn delim
  let column := parts.headD ""
  if column = "" then return .error (.validation ["column: required"])
  match ← s.columnData column with
  | .error f => return .error f
  | .ok cur => return walkKeys delim [column] cur parts.tail

/-- The sorted keys of the object a path reaches. -/
def columnKeys (s : Station m) (path delimiter : String) : Op m (Except Fault (List String)) := do
  match ← s.columnGet path delimiter with
  | .error f => return .error f
  | .ok (.obj ms) => return .ok ((ms.map (·.1)).mergeSort fun a b => decide (a ≤ b))
  | .ok _ => return .error (.validation [path ++ ": not an object"])

/-- The values of several paths, by path. -/
def columnItems (s : Station m) (delimiter : String) (paths : List String) :
    Op m (Except Fault (List (String × Json))) := do
  let mut out : List (String × Json) := []
  for p in paths do
    match ← s.columnGet p delimiter with
    | .ok .null => out := Json.put p (.arr []) out
    | .ok v => out := Json.put p v out
    | .error f =>
      if f.isNotFound then out := Json.put p (.arr []) out
      else return .error f
  return .ok out

end Station

end NetFleet.Control
