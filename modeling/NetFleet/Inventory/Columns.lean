import NetFleet.Inventory.Desk
import NetFleet.Yaml.Datum
import NetFleet.Yaml.Emit
import NetFleet.Column.Kind

/-!
# Whole columns

Jobs on whole columns of the inventory:

* reading a column, or the fragment a filter selects, either as data or as one
  YAML document that a bulk update accepts back;
* bulk loading and bulk updating from a YAML file. A load only creates elements
  and an update only replaces existing ones; the database decides. The file must
  exist and read as YAML; an empty document sends no data at all;
* generating a column from the repository connector, and reloading it from there.

Every job first checks that the column is one the inventory knows (`Invalid
column` otherwise).
-/

namespace NetFleet.Inventory

open NetFleet (Json Fault Reply Output)

/-- A file of column data, as found at its path. -/
inductive DataFile where
  | missing
  | directory
  | text (content : String)

/-- Whether a name is a column of the inventory. -/
def validColumn (name : String) : Bool := (Column.Kind.ofName? name).isSome

/-- The reply for a name that is no column. -/
def invalidColumn : Reply := Reply.fail "Invalid column"

/-- The data of a YAML file at `path`, or the reply for why there is none. -/
def readDataFile (path : String) : DataFile → Except Reply (Option Yaml.Datum)
  | .missing => .error (errorOf "File not found.")
  | .directory => .error (errorOf ("read " ++ path ++ ": is a directory"))
  | .text s => match Yaml.Datum.read s with
    | .ok d => .ok d
    | .error e => .error (errorOf (path ++ ": " ++ e.message))

/-- The body of a write: nothing for no data or null data; data that JSON
cannot hold is a fault. -/
def bodyOf : Option Yaml.Datum → Except Fault (Option Json)
  | none | some .null => .ok none
  | some d => match d.toJson with
    | .ok j => .ok (some j)
    | .error e => .error (.plain ("encoding request body: " ++ e))

/-- A successful reply with its output written as one YAML document, when
`raw` asks for it. -/
def asYaml (r : Reply) (raw : Bool) : Reply :=
  if !raw || !r.result then r
  else
    let out := match r.out with
      | some (.data j) => j
      | _ => .null
    { r with out := some (.data (.str (Yaml.document out))) }

variable {m : Type → Type} [Monad m]

/-- Write the data of a YAML file with a client call, recording `operation`. -/
def Desk.writeFile (d : Desk m) (operation column path : String) (file : DataFile) (test : Bool)
    (send : Option Json → Netdb.Call m Netdb.Response) : Job m Reply := do
  if !validColumn column then return invalidColumn
  match readDataFile path file with
  | .error r => return r
  | .ok data =>
    let r ← match bodyOf data with
      | .ok body => answer (send body)
      | .error f => pure (Reply.ofFault (some f))
    d.record operation "" column test r
    return r

/-- Create column elements from a YAML file. -/
def Desk.loadFile (d : Desk m) (column path : String) (file : DataFile) (test : Bool) : Job m Reply :=
  d.writeFile "loader.load" column path file test fun body => d.netdb.save column body test

/-- Replace column elements from a YAML file. -/
def Desk.updateFile (d : Desk m) (column path : String) (file : DataFile) (test : Bool) : Job m Reply :=
  d.writeFile "loader.update" column path file test fun body => d.netdb.update column body test

/-- A whole column. -/
def Desk.column (d : Desk m) (column : String) (raw : Bool) : Job m Reply := do
  if !validColumn column then return invalidColumn
  return asYaml (← answer (d.netdb.get column)) raw

/-- The fragment of a column that set, category, family and element select;
set ids are normalized. -/
def Desk.query (d : Desk m) (column setId category family element : String) (raw : Bool) :
    Job m Reply := do
  if !validColumn column then return invalidColumn
  let f : Netdb.Filter := { setId := Column.normalizeSetId setId, category, family, element }
  return asYaml (← answer (d.netdb.query column f)) raw

/-- The endpoint of the repository connector. -/
def repoEndpoint : String := "connectors/repo/"

/-- A column as the repository connector would load it. -/
def Desk.generateColumn (d : Desk m) (column : String) : Job m Reply := do
  if !validColumn column then return invalidColumn
  d.callUtil "GET" (repoEndpoint ++ column) none [] true

/-- Replace the repository's data in a column; quiet unless `verbose`. -/
def Desk.reloadColumn (d : Desk m) (column : String) (verbose test : Bool) : Job m Reply := do
  if !validColumn column then return invalidColumn
  let r ← d.callUtil "POST" (repoEndpoint ++ column) none [] test
  d.record "repo.reload" "" column test r
  return terse r verbose

end NetFleet.Inventory
