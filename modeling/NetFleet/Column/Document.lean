import NetFleet.Column.Rules
import NetFleet.Column.Shapes
import NetFleet.Schema.Decode
import NetFleet.Schema.Encode
import NetFleet.Schema.Members
import NetFleet.Json.Parse
import NetFleet.Json.Print

/-!
# Column documents

A column document is read in these steps, and the first that fails decides the
answer, always a validation fault:

1. the text must start with a JSON value (`Json.parseFirst`);
2. every member name must be declared by the column's shape
   (`Schema.unknownMember?`);
3. the value must decode against the shape (`Schema.decodeDocument`);
4. nothing but blanks, or a closing bracket or brace, may follow the value;
5. `column_type`, when given, must name the column's kind;
6. after defaults are filled in, the column rules must hold.

`Document.decode` reads a document of a known kind, with the rules visiting the
addresses of each interface in key order (`Document.decodeIn` leaves that order
open); `Document.decodeAny` first
reads `column_type` from the whole text to find the kind; `Document.decodeSets`
wraps a bare `column` value in a document of the given kind.
-/

namespace NetFleet.Column

open Schema

/-- A decoded column document of a kind. -/
structure Document where
  kind : Kind
  node : Node
deriving Inhabited

namespace Document

/-- A validation fault with one message. -/
def invalid (msg : String) : Fault := .validation [msg]

/-- Read a document of kind `k` from its text up to its rules: steps 1 to 5,
then the defaults filled in. -/
def prepare (k : Kind) (text : String) : Except Fault Node := do
  let (j, rest) ← match Json.parseFirst text with
    | .ok r => pure r
    | .error e => throw (invalid e.streamMessage)
  if let some msg := unknownMember? k.documentShape "" j then throw (invalid msg)
  let node ← match decodeDocument k.documentShape k.documentName j with
    | .ok n => pure n
    | .error msg => throw (invalid msg)
  if Json.moreAfter rest then throw (invalid "unexpected data after column document")
  let given := (node.member "column_type").str
  let node ←
    if given = "" then
      pure (match node with
        | .record fs => .record (fs.map fun (n, v) => if n = "column_type" then (n, .text k.name) else (n, v))
        | other => other)
    else if given = k.name then pure node
    else throw (invalid ("column_type: expected " ++ Text.quote k.name ++ ", got " ++ Text.quote given))
  return applyDefaults k node

/-- Check the rules of a prepared document, with the addresses of each interface
visited in the order `visit` gives: every violation is reported. -/
def checkRules (visit : Visit) (k : Kind) (node : Node) : Except Fault Document :=
  match documentRules visit k node with
  | [] => .ok ⟨k, node⟩
  | msgs => .error (.validation msgs)

/-- Read a document of kind `k` from its text, checking the rules with the
addresses of each interface visited in the order `visit` gives. -/
def decodeIn (visit : Visit) (k : Kind) (text : String) : Except Fault Document := do
  let node ← prepare k text
  checkRules visit k node

/-- Read a document of kind `k` from its text. -/
def decode (k : Kind) (text : String) : Except Fault Document := decodeIn keyOrder k text

/-- The JSON form of a document. -/
def toJson (d : Document) : Json := encode d.kind.documentShape d.node

/-- The text of a document, as stored and sent. -/
def render (d : Document) : String := Json.render .html d.toJson

/-- The set ids of a document, in order. -/
def setIds (d : Document) : List String := (textEntries (d.node.member "column")).map (·.1)

/-- The record of set `id`, if the document has it. -/
def set? (d : Document) (id : String) : Option Node :=
  ((textEntries (d.node.member "column")).find? (·.1 = id)).map (·.2)

/-- The value of `column_type` as a reader that ignores letter case in member
names finds it: the last member whose name matches, `""` when none does. -/
def columnTypeOf (j : Json) : Except Fault String :=
  match j with
  | .obj ms =>
    let step := fun (acc : String) (kv : String × Json) =>
      if Text.foldName kv.1 = "column_type" then
        match kv.2 with
        | .str s => pure s
        | .null => pure acc
        | other => throw (invalid ("json: cannot unmarshal " ++ foundName other ++
            " into Go struct field .column_type of type string"))
      else pure acc
    ms.foldlM step ""
  | .null => pure ""
  | other => throw (invalid ("json: cannot unmarshal " ++ foundName other ++
      " into Go value of type struct \x7b Type string \"json:\\\"column_type\\\"\" \x7d"))

/-- Read a document whose kind is given by its own `column_type`. -/
def decodeAny (text : String) : Except Fault Document := do
  let j ← match Json.parse text with
    | .ok j => pure j
    | .error e => throw (invalid e.message)
  let name ← columnTypeOf j
  let k ← Kind.resolve name
  decode k text

/-- Read a document of kind `k` whose sets are the JSON text `column`. -/
def decodeSets (k : Kind) (column : String) : Except Fault Document := do
  let j ← match Json.parse column with
    | .ok j => pure j
    | .error e => throw (.plain ("json: error calling MarshalJSON for type *jsontext.Value: " ++ e.message))
  decode k (Json.render .html (.obj [("column_type", .str k.name), ("column", j)]))

end Document

end NetFleet.Column

namespace NetFleet.Column.Document

/-- Whether a document survives being written and read back: the text read back
writes the same text again. -/
def roundTrip (d : Document) : Except Fault Bool := do
  let again ← decode d.kind d.render
  return again.render == d.render

end NetFleet.Column.Document
