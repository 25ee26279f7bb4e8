import NetFleet.Schema.Shape
import NetFleet.Decimal.Data
import NetFleet.Text.Quoted
import NetFleet.Text.Case

/-!
# Decoding documents against a shape

`decodeDocument` reads a JSON value into a `Node` of a given shape.

* The first failure in document order is the result: a value of the wrong
  kind, a number that is not a whole number of 64 bits where one is expected,
  or an address, prefix or dictionary key that does not read, or any failure
  inside an open record. The last three carry messages of their own.
* `null` leaves text, flags, numbers, addresses and records as they were, and
  clears optional values, lists, dictionaries and free-form JSON. An open record
  given `null` is reset to zero.
* A member name picks the record member of that name, or else the first whose
  name matches it without regard to letter case; a name that matches none is
  refused (`json: unknown field`). The members of an open record are matched
  exactly, and the others are kept.
* A member named twice is decoded twice into the same target: records and
  dictionaries merge, everything else is replaced. Each dictionary entry is
  decoded afresh.
* Free-form JSON keeps its structure; its numbers become doubles
  (`Decimal.dataText?`), and one beyond the range of doubles is a mismatch.

Mismatch messages name the expected type and the path of the value from the
root, each step written with `~` as `~0` and `/` as `~1`. A path that ends in a
record member is called a struct field; one that ends in a number (an item of a
list, or an entry whose key is digits) is not. Addresses and prefixes are read
from strings only, and their messages say so.
-/

namespace NetFleet.Schema

/-- Why a document does not decode. -/
inductive DecodeError where
  /-- A value of kind `found` where `typeName` was expected, at `path`. -/
  | mismatch (found typeName : String) (path : List String)
  /-- A value of kind `found` other than a string where `typeName`, a type
  read from text, was expected, at `path`. -/
  | notText (found typeName : String) (path : List String)
  /-- A failure that carries its own message. -/
  | other (msg : String)
deriving Inhabited, BEq

/-- A path step as written in a mismatch message. -/
def escapeStep (s : String) : String :=
  String.join (s.toList.map fun c => if c = '~' then "~0" else if c = '/' then "~1" else c.toString)

/-- Whether a path step is an index: digits only. -/
def isIndexStep (s : String) : Bool := s ≠ "" && s.toList.all fun c => '0' ≤ c && c ≤ '9'

/-- Where a mismatched value was to go: the whole value, a member of a record, or
an item or entry named by a number. -/
def intoText (root : String) (path : List String) : String :=
  match path.getLast? with
  | none => "Go value"
  | some last =>
    (if isIndexStep last then "" else "Go struct field ") ++ root ++ "." ++
      ".".intercalate (path.map escapeStep)

/-- The message of a decoding error; `root` names the type of the whole document. -/
def DecodeError.message (root : String) : DecodeError → String
  | .mismatch found ty path =>
    "json: cannot unmarshal " ++ found ++ " into " ++ intoText root path ++ " of type " ++ ty
  | .notText found ty path =>
    "json: cannot unmarshal " ++ found ++ " into " ++ intoText root path ++ " of type " ++ ty ++
      ": JSON value must be string type"
  | .other msg => msg

/-- Decoding stops at the first failure, in document order. -/
abbrev DecodeM := Except DecodeError

/-- The word for the kind of a JSON value in mismatch messages. -/
def foundName : Json → String
  | .null => "null"
  | .bool _ => "bool"
  | .num _ => "number"
  | .str _ => "string"
  | .arr _ => "array"
  | .obj _ => "object"

/-- A number literal as a double, written back in the data layout; `none` when it
is beyond the range of doubles. -/
def doubleText? (lit : String) : Option String := Decimal.dataText? lit

mutual

/-- Free-form JSON with its numbers made doubles. -/
def untyped (path : List String) : Json → DecodeM Json
  | .num lit => do
    match doubleText? lit with
    | some t => pure (.num t)
    | none => throw (.mismatch ("number " ++ lit) "float64" path)
  | .arr xs => do pure (.arr (← untypedItems path 0 xs))
  | .obj ms => do pure (.obj (← untypedMembers path ms))
  | j => pure j

/-- The items of free-form JSON, numbered from `i`. -/
def untypedItems (path : List String) (i : Nat) : List Json → DecodeM (List Json)
  | [] => pure []
  | x :: xs => do
    let y ← untyped (path ++ [toString i]) x
    let ys ← untypedItems path (i + 1) xs
    pure (y :: ys)

/-- The members of free-form JSON. -/
def untypedMembers (path : List String) : List (String × Json) → DecodeM (List (String × Json))
  | [] => pure []
  | (k, v) :: ms => do
    let v' ← untyped (path ++ [k]) v
    let ms' ← untypedMembers path ms
    pure ((k, v') :: ms')

end

/-- Read a dictionary key. -/
def decodeKey : KeyKind → String → Except DecodeError Key
  | .text, s => .ok (.text s)
  | .addr, s => match Net.Addr.parseText s with
    | .ok a => .ok (.addr a)
    | .error e => .error (.other e.message)
  | .cidr, s => match Net.Prefix.parseText s with
    | .ok p => .ok (.cidr p)
    | .error e => .error (.other e.message)

/-- Put an entry into entries sorted by written key, replacing an equal key. -/
def insertEntry (k : Key) (n : Node) : List (Key × Node) → List (Key × Node)
  | [] => [(k, n)]
  | (k', n') :: rest =>
    if k' = k then (k, n) :: rest
    else if k.render < k'.render then (k, n) :: (k', n') :: rest
    else (k', n') :: insertEntry k n rest

/-- Replace the node of member `name`. -/
def setMember (name : String) (n : Node) : List (String × Node) → List (String × Node)
  | [] => []
  | (k, v) :: rest => if k = name then (k, n) :: rest else (k, v) :: setMember name n rest

/-- The node of member `name`, or absent. -/
def memberNode (fs : List (String × Node)) (name : String) : Node :=
  ((fs.find? (·.1 = name)).map (·.2)).getD .nil

/-- Whether `key` names one of `known` up to letter case without being one of them. -/
def foldsToAny (key : String) (known : List String) : Bool :=
  !known.contains key &&
    known.any fun n => Text.foldName n == Text.foldName key

/-- The member a name decodes into: the member of that name, or else the first
whose name matches it without regard to letter case. -/
def pickMember (members : List Member) (name : String) : Option {m // m ∈ members} :=
  members.attach.find? (·.1.name = name) <|>
    members.attach.find? (fun m => Text.foldName m.1.name = Text.foldName name)

/-- Decode `j` into the node `cur` of shape `s`, at `path`. -/
def decodeInto (s : Shape) (cur : Node) (path : List String) (j : Json) : DecodeM Node :=
  match s with
  | .text ty => match j with
    | .str v => pure (.text v)
    | .null => pure cur
    | _ => throw (.mismatch (foundName j) ty path)
  | .flag => match j with
    | .bool b => pure (.flag b)
    | .null => pure cur
    | _ => throw (.mismatch (foundName j) "bool" path)
  | .int ty => match j with
    | .num lit =>
      match (Decimal.Literal.parse? lit).bind Decimal.Literal.toInt? with
      | some i =>
        if -(Int.pow 2 63) ≤ i ∧ i < Int.pow 2 63 then pure (.int i)
        else throw (.mismatch ("number " ++ lit) ty path)
      | none => throw (.mismatch ("number " ++ lit) ty path)
    | .null => pure cur
    | _ => throw (.mismatch (foundName j) ty path)
  | .addr => match j with
    | .str v => match Net.Addr.parseText v with
      | .ok a => pure (.addr a)
      | .error e => throw (.other e.message)
    | .null => pure cur
    | _ => throw (.notText (foundName j) "netip.Addr" path)
  | .cidr => match j with
    | .str v => match Net.Prefix.parseText v with
      | .ok p => pure (.cidr p)
      | .error e => throw (.other e.message)
    | .null => pure cur
    | _ => throw (.notText (foundName j) "netip.Prefix" path)
  | .any => do pure (.json (← untyped path j))
  | .raw => pure (.json j)
  | .opt e => match j with
    | .null => pure .nil
    | _ => do
      let inner := match cur with
        | .some n => n
        | _ => e.zero
      pure (.some (← decodeInto e inner path j))
  | .list e => match j with
    | .null => pure .nil
    | .arr xs => do
      let items ← (xs.zipIdx).mapM fun (x, i) => decodeInto e e.zero (path ++ [toString i]) x
      pure (.list items)
    | _ => throw (.mismatch (foundName j) s.typeName path)
  | .dict k e => match j with
    | .null => pure .nil
    | .obj ms => do
      let start := match cur with
        | .dict es => es
        | _ => []
      let step := fun (es : List (Key × Node)) (kv : String × Json) => do
        let kk ← decodeKey k kv.1
        let n ← decodeInto e e.zero (path ++ [kv.1]) kv.2
        pure (insertEntry kk n es)
      let es ← ms.foldlM step start
      pure (.dict es)
    | _ => throw (.mismatch (foundName j) s.typeName path)
  | .record ty members => match j with
    | .null => pure cur
    | .obj ms => do
      let start := match cur with
        | .record fs => fs
        | _ => Shape.zeroMembers members
      let step := fun (fs : List (String × Node)) (kv : String × Json) => do
        match pickMember members kv.1 with
        | some ⟨m, _⟩ =>
          let n ← decodeInto m.shape (memberNode fs m.name) (path ++ [kv.1]) kv.2
          pure (setMember m.name n fs)
        | none => throw (.other ("json: unknown field " ++ Text.quote kv.1))
      let fs ← ms.foldlM step start
      pure (.record fs)
    | _ => throw (.mismatch (foundName j) ty path)
  | .openRecord _ inner members =>
    match j with
    | .null => pure (.openRecord (Shape.zeroMembers members) [])
    | .obj ms => do
      let dict := Json.dictOf ms
      let known := members.map (·.name)
      match dict.find? (fun kv => foldsToAny kv.1 known) with
      | some (k, _) => throw (.other ("json: unknown field " ++ Text.quote k))
      | none => pure ()
      let step := fun (fs : List (String × Node)) (kv : String × Json) => do
        match members.attach.find? (·.1.name = kv.1) with
        | some ⟨m, _⟩ =>
          let n ← decodeInto m.shape (memberNode fs kv.1) [kv.1] kv.2
          pure (setMember kv.1 n fs)
        | none => pure fs
      let run : DecodeM (List (String × Node)) := ms.foldlM step (Shape.zeroMembers members)
      match run with
      | .error e => throw (.other (e.message inner))
      | .ok fs =>
        pure (.openRecord fs (dict.filter fun kv => !known.contains kv.1))
    | _ => throw (.other (DecodeError.message "" (.mismatch (foundName j) "map[string]jsontext.Value" [])))
termination_by sizeOf s
decreasing_by
  all_goals simp only [Shape.opt.sizeOf_spec, Shape.list.sizeOf_spec, Shape.dict.sizeOf_spec,
    Shape.record.sizeOf_spec, Shape.openRecord.sizeOf_spec]
  all_goals first
    | omega
    | exact Nat.lt_of_lt_of_le (Member.sizeOf_shape_lt (by assumption)) (by omega)

/-- Decode a whole document; `root` names its type in mismatch messages. -/
def decodeDocument (s : Shape) (root : String) (j : Json) : Except String Node :=
  match decodeInto s s.zero [] j with
  | .error e => .error (e.message root)
  | .ok n => .ok n

end NetFleet.Schema
