import NetFleet.Column.Kind
import NetFleet.Column.Checks
import NetFleet.Json.Dynamic
import NetFleet.Text.Case

/-!
# Overrides

An override changes one part of a column: the set `setId`, optionally narrowed to
a category, a family and an element. Its path lists those of the four that are
given, in that order. Applying it walks the path through the column, creating
empty objects where a step is missing or `null`, and merges its data into the
object found there (`Json.mergeDeep`). A step that finds a value that is not an
object refuses the override, naming the path up to that step.
-/

namespace NetFleet.Column

/-- A change to one part of a column. `data = none` means no data at all. -/
structure Override where
  columnType : String := ""
  setId : String := ""
  category : String := ""
  family : String := ""
  elementId : String := ""
  data : Option (List (String × Json)) := none
deriving Inhabited

namespace Override

/-- The steps from the column to the part the override changes. -/
def path (o : Override) : List String :=
  o.setId :: [o.category, o.family, o.elementId].filter (· ≠ "")

/-- Check an override: its column kind must exist, its category must belong to
that kind, and it needs a set id, a known family if any, and data. -/
def validate (o : Override) : Except Fault Unit := do
  let k ← Kind.resolve o.columnType
  if o.category ≠ "" ∧ !k.hasCategory o.category then
    throw (.wrap "" (": " ++ Text.quote o.category ++ " is not a category of the " ++ k.name ++ " column")
      (.sentinel .invalidCategory))
  let msgs := checkRequired "set_id" (o.setId ≠ "") ++
    (if o.family ≠ "" then checkEnum "family" o.family ["ipv4", "ipv6"] else []) ++
    checkRequired "data" o.data.isSome
  if msgs.isEmpty then return () else throw (.validation msgs)

/-- Walk `path` into the object `node` and merge `data` there. `done` holds the
steps already taken, for the message of a refused step. -/
def applyAt (data : List (String × Json)) (done : List String) :
    List String → List (String × Json) → Except Fault (List (String × Json))
  | [], node => .ok (Json.mergeDeep node data)
  | k :: rest, node =>
    let here := done ++ [k]
    match Json.lookup? node k with
    | none | some .null => do
      let child ← applyAt data here rest []
      return Json.put k (.obj child) node
    | some (.obj m) => do
      let child ← applyAt data here rest m
      return Json.put k (.obj child) node
    | some _ => .error (.validation [".".intercalate here ++ ": not an object"])

/-- Apply an override to a dynamic column (`none` for no column at all). -/
def apply (o : Override) (column : Option (List (String × Json))) : Except Fault (List (String × Json)) :=
  applyAt (o.data.getD []) [] o.path (column.getD [])

/-- A text member of an override: `null` keeps the old value. -/
def textMember (v : Json) (name old : String) : Except String String :=
  match v with
  | .str s => .ok s
  | .null => .ok old
  | _ => .error ("json: cannot unmarshal into Go struct field Override." ++ name ++ " of type string")

/-- Read an override from JSON, matching member names without regard to letter
case; its data becomes dynamic JSON. -/
def ofJson (j : Json) : Except String Override :=
  match j with
  | .null => .ok {}
  | .obj ms =>
    ms.foldlM (fun (o : Override) (kv : String × Json) =>
      match Text.foldName kv.1 with
      | "column_type" => do return { o with columnType := ← textMember kv.2 "column_type" o.columnType }
      | "set_id" => do return { o with setId := ← textMember kv.2 "set_id" o.setId }
      | "category" => do return { o with category := ← textMember kv.2 "category" o.category }
      | "family" => do return { o with family := ← textMember kv.2 "family" o.family }
      | "element_id" => do return { o with elementId := ← textMember kv.2 "element_id" o.elementId }
      | "data" =>
        match kv.2 with
        | .null => .ok { o with data := none }
        | .obj _ => do
          match ← Json.dynamic? kv.2 with
          | .obj d => return { o with data := some d }
          | _ => return o
        | _ => .error "json: cannot unmarshal into Go struct field Override.data of type map[string]interface {}"
      | _ => .ok o) {}
  | _ => .error "json: cannot unmarshal into Go value of type column.Override"

end Override

end NetFleet.Column
