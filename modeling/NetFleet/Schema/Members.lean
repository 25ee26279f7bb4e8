import NetFleet.Schema.Shape
import NetFleet.Text.Quoted

/-!
# Member names

`unknownMember?` walks a document beside its shape and finds the first member
name that the shape does not declare, names compared exactly. Members of an
object are visited in name order (a repeated name counts once, with its last
value), and the walk goes depth first. Dictionary keys, free-form JSON, open
records, and addresses and prefixes are not checked; a value of the wrong kind
is passed over, since decoding reports it.

The message names the place of the object: the path of member names from the
root, dictionary keys and list positions in brackets, or `document` for the root.
-/

namespace NetFleet.Schema

/-- `path` with a member name added. -/
def joinName (path name : String) : String :=
  if path = "" then name else path ++ "." ++ name

/-- The path as messages name it. -/
def placeName (path : String) : String :=
  if path = "" then "document" else path

/-- `path` with a key or position in brackets. -/
def keyed (path key : String) : String := path ++ "[" ++ key ++ "]"

/-- The first undeclared member name in `j` against shape `s`, as a message. -/
def unknownMember? (s : Shape) (path : String) (j : Json) : Option String :=
  match s with
  | .opt e => unknownMember? e path j
  | .list e => match j with
    | .arr xs => (xs.zipIdx).firstM fun (x, i) => unknownMember? e (keyed (placeName path) (toString i)) x
    | _ => none
  | .dict _ e => match j with
    | .obj ms => (Json.dictOf ms).firstM fun (k, v) => unknownMember? e (keyed (placeName path) k) v
    | _ => none
  | .record _ members => match j with
    | .obj ms =>
      (Json.dictOf ms).firstM fun (k, v) =>
        match members.attach.find? (·.1.name = k) with
        | some ⟨m, _⟩ => unknownMember? m.shape (joinName path k) v
        | none => some (placeName path ++ ": unknown field " ++ Text.quote k)
    | _ => none
  | _ => none
termination_by sizeOf s
decreasing_by
  all_goals simp_wf
  all_goals first
    | omega
    | exact Nat.lt_of_lt_of_le (Member.sizeOf_shape_lt (by assumption)) (by omega)

end NetFleet.Schema
