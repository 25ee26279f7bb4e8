import NetFleet.Fault
import NetFleet.Json.Value

/-!
# Replies

A `Reply` is what every operation answers: whether it succeeded, a comment for
people, whether the failure was an error of the system rather than a refusal, an
optional structured output, the database's own reply where the operation also
wrote there, and a notice.

`Reply.ofFault` turns a fault into a reply. A refusal (`error = false`) is an
unmet precondition (its comment is the condition), a missing column, or a fault
whose chain holds one of the sentinels for invalid input or absent or present
resources; every other fault is an error of the system (`error = true`).
-/

namespace NetFleet

/-- The structured output of an operation: data, or the outputs of commands run
on a router, by command. -/
inductive Output where
  | data (j : Json)
  | commands (outputs : List (String × String))
deriving Inhabited

/-- The JSON form of an output; command outputs are sorted by command. -/
def Output.toJson : Output → Json
  | .data j => j
  | .commands cs =>
    .obj ((cs.mergeSort fun a b => decide (a.1 ≤ b.1)).map fun (c, o) => (c, .str o))

/-- The answer of an operation. `out = none` means no output; `some (.data .null)`
is an output that is present and empty. -/
structure Reply where
  result : Bool
  comment : String := ""
  error : Bool := false
  out : Option Output := none
  netdb : Option Reply := none
  notice : String := ""
deriving Inhabited

namespace Reply

/-- A success with a comment and an output. -/
def ok (comment : String) (out : Option Output := none) : Reply :=
  { result := true, comment, out }

/-- A refusal with a comment. -/
def fail (comment : String) : Reply := { result := false, comment }

/-- The reply for an operation that ended with `f`, or succeeded when `none`. -/
def ofFault : Option Fault → Reply
  | none => { result := true }
  | some f =>
    match f.precondition? with
    | some cond => fail cond
    | none =>
      match f.columnNotFound? with
      | some msg => fail msg
      | none =>
        if f.isA .validationFailed || f.isA .unknownColumnType || f.isA .invalidCategory ||
            f.isA .notFound || f.isA .alreadyExists || f.isA .unsupported then
          fail f.message
        else { result := false, error := true, comment := f.message }

/-- Whether a reply reports an error of the system. -/
def isBackendError (r : Reply) : Bool := r.error

/-- The JSON form of a reply: empty comments, notices and false error flags are
left out, and so are absent outputs and nested replies. -/
def toJson : Reply → Json
  | ⟨result, comment, error, out, netdb, notice⟩ =>
    let nested : List (String × Json) := match netdb with
      | some r => [("netdb", toJson r)]
      | none => []
    .obj ([("result", .bool result)] ++
      (if comment = "" then [] else [("comment", .str comment)]) ++
      (if error then [("error", .bool true)] else []) ++
      (match out with | some o => [("out", o.toJson)] | none => []) ++
      nested ++
      (if notice = "" then [] else [("notice", .str notice)]))

end Reply

end NetFleet
