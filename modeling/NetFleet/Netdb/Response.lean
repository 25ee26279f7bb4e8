import NetFleet.Json.Parse
import NetFleet.Json.Dynamic
import NetFleet.Schema.Decode
import NetFleet.Reply

/-!
# Answers of the database services

Both services answer with an envelope `{result, comment, error, out}`. The body
must be a JSON object with at least one member; the members are matched to the
four fields without regard to letter case, a later member overriding an earlier
one, and `null` leaving a field as it was. `out` is kept as the JSON it was, so
that callers can read it against a column's shape; `"out": null` is kept too.

`Response.read` reads a body, `Response.toJson` writes a response back, and
`Response.envelope` turns it into a reply whose output is dynamic JSON.
-/

namespace NetFleet.Netdb

open NetFleet (Json Reply Output)

/-- A decoded answer. -/
structure Response where
  result : Bool := false
  comment : String := ""
  error : Bool := false
  /-- the output as sent, `none` when there was none -/
  out : Option Json := none
deriving Inhabited

/-- Decode one member into a response; the first mismatch is the error. -/
def Response.member (r : Response) (kv : String × Json) : Except Schema.DecodeError Response :=
  let (k, v) := kv
  let key := Text.foldName k
  if key = "result" then
    match v with
    | .bool b => .ok { r with result := b }
    | .null => .ok r
    | _ => .error (.mismatch (Schema.foundName v) "bool" ["result"])
  else if key = "comment" then
    match v with
    | .str s => .ok { r with comment := s }
    | .null => .ok r
    | _ => .error (.mismatch (Schema.foundName v) "string" ["comment"])
  else if key = "error" then
    match v with
    | .bool b => .ok { r with error := b }
    | .null => .ok r
    | _ => .error (.mismatch (Schema.foundName v) "bool" ["error"])
  else if key = "out" then .ok { r with out := some v }
  else .ok r

/-- Read a body answered with `status`; the error is the reason it is no
envelope. -/
def Response.read (status : Nat) (body : String) : Except String Response :=
  match Json.parse body with
  | .error e => .error ("decoding response: " ++ e.message)
  | .ok .null => .error ("unexpected empty JSON response. Status code " ++ toString status)
  | .ok (.obj []) => .error ("unexpected empty JSON response. Status code " ++ toString status)
  | .ok (.obj ms) =>
    match ms.foldlM Response.member {} with
    | .ok r => .ok r
    | .error e => .error ("decoding response: " ++ e.message "Response")
  | .ok j =>
    .error ("decoding response: " ++
      (Schema.DecodeError.mismatch (Schema.foundName j) "map[string]jsontext.Value" []).message "")

/-- A response as JSON; comment, error and out appear when set. -/
def Response.toJson (r : Response) : Json :=
  Json.obj ([("result", Json.bool r.result)] ++
    (if r.comment = "" then [] else [("comment", Json.str r.comment)]) ++
    (if r.error then [("error", Json.bool true)] else []) ++
    (match r.out with
      | some o => [("out", o)]
      | none => []))

/-- A response as a reply: its output, read as dynamic JSON, when it is there,
not `null` and readable. -/
def Response.envelope (r : Response) : Reply :=
  let out : Option Output := match r.out with
    | none | some .null => none
    | some o => match Json.dynamic? o with
      | .ok d => some (.data d)
      | .error _ => none
  { result := r.result, comment := r.comment, error := r.error, out := out }

end NetFleet.Netdb
