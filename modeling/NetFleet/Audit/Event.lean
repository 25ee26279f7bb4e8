import NetFleet.Audit.Time
import NetFleet.Json.Value
import NetFleet.Decimal.Read
import NetFleet.Reply
import NetFleet.Text.Case

/-!
# Audit events and filters

An audit event records one operation: who ran it on which router, on what
target, with which options, whether it succeeded, and how long it took.

A `Filter` selects events: each of router, user, operation and target, when
given, must match exactly; a start time excludes events before it and an end
time events after it; `successOnly` and `failureOnly` select by outcome (both
together select nothing). `Filter.page` then drops the first `offset` events and
keeps at most `limit`; a non-positive offset or limit means none and all.
-/

namespace NetFleet.Audit

/-- One audited operation. -/
structure Event where
  id : String := ""
  timestamp : Stamp := Stamp.zero
  user : String := ""
  router : String := ""
  operation : String := ""
  target : String := ""
  test : Bool := false
  force : Bool := false
  permanent : Bool := false
  success : Bool := false
  comment : String := ""
  error : String := ""
  /-- Nanoseconds. -/
  duration : Int := 0
deriving Inhabited

/-- A selection of events, with paging. -/
structure Filter where
  router : String := ""
  user : String := ""
  operation : String := ""
  target : String := ""
  startTime : Stamp := Stamp.zero
  endTime : Stamp := Stamp.zero
  successOnly : Bool := false
  failureOnly : Bool := false
  limit : Int := 0
  offset : Int := 0
deriving Inhabited

namespace Event

/-- An event with the outcome of a reply: its success, its comment, and the
comment again as the error when the reply reports an error. -/
def withReply (e : Event) (r : Reply) : Event :=
  { e with success := r.result, comment := r.comment, error := if r.error then r.comment else "" }

/-- An event that failed with a message. -/
def withError (e : Event) (msg : String) : Event := { e with success := false, error := msg }

/-- The JSON form of an event, members with empty optional values left out. -/
def toJson (e : Event) : Json :=
  Json.obj ([("id", Json.str e.id), ("timestamp", Json.str e.timestamp.render), ("user", Json.str e.user),
    ("router", Json.str e.router), ("operation", Json.str e.operation)] ++
    (if e.target = "" then [] else [("target", Json.str e.target)]) ++
    [("test", Json.bool e.test)] ++
    (if e.force then [("force", Json.bool true)] else []) ++
    (if e.permanent then [("permanent", Json.bool true)] else []) ++
    [("success", Json.bool e.success)] ++
    (if e.comment = "" then [] else [("comment", Json.str e.comment)]) ++
    (if e.error = "" then [] else [("error", Json.str e.error)]) ++
    [("duration", Json.num (toString e.duration))])

/-- The JSON form of an event for storing, refused when its time has no valid
RFC 3339 form. -/
def encode (e : Event) : Except String Json := do
  let _ ← e.timestamp.encode
  return e.toJson

/-- The JSON form of an event without its id, time and duration, which vary from
run to run. -/
def toStableJson (e : Event) : Json :=
  match e.toJson with
  | .obj ms => .obj (ms.filter fun kv => kv.1 ≠ "id" ∧ kv.1 ≠ "timestamp" ∧ kv.1 ≠ "duration")
  | j => j

/-- A text member: `null` keeps the old value. -/
def textOf (v : Json) (old : String) : Option String :=
  match v with
  | .str s => some s
  | .null => some old
  | _ => none

/-- A flag member: `null` keeps the old value. -/
def flagOf (v : Json) (old : Bool) : Option Bool :=
  match v with
  | .bool b => some b
  | .null => some old
  | _ => none

/-- A whole-number member that fits a signed 64-bit integer: `null` keeps the
old value. -/
def intOf (v : Json) (old : Int) : Option Int :=
  match v with
  | .num lit =>
    ((Decimal.Literal.parse? lit).bind Decimal.Literal.toInt?).filter
      fun i => decide (-(Int.pow 2 63) ≤ i ∧ i < Int.pow 2 63)
  | .null => some old
  | _ => none

/-- A time member: `null` keeps the old value. -/
def stampOf (v : Json) (old : Stamp) : Except String Stamp :=
  match v with
  | .str s => Stamp.parse s
  | .null => .ok old
  | _ => .error "time value is not a string"

/-- A member of the wrong kind. -/
def wrongKind (name : String) : String := "member " ++ name ++ " has the wrong kind"

/-- Read an event from its JSON form; member names match without regard to
letter case. A value of the wrong kind or a time that cannot be read makes the
event unreadable. -/
def read (j : Json) : Except String Event :=
  let field := fun {α : Type} (name : String) (r : Option α) (set : α → Event) =>
    match r with
    | some v => Except.ok (set v)
    | none => Except.error (wrongKind name)
  match j with
  | .obj ms =>
    ms.foldlM (fun (e : Event) (kv : String × Json) =>
      match Text.foldName kv.1 with
      | "id" => field "id" (textOf kv.2 e.id) fun v => { e with id := v }
      | "timestamp" => (stampOf kv.2 e.timestamp).map fun v => { e with timestamp := v }
      | "user" => field "user" (textOf kv.2 e.user) fun v => { e with user := v }
      | "router" => field "router" (textOf kv.2 e.router) fun v => { e with router := v }
      | "operation" => field "operation" (textOf kv.2 e.operation) fun v => { e with operation := v }
      | "target" => field "target" (textOf kv.2 e.target) fun v => { e with target := v }
      | "test" => field "test" (flagOf kv.2 e.test) fun v => { e with test := v }
      | "force" => field "force" (flagOf kv.2 e.force) fun v => { e with force := v }
      | "permanent" => field "permanent" (flagOf kv.2 e.permanent) fun v => { e with permanent := v }
      | "success" => field "success" (flagOf kv.2 e.success) fun v => { e with success := v }
      | "comment" => field "comment" (textOf kv.2 e.comment) fun v => { e with comment := v }
      | "error" => field "error" (textOf kv.2 e.error) fun v => { e with error := v }
      | "duration" => field "duration" (intOf kv.2 e.duration) fun v => { e with duration := v }
      | _ => .ok e) {}
  | .null => .ok {}
  | _ => .error "an event is an object"

/-- Read an event from its JSON form, if it can be read. -/
def ofJson? (j : Json) : Option Event := (read j).toOption

end Event

namespace Filter

/-- Whether an event is selected. -/
def selects (f : Filter) (e : Event) : Bool :=
  (f.router = "" || e.router = f.router) &&
  (f.user = "" || e.user = f.user) &&
  (f.operation = "" || e.operation = f.operation) &&
  (f.target = "" || e.target = f.target) &&
  (f.startTime.isZero || !e.timestamp.before f.startTime) &&
  (f.endTime.isZero || !f.endTime.before e.timestamp) &&
  (!f.successOnly || e.success) &&
  (!f.failureOnly || !e.success)

/-- The page of selected events: `offset` dropped, at most `limit` kept. -/
def page {α : Type} (f : Filter) (xs : List α) : List α :=
  let xs := if f.offset > 0 then xs.drop f.offset.toNat else xs
  if f.limit > 0 then xs.take f.limit.toNat else xs

/-- Read a filter from JSON; absent members keep their defaults, and a time
that cannot be read makes the filter unreadable. -/
def read (j : Json) : Except String Filter := do
  let text := fun (k : String) => ((j.field k).str?).getD ""
  let flag := fun (k : String) => ((j.field k).bool?).getD false
  let num := fun (k : String) => match j.field k with
    | .num lit => ((Decimal.Literal.parse? lit).bind Decimal.Literal.toInt?).getD 0
    | _ => 0
  let stamp := fun (k : String) => match j.field k with
    | .str s => Stamp.parse s
    | _ => .ok Stamp.zero
  return { router := text "router", user := text "user", operation := text "operation",
           target := text "target", startTime := ← stamp "start_time", endTime := ← stamp "end_time",
           successOnly := flag "success_only", failureOnly := flag "failure_only",
           limit := num "limit", offset := num "offset" }

end Filter

end NetFleet.Audit
