import NetFleet.Fault
import NetFleet.Json.Value

/-!
# Reports of faults

A fault is reported as a JSON object with its kind (`Fault.kind`), its message,
and, for a validation fault, the list of its messages.
-/

namespace NetFleet

/-- The JSON report of a fault. -/
def Fault.report (f : Fault) : Json :=
  Json.obj ([("error", Json.str f.kind), ("message", Json.str f.message)] ++
    match f.validation? with
    | some ms => [("messages", Json.strs ms)]
    | none => [])

end NetFleet
