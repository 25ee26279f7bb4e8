import NetFleet.Control.Station
import NetFleet.Json.Parse
import NetFleet.Json.Dynamic
import NetFleet.Text.Case
import NetFleet.Text.Cut

/-!
# Probing the router

Questions put to the router's operational commands:

* the state of the BGP session with a neighbor, read from the line
  `BGP state = X, …` (`X` in capitals; `ESTABLISHED` means established). The
  neighbor must be an address; IPv6 neighbors are asked with the `ipv6`
  command, all others with the `ip` one. No state line means no session.
* the running configuration as JSON, read without a shape.
-/

namespace NetFleet.Control

open NetFleet (Json Fault Reply Output)

/-- The state in a line `BGP state = X, …`, in capitals; none when the line is
blank or has no state. -/
def sessionState (line : String) : Option String :=
  let line := Text.trim line
  if line = "" then none
  else
    let first := match Text.cut line "," with
      | some (a, _) => a
      | none => line
    (Text.cut first " = ").map fun (_, state) => Text.upper (Text.trim state)

/-- The command that asks for the BGP state of a neighbor. -/
def sessionCommand (neighbor : String) (a : Net.Addr) : String :=
  let family := if a.is6 && !a.is4In6 then "ipv6" else "ip"
  "show " ++ family ++ " bgp neighbor " ++ neighbor ++ " | match \"BGP state\""

/-- The command that shows the running configuration as JSON. -/
def configCommand : String := "show configuration json"

/-- The output of one command among the outputs of a reply. -/
def outputOf (r : Reply) (cmd : String) : String :=
  match r.out with
  | some (.commands cs) => (cs.lookup cmd).getD ""
  | _ => ""

variable {m : Type → Type} [Monad m]

namespace Station

/-- The state of the BGP session with a neighbor. -/
def checkSession (s : Station m) (neighbor : String) : Op m Reply := do
  match Net.Addr.parse neighbor with
  | .error _ => return Reply.fail "Invalid IP address input"
  | .ok a =>
    let cmd := sessionCommand neighbor a
    let r ← s.cli [cmd]
    if !r.result then return r
    let outs := match r.out with
      | some (.commands cs) => cs
      | _ => []
    match sessionState (outputOf r cmd) with
    | none => return { result := false, comment := "BGP sessions not found", out := some (.commands outs) }
    | some state =>
      let sessionOut : Json := (Output.commands outs).toJson
      return Reply.ok "BGP session check results" (some (.data (.obj
        [("session_out", sessionOut), ("state", .str state), ("established", .bool (state = "ESTABLISHED"))])))

/-- The router's running configuration. -/
def runningConfig (s : Station m) : Op m Reply := do
  let r ← s.cli [configCommand]
  if !r.result then return r
  let decoded : Except String Json := match Json.parse (outputOf r configCommand) with
    | .error e => .error e.message
    | .ok j => Json.dynamic? j
  match decoded with
  | .error msg => return { result := false, error := true, comment := "Could not decode device config: " ++ msg }
  | .ok j => return Reply.ok "Device config" (some (.data j))

end Station

end NetFleet.Control
