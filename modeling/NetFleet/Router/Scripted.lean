import NetFleet.Router.Commit

/-!
# A scripted shell

A stand-in for the router's shell that answers from a script: a list of
responses, each for the commands that contain its pattern, and a default. A
command is answered by the first response, in order, whose pattern it contains
and that is not used up (a response given `once` is used up by its first
match; an empty pattern matches every command), else by the default, else with
empty output. Every command run is logged.
-/

namespace NetFleet.Router

/-- One scripted response. -/
structure Response where
  /-- the text a command must contain -/
  pattern : String := ""
  output : String := ""
  /-- the error message; empty for success -/
  error : String := ""
  /-- whether the response is used up by its first match -/
  once : Bool := false
  used : Bool := false

/-- A scripted shell and the commands it ran. -/
structure ScriptedShell where
  responses : List Response := []
  /-- the output and error message of the default answer -/
  fallback : Option (String × String) := none
  log : List String := []

/-- An output, with an error when the message is not empty. -/
def answerOf (output error : String) : String × Option String :=
  (output, if error = "" then none else some error)

/-- The responses after one that matches `cmd` is used, and the answer. -/
def pickResponse (cmd : String) : List Response → Option ((String × Option String) × List Response)
  | [] => none
  | r :: rest =>
    if !r.used && Text.containsText cmd r.pattern then
      some (answerOf r.output r.error, (if r.once then { r with used := true } else r) :: rest)
    else (pickResponse cmd rest).map fun (a, rs) => (a, r :: rs)

/-- Run a command: log it and answer it from the script. -/
def ScriptedShell.run (sh : ScriptedShell) (cmd : String) : (String × Option String) × ScriptedShell :=
  let sh := { sh with log := sh.log ++ [cmd] }
  match pickResponse cmd sh.responses with
  | some (a, rs) => (a, { sh with responses := rs })
  | none =>
    match sh.fallback with
    | some (o, e) => (answerOf o e, sh)
    | none => (("", none), sh)

/-- The scripted shell as a shell over its own state. -/
def ScriptedShell.shell : Shell (StateM ScriptedShell) :=
  ⟨fun cmd => modifyGet fun sh => sh.run cmd⟩

end NetFleet.Router
