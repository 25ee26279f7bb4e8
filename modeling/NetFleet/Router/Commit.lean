import NetFleet.Router.Templates
import NetFleet.Json.Value
import NetFleet.Text.Cut

/-!
# Running commands on the router

The router is reached through a shell that runs one command text and answers
with its combined output and, when it failed, an error message.

* An operational command runs through the op-mode wrapper. A filter after `|`
  is kept, except that `match PATTERN` becomes `grep -E` with the pattern
  (taken out of one pair of matching quotes) quoted for the shell.
* A configuration change runs as one script in the configuration shell: it
  opens a session, applies each line (a failed `delete` is ignored), prints the
  difference to the running configuration between two markers, and then
  discards the session (in a test, or when nothing changed) or commits it
  with the comment.
* The result of a change reads the difference between the markers: none (or
  `No changes…`) means the router was already configured.
-/

namespace NetFleet.Router

open NetFleet (Fault Json)

/-- The configuration wrapper. -/
def cfgWrapper : String := "/opt/vyatta/sbin/vyatta-cfg-cmd-wrapper"

/-- The operational wrapper. -/
def opWrapper : String := "/opt/vyatta/bin/vyatta-op-cmd-wrapper"

/-- The marker before the difference. -/
def diffStart : String := "@@netdbctl-diff-start"

/-- The marker after the difference. -/
def diffEnd : String := "@@netdbctl-diff-end"

/-- A shell on the router: runs a command text, giving its output and an error
message when it failed. -/
structure Shell (m : Type → Type) where
  run : String → m (String × Option String)

/-- Text in single quotes for the shell, each quote written `'\''`. -/
def shellQuote (s : String) : String := "'" ++ Text.replaceAll s "'" "'\\''" ++ "'"

/-- Text without one pair of matching single or double quotes around it. -/
def unquoteShell (s : String) : String :=
  match s.toList with
  | q :: rest@(_ :: _) =>
    if (q = '"' || q = '\'') && rest.getLast? = some q then String.ofList rest.dropLast else s
  | _ => s

/-- The command text of an operational command. -/
def opCommand (cmd : String) : String :=
  match Text.cut cmd "|" with
  | none => opWrapper ++ " " ++ Text.trim cmd
  | some (base, filter) =>
    let line := opWrapper ++ " " ++ Text.trim base
    let filter := Text.trim filter
    if filter.startsWith "match " then
      line ++ " | grep -E " ++ shellQuote (unquoteShell (Text.trim (filter.drop 6).toString))
    else line ++ " | " ++ filter

/-- The opening of a session's script: the wrapper in `W`, the session ended
on every exit, the first failure fatal, and the session begun. -/
def scriptHead : String :=
  "W=" ++ cfgWrapper ++ "\n" ++ "trap '$W end' EXIT\n" ++ "set -e\n" ++ "$W begin\n"

/-- A rendered line run in the session; a failed `delete` is ignored. -/
def scriptLine (l : String) : String :=
  if l.startsWith "delete " then "$W " ++ l ++ " || true\n" else "$W " ++ l ++ "\n"

/-- The difference to the running configuration, kept in `diff` and printed
between the markers. -/
def scriptCompare : String :=
  "diff=$($W compare)\n" ++ "echo " ++ diffStart ++ "\n" ++ "printf '%s\\n' \"$diff\"\n" ++ "echo " ++
    diffEnd ++ "\n"

/-- The end of a session's script: a test discards the session; otherwise a
`case` on the difference discards it when there is none (or `No changes…`)
and else commits it, with the comment when there is one. -/
def scriptFinish (test : Bool) (comment : String) : String :=
  if test then "$W discard\n"
  else
    "case \"$diff\" in\n" ++ "\"\"|\"No changes\"*) $W discard ;;\n" ++
      (if comment ≠ "" then "*) $W commit comment " ++ shellQuote comment ++ " ;;\n"
      else "*) $W commit ;;\n") ++ "esac\n"

/-- The script of one configuration session applying `lines`. -/
def sessionScript (lines : List String) (test : Bool) (comment : String) : String :=
  scriptHead ++ String.join (lines.map scriptLine) ++ scriptCompare ++ scriptFinish test comment

/-- The command that runs a session's script in the configuration shell. -/
def commitScript (lines : List String) (test : Bool) (comment : String) : String :=
  "/bin/vbash -c " ++ shellQuote (sessionScript lines test comment)

/-- What a configuration change did. -/
structure CommitResult where
  result : Bool := true
  comment : String
  alreadyConfigured : Bool := false
  diff : String
  /-- the lines loaded, when asked for -/
  loadedConfig : String := ""

/-- A commit result as JSON; the lines loaded only when there are some. -/
def CommitResult.toJson (c : CommitResult) : Json :=
  Json.obj ([("result", Json.bool c.result), ("comment", Json.str c.comment),
    ("already_configured", Json.bool c.alreadyConfigured), ("diff", Json.str c.diff)] ++
    (if c.loadedConfig = "" then [] else [("loaded_config", Json.str c.loadedConfig)]))

/-- The result of a configuration session, read from its output. -/
def parseCommit (output : String) (test : Bool) : CommitResult :=
  let diff := match Text.cut output (diffStart ++ "\n") with
    | some (_, rest) => match Text.cut rest diffEnd with
      | some (d, _) => d
      | none => rest
    | none => ""
  let diff := Text.trim diff
  let diff := if diff.startsWith "No changes" then "" else diff
  if diff = "" then { comment := "Already configured.", alreadyConfigured := true, diff := "" }
  else if test then { comment := "Configuration discarded.", diff := diff }
  else { comment := "Configuration changed!", diff := diff }

/-- Set the output of a command, replacing an earlier one. -/
def putOutput (cmd out : String) : List (String × String) → List (String × String)
  | [] => [(cmd, out)]
  | (k, v) :: rest => if k = cmd then (cmd, out) :: rest else (k, v) :: putOutput cmd out rest

variable {m : Type → Type} [Monad m]

/-- Run operational commands in order, keeping each output without its
trailing line breaks; the first failure stops the run and is given with the
outputs so far. -/
def runCommands (sh : Shell m) : List String → List (String × String) →
    m (List (String × String) × Option Fault)
  | [], acc => pure (acc, none)
  | cmd :: rest, acc => do
    let (out, err) ← sh.run (opCommand cmd)
    match err with
    | some e => pure (acc, some (.plain ("command " ++ Text.quote cmd ++ ": " ++ e)))
    | none => runCommands sh rest (putOutput cmd (Text.dropRightWhile out (· = '\n')) acc)

/-- Render a request's template and apply its lines in one configuration
session; the lines loaded are reported when the request asks. -/
def loadTemplate (sh : Shell m) (req : TemplateRequest) : m (Except Fault CommitResult) := do
  match render req with
  | .error f => pure (.error f)
  | .ok lines =>
    if lines.isEmpty then pure (.error (.validation ["template rendered no configuration lines"]))
    else
      let (out, err) ← sh.run (commitScript lines req.test req.commitComment)
      match err with
      | some e =>
        pure (.error (.plain ("load template " ++ req.label ++ ": " ++ e ++ ": " ++ Text.trim out)))
      | none =>
        let res := parseCommit out req.test
        pure (.ok (if req.debug then { res with loadedConfig := "\n".intercalate lines } else res))

end NetFleet.Router
