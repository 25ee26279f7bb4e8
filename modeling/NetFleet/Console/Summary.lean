import NetFleet.Json.Print
import NetFleet.Reply
import NetFleet.Yaml.Emit

/-!
# Replies on a terminal

A reply is shown either as indented JSON (two spaces a level, `<`, `>` and `&`
escaped, a line break at the end) or as a summary for people:

* its status, `OK` in green, `ERROR` in red for a backend failure, `FAILED` in
  yellow for any other refusal;
* its comment, without trailing line breaks;
* its output: text as it is, the outputs of commands each under its command in
  bold, anything else as a YAML document;
* the status and comment of a nested database reply, after a bold `netdb:`;
* its notice, dimmed.

A program names its build in one line (`Build.info`).
-/

namespace NetFleet.Console

/-- The build a program reports: its version, commit and date, as set when it is
built. -/
structure Build where
  version : String := "dev"
  commit : String := "unknown"
  date : String := "unknown"

/-- The line that names a build. -/
def Build.info (b : Build) : String :=
  "netdbctl " ++ b.version ++ " (" ++ b.commit ++ ") built " ++ b.date

open NetFleet (Json Reply Output)

/-- Text in a color or weight, reset after it. -/
def paint (code s : String) : String := "\x1b[" ++ code ++ "m" ++ s ++ "\x1b[0m"

/-- Green text. -/
def green (s : String) : String := paint "32" s

/-- Yellow text. -/
def yellow (s : String) : String := paint "33" s

/-- Red text. -/
def red (s : String) : String := paint "31" s

/-- Bold text. -/
def bold (s : String) : String := paint "1" s

/-- Dimmed text. -/
def dim (s : String) : String := paint "2" s

/-- Text without the line feeds at its end. -/
def trimLineFeeds (s : String) : String :=
  String.ofList ((s.toList.reverse.dropWhile (· = '\n')).reverse)

/-- The status label of a reply. -/
def status (r : Reply) : String :=
  if r.result then green "OK" else if r.error then red "ERROR" else yellow "FAILED"

/-- The lines that show an output. -/
def outputText : Output → String
  | .data (.str s) => trimLineFeeds s ++ "\n"
  | .commands cs =>
    let sorted := cs.mergeSort fun a b => decide (a.1 ≤ b.1)
    String.join (sorted.map fun (c, o) => bold c ++ "\n" ++ trimLineFeeds o ++ "\n")
  | .data j => Yaml.document j

/-- The summary of a reply for people. -/
def summary (r : Reply) : String :=
  status r ++ "\n" ++
  (if r.comment = "" then "" else trimLineFeeds r.comment ++ "\n") ++
  (match r.out with
    | some o => outputText o
    | none => "") ++
  (match r.netdb with
    | some n => bold "netdb:" ++ " " ++ status n ++
        (if n.comment = "" then "" else " " ++ n.comment) ++ "\n"
    | none => "") ++
  (if r.notice = "" then "" else dim (trimLineFeeds r.notice) ++ "\n")

/-- A reply as indented JSON. -/
def asJson (r : Reply) : String :=
  Json.renderIndented .html "  " 0 r.toJson ++ "\n"

/-- A reply shown as JSON or as a summary. -/
def display (r : Reply) (json : Bool) : String :=
  if json then asJson r else summary r

end NetFleet.Console
