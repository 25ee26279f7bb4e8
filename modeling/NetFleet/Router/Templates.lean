import NetFleet.Template.Exec
import NetFleet.Fault
import NetFleet.Text.Case

/-!
# Configuration templates of the router

A configuration change is written as a template whose output is one
configuration line per line: `set …` and `delete …`. The library ships two
templates, `bgp/disable` (reject every route of a peer, per address family) and
`bgp/enable` (restore a peer's route maps, or none); a request may also carry
a template of its own.

`render` runs a request's template on its variables, with a missing map entry
an error, and keeps the lines that are not blank, trimmed. A request names a
shipped template or carries a source (which wins when both are given); a name
that is not shipped is not found, and a request with neither is refused.
Failures to parse or run are refused as invalid, with the template's label
(its name, or `inline`) in front.
-/

namespace NetFleet.Router

open NetFleet (Fault)

/-- The templates shipped with the library, by name. -/
def shippedTemplates : List (String × String) :=
  [("bgp/disable",
    "\x7b\x7b- range $fam := .families \x7d\x7d\n"
    ++ "set protocols bgp neighbor \x7b\x7b $.peer \x7d\x7d address-family \x7b\x7b $fam \x7d\x7d-unicast route-map import REJECT-ALL\n"
    ++ "set protocols bgp neighbor \x7b\x7b $.peer \x7d\x7d address-family \x7b\x7b $fam \x7d\x7d-unicast route-map export REJECT-ALL\n"
    ++ "\x7b\x7b- end \x7d\x7d\n"),
   ("bgp/enable",
    "\x7b\x7b- range $fam := .families \x7d\x7d\n"
    ++ "delete protocols bgp neighbor \x7b\x7b $.peer \x7d\x7d address-family \x7b\x7b $fam \x7d\x7d-unicast route-map\n"
    ++ "\x7b\x7b- with index $.route_maps $fam \x7d\x7d\n"
    ++ "\x7b\x7b- if .Import \x7d\x7d\n"
    ++ "set protocols bgp neighbor \x7b\x7b $.peer \x7d\x7d address-family \x7b\x7b $fam \x7d\x7d-unicast route-map import \x7b\x7b .Import \x7d\x7d\n"
    ++ "\x7b\x7b- end \x7d\x7d\n"
    ++ "\x7b\x7b- if .Export \x7d\x7d\n"
    ++ "set protocols bgp neighbor \x7b\x7b $.peer \x7d\x7d address-family \x7b\x7b $fam \x7d\x7d-unicast route-map export \x7b\x7b .Export \x7d\x7d\n"
    ++ "\x7b\x7b- end \x7d\x7d\n"
    ++ "\x7b\x7b- end \x7d\x7d\n"
    ++ "\x7b\x7b- end \x7d\x7d\n")]

/-- The names of the shipped templates, sorted. -/
def templateNames : List String := shippedTemplates.map Prod.fst

/-- A request to render a template. -/
structure TemplateRequest where
  /-- the name of a shipped template -/
  name : String := ""
  /-- a template of the request's own -/
  source : String := ""
  /-- the data the template runs on -/
  vars : Template.Data := .map []
  /-- whether the change is only tried and then discarded -/
  test : Bool := false
  /-- whether the lines loaded are reported -/
  debug : Bool := false
  /-- the comment of the commit -/
  commitComment : String := ""

/-- How messages name the template of a request. -/
def TemplateRequest.label (r : TemplateRequest) : String :=
  if r.name ≠ "" then r.name else "inline"

/-- The configuration lines a request's template writes: each output line
trimmed, blank ones dropped. -/
def render (r : TemplateRequest) : Except Fault (List String) := do
  let src ← if r.name ≠ "" && r.source = "" then
      match shippedTemplates.lookup r.name with
      | some s => pure s
      | none => throw (.wrap ("template " ++ Text.quote r.name ++ ": ") "" (.sentinel .notFound))
    else pure r.source
  if src = "" then throw (.validation ["template: name or source required"])
  let label := r.label
  let refuse (e : String) : Fault := .validation ["template " ++ label ++ ": " ++ e]
  let trees ← (Template.parse label src).mapError refuse
  let out ← (Template.execute trees label src r.vars).mapError refuse
  return ((out.splitOn "\n").map Text.trim).filter (· ≠ "")

end NetFleet.Router
