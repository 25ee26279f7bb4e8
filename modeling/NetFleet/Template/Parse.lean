import NetFleet.Template.Lex
import NetFleet.Template.Tree
import NetFleet.Template.Literal
import NetFleet.Text.Case

/-!
# Parsing templates

The parser reads the items of `Template.scan` into trees of `Node`s: one for
the template itself and one for each `{{define "name"}}…{{end}}` and
`{{block "name" pipeline}}…{{end}}`. Inside an action it reads a pipeline:
declarations (`$x :=`, `$x =`, and `$i, $e :=` in a `range`), then commands
joined by `|`.

A failure is reported as `template: NAME:LINE: message`, where the line is the
line of the furthest item read. The checks made while parsing:

* every function named must be a built-in one, and every variable used must be
  declared in an enclosing scope (`$` always is);
* `break` and `continue` stand only inside a `range`;
* a pipeline has at least one command, and no command after the first starts
  with a constant, `.` or `nil`;
* a field may follow only what can have fields (`"a".b` is refused);
* two named templates of the same name may not both have content.

Lookahead is an index into the items, so putting items back is setting the
index back.
-/

namespace NetFleet.Template

/-- The functions that every template may call. -/
def builtinNames : List String :=
  ["and", "call", "html", "index", "slice", "js", "len", "not", "or", "print", "printf",
   "println", "urlquery", "eq", "ge", "gt", "le", "lt", "ne"]

/-- What the parser knows as it reads. -/
structure Parser where
  /-- the name messages give the template -/
  name : String
  items : Array Item
  /-- the index of the next item to read -/
  idx : Nat
  /-- the index of the furthest item read -/
  far : Nat
  /-- the variables in scope, the latest first -/
  vars : List String
  /-- the line of the action being read, or zero -/
  actionLine : Nat
  /-- how many `range` bodies enclose the place read -/
  rangeDepth : Nat
  /-- how many parenthesized pipelines enclose the place read -/
  parenDepth : Nat
  /-- the named templates read so far -/
  defs : List (String × List Node)

/-- Parsing: state, and a message on failure. -/
abbrev ParseM := StateT Parser (Except String)

/-- What reading an item of a list gives: a node, or the `{{end}}` or
`{{else}}` that closes the list. -/
inductive Parsed where
  | node (n : Node)
  | endMark
  | elseMark (pos line : Nat)

/-- How messages show a closing action. -/
def Parsed.describe : Parsed → String
  | .node _ => "node"
  | .endMark => "\x7b\x7bend\x7d\x7d"
  | .elseMark _ _ => "\x7b\x7belse\x7d\x7d"

/-- The item at an index; the end past the last one. -/
def Parser.itemAt (p : Parser) (i : Nat) : Item := p.items.getD i ⟨.eof, "", 0, 0⟩

/-- Fail with a message, at the line of the furthest item read. -/
def failWith {α : Type} (msg : String) : ParseM α := do
  let p ← get
  throw ("template: " ++ p.name ++ ":" ++ toString (p.itemAt p.far).line ++ ": " ++ msg)

/-- Read the next item. -/
def next : ParseM Item :=
  modifyGet fun p => (p.itemAt p.idx, { p with idx := p.idx + 1, far := max p.far p.idx })

/-- Put the last item read back. -/
def backup : ParseM Unit := modify fun p => { p with idx := p.idx - 1 }

/-- The next item, left in place. -/
def peek : ParseM Item := do
  let i ← next
  backup
  return i

/-- The first index at or after `i` that holds no blank item. -/
def firstNonSpace (items : Array Item) : Nat → Nat → Nat
  | 0, i => i
  | fuel + 1, i =>
    match items[i]? with
    | some it => if it.kind = .space then firstNonSpace items fuel (i + 1) else i
    | none => i

/-- Read the next item that is not blank. -/
def nextNonSpace : ParseM Item :=
  modifyGet fun p =>
    let j := firstNonSpace p.items (p.items.size + 1) p.idx
    (p.itemAt j, { p with idx := j + 1, far := max p.far j })

/-- The next item that is not blank, left in place; blanks before it are read. -/
def peekNonSpace : ParseM Item := do
  let i ← nextNonSpace
  backup
  return i

/-- Read the fields that come next, one item each. -/
def nextFields : ParseM (List String) :=
  modifyGet fun p =>
    let run := (p.items.toList.drop p.idx).takeWhile (·.kind = .field)
    let j := p.idx + run.length
    (run.map fun it => (it.val.drop 1).toString, { p with idx := j, far := max p.far j })

/-- Fail at an item that does not belong where it stands. A scanning error is
reported as it is, with the line its action started on when that is another
line (said once only when the error itself names the action). -/
def unexpected {α : Type} (tok : Item) (context : String) : ParseM α := do
  let p ← get
  if tok.kind = .error then
    let started := " started at " ++ p.name ++ ":" ++ toString p.actionLine
    let extra :=
      if p.actionLine ≠ 0 && p.actionLine ≠ tok.line then
        if tok.val.endsWith " action" then started else " in action" ++ started
      else ""
    failWith (tok.val ++ extra)
  else failWith ("unexpected " ++ tok.describe ++ " in " ++ context)

/-- Read an item of kind `k` after blanks. -/
def expect (k : Kind) (context : String) : ParseM Item := do
  let tok ← nextNonSpace
  if tok.kind ≠ k then unexpected tok context else return tok

/-- A variable used as an argument; its name must be in scope. -/
def useVar (pos : Nat) (name : String) : ParseM Arg := do
  let names := (name.splitOn ".")
  let head := names.headD name
  if (← get).vars.contains head then return .var pos names
  else failWith ("undefined variable " ++ Text.quote head)

/-- Declare a variable. -/
def pushVar (name : String) : ParseM Unit := modify fun p => { p with vars := name :: p.vars }

/-- Leave the scopes opened since there were `n` variables. -/
def popVars (n : Nat) : ParseM Unit :=
  modify fun p => { p with vars := p.vars.drop (p.vars.length - n) }

/-- The name of a named template, from its quoted literal. -/
def templateName (tok : Item) (context : String) : ParseM String :=
  if tok.kind = .string || tok.kind = .rawString then
    match unquote tok.val with
    | .ok s => pure s
    | .error e => failWith e
  else unexpected tok context

/-- Whether a template has no content: only blank text. -/
def isEmptyTree (nodes : List Node) : Bool :=
  nodes.all fun
    | .text _ s => (Text.trim s).isEmpty
    | _ => false

/-- Record a named template. One with content replaces one without; two with
content clash. -/
def addTree (name : String) (nodes : List Node) : ParseM Unit := do
  let p ← get
  match p.defs.lookup name with
  | none => set { p with defs := p.defs ++ [(name, nodes)] }
  | some old =>
    if isEmptyTree old then
      set { p with defs := p.defs.map fun (n, t) => if n = name then (n, nodes) else (n, t) }
    else if !isEmptyTree nodes then
      failWith ("template: multiple definition of template " ++ Text.quote name)
    else pure ()

/-- Whether an item may start a command. -/
def startsOperand (k : Kind) : Bool :=
  [Kind.bool, .charConstant, .complex, .dot, .field, .identifier, .number, .nil, .rawString,
   .string, .variable, .leftParen].contains k

/-- Whether an argument is a constant, `.` or `nil`, which cannot take the value
of a previous command. -/
def Arg.isInert : Arg → Bool
  | .bool _ _ | .dot _ | .nil _ | .number _ _ | .string _ _ _ => true
  | _ => false

/-- Check a pipeline: it has a command, and none after the first is inert. -/
def checkPipeline (cmds : List Cmd) (context : String) : ParseM Unit := do
  if cmds.isEmpty then failWith ("missing value for " ++ context)
  else
    match ((cmds.drop 1).zipIdx).find? (fun (c, _) => (c.args.head?.map Arg.isInert).getD false) with
    | some (_, i) => failWith ("non executable command in pipeline stage " ++ toString (i + 2))
    | none => pure ()

/-- The message when the parser runs out of steps, which the bound on steps
keeps from happening. -/
def tooDeep {α : Type} : ParseM α := failWith "template nested too deeply"

/-- How deeply parenthesized pipelines may nest. -/
def maxParenDepth : Nat := 10000

mutual

/-- A term: a function, `.`, `nil`, a variable, a field, a constant or a
pipeline in parentheses; `none`, with nothing read, for anything else. -/
def term : Nat → ParseM (Option Arg)
  | 0 => tooDeep
  | fuel + 1 => do
    let tok ← nextNonSpace
    match tok.kind with
    | .identifier =>
      if builtinNames.contains tok.val then return some (.func tok.pos tok.val)
      else failWith ("function " ++ Text.quote tok.val ++ " not defined")
    | .dot => return some (.dot tok.pos)
    | .nil => return some (.nil tok.pos)
    | .variable => return some (← useVar tok.pos tok.val)
    | .field => return some (.field tok.pos [(tok.val.drop 1).toString])
    | .bool => return some (.bool tok.pos (tok.val == "true"))
    | .charConstant | .complex | .number =>
      match readNumber tok.val (tok.kind = .charConstant) (tok.kind = .complex) with
      | .ok n => return some (.number tok.pos n)
      | .error e => failWith e
    | .leftParen =>
      if (← get).parenDepth ≥ maxParenDepth then failWith "max expression depth exceeded"
      modify fun p => { p with parenDepth := p.parenDepth + 1 }
      let inner ← pipeline fuel "parenthesized pipeline" .rightParen
      modify fun p => { p with parenDepth := p.parenDepth - 1 }
      return some (.pipe inner)
    | .string | .rawString =>
      match unquote tok.val with
      | .ok s => return some (.string tok.pos tok.val s)
      | .error e => failWith e
    | _ =>
      backup
      return none

/-- An operand: a term, and the fields that follow it. -/
def operand : Nat → ParseM (Option Arg)
  | 0 => tooDeep
  | fuel + 1 => do
    match ← term fuel with
    | none => return none
    | some node =>
      let tok ← peek
      if tok.kind ≠ .field then return some node
      else
        let fields ← nextFields
        match node with
        | .field _ names => return some (.field tok.pos (names ++ fields))
        | .var _ names => return some (.var tok.pos (names ++ fields))
        | .bool _ _ | .string _ _ _ | .number _ _ | .nil _ | .dot _ =>
          failWith ("unexpected . after term " ++ Text.quote node.text)
        | _ => return some (.chain tok.pos node fields)

/-- The arguments of a command, up to a blank-free `|`, `}}` or `)`. -/
def commandArgs : Nat → List Arg → ParseM (List Arg)
  | 0, _ => tooDeep
  | fuel + 1, acc => do
    let _ ← peekNonSpace
    let acc := match ← operand fuel with
      | some a => a :: acc
      | none => acc
    let tok ← next
    match tok.kind with
    | .space => commandArgs fuel acc
    | .rightDelim | .rightParen =>
      backup
      return acc.reverse
    | .pipe => return acc.reverse
    | _ => unexpected tok "operand"

/-- A command. -/
def command : Nat → ParseM Cmd
  | 0 => tooDeep
  | fuel + 1 => do
    let start ← peekNonSpace
    let args ← commandArgs fuel []
    if args.isEmpty then failWith "empty command" else return .mk start.pos args

/-- The declarations that open a pipeline: whether they assign, and the
variables with their places. -/
def declarations : Nat → String → List (Nat × String) → ParseM (Bool × List (Nat × String))
  | 0, _, _ => tooDeep
  | fuel + 1, context, decl => do
    let v ← peekNonSpace
    if v.kind ≠ .variable then return (false, decl)
    else
      let at_ := (← get).idx
      let _ ← next
      let _ ← peek
      let following ← peekNonSpace
      if following.kind = .assign || following.kind = .declare then
        let _ ← nextNonSpace
        pushVar v.val
        return (following.kind = .assign, decl ++ [(v.pos, v.val)])
      else if following.kind = .char && following.val = "," then
        let _ ← nextNonSpace
        pushVar v.val
        let decl := decl ++ [(v.pos, v.val)]
        if context = "range" && decl.length < 2 then
          let k ← peekNonSpace
          if k.kind = .variable || k.kind = .rightDelim || k.kind = .rightParen then
            declarations fuel context decl
          else failWith "range can only initialize variables"
        else failWith ("too many declarations in " ++ context)
      else
        modify fun p => { p with idx := at_ }
        return (false, decl)

/-- The commands of a pipeline, up to the item that ends it. -/
def pipeCommands : Nat → String → Kind → List Cmd → ParseM (List Cmd)
  | 0, _, _, _ => tooDeep
  | fuel + 1, context, stop, acc => do
    let tok ← nextNonSpace
    if tok.kind = stop then return acc.reverse
    else if startsOperand tok.kind then
      backup
      let c ← command fuel
      pipeCommands fuel context stop (c :: acc)
    else unexpected tok context

/-- A pipeline, up to the item of kind `stop`. -/
def pipeline : Nat → String → Kind → ParseM Pipe
  | 0, _, _ => tooDeep
  | fuel + 1, context, stop => do
    let tok ← peekNonSpace
    let (isAssign, decl) ← declarations fuel context []
    let cmds ← pipeCommands fuel context stop []
    checkPipeline cmds context
    return .mk tok.pos tok.line isAssign decl cmds

/-- The nodes of a list, up to the `{{end}}` or `{{else}}` that closes it. -/
def itemList : Nat → List Node → ParseM (List Node × Parsed)
  | 0, _ => tooDeep
  | fuel + 1, acc => do
    let tok ← peekNonSpace
    if tok.kind = .eof then failWith "unexpected EOF"
    else
      match ← textOrAction fuel with
      | .node n => itemList fuel (n :: acc)
      | closing => return (acc.reverse, closing)

/-- A text, or an action after its opening delimiter. -/
def textOrAction : Nat → ParseM Parsed
  | 0 => tooDeep
  | fuel + 1 => do
    let tok ← nextNonSpace
    match tok.kind with
    | .text => return .node (.text tok.pos tok.val)
    | .leftDelim =>
      modify fun p => { p with actionLine := tok.line }
      let r ← action fuel
      modify fun p => { p with actionLine := 0 }
      return r
    | _ => unexpected tok "input"

/-- The body of a branch: its pipeline, its list and its `else` list. An
`{{else if …}}` or `{{else with …}}` opens a branch inside the `else` list that
shares the closing `{{end}}`. Variables declared inside go out of scope. -/
def parseControl : Nat → String → ParseM (Pipe × List Node × List Node)
  | 0, _ => tooDeep
  | fuel + 1, context => do
    let saved := (← get).vars.length
    let pipe ← pipeline fuel context .rightDelim
    if context = "range" then modify fun p => { p with rangeDepth := p.rangeDepth + 1 }
    let (list, closing) ← itemList fuel []
    if context = "range" then modify fun p => { p with rangeDepth := p.rangeDepth - 1 }
    let elseList ← match closing with
      | .elseMark _ _ =>
        let pk ← peek
        if context = "if" && pk.kind = .keyword && pk.val = "if" then
          let _ ← next
          let (p, l, e) ← parseControl fuel "if"
          pure [Node.ifThen (match p with | .mk pos _ _ _ _ => pos) (match p with | .mk _ line _ _ _ => line) p l e]
        else if context = "with" && pk.kind = .keyword && pk.val = "with" then
          let _ ← next
          let (p, l, e) ← parseControl fuel "with"
          pure [Node.withDot (match p with | .mk pos _ _ _ _ => pos) (match p with | .mk _ line _ _ _ => line) p l e]
        else
          let (l, closing') ← itemList fuel []
          match closing' with
          | .endMark => pure l
          | other => failWith ("expected end; found " ++ other.describe)
      | _ => pure []
    popVars saved
    return (pipe, list, elseList)

/-- The list of a named template, read with a scope of its own. -/
def nestedList : Nat → String → ParseM (List Node × Parsed)
  | 0, _ => tooDeep
  | fuel + 1, _ => do
    let outer ← get
    set { outer with vars := ["$"], rangeDepth := 0, actionLine := 0 }
    let r ← itemList fuel []
    let restore (p : Parser) : Parser :=
      { p with vars := outer.vars, rangeDepth := outer.rangeDepth, actionLine := outer.actionLine }
    modify restore
    return r

/-- An action after its opening delimiter. -/
def action : Nat → ParseM Parsed
  | 0 => tooDeep
  | fuel + 1 => do
    let tok ← nextNonSpace
    let control (context : String) (make : Nat → Nat → Pipe → List Node → List Node → Node) :
        ParseM Parsed := do
      let (p, l, e) ← parseControl fuel context
      match p with
      | .mk pos line _ _ _ => return .node (make pos line p l e)
    if tok.kind = .keyword then
      match tok.val with
      | "if" => control "if" Node.ifThen
      | "with" => control "with" Node.withDot
      | "range" => control "range" Node.range
      | "end" =>
        let _ ← expect .rightDelim "end"
        return .endMark
      | "else" =>
        let pk ← peekNonSpace
        if pk.kind = .keyword && (pk.val = "if" || pk.val = "with") then
          return .elseMark pk.pos pk.line
        else
          let t ← expect .rightDelim "else"
          return .elseMark t.pos t.line
      | "break" | "continue" =>
        let word := tok.val
        let t ← nextNonSpace
        let clause := "\x7b\x7b" ++ word ++ "\x7d\x7d"
        if t.kind ≠ .rightDelim then unexpected t clause
        else if (← get).rangeDepth = 0 then failWith (clause ++ " outside \x7b\x7brange\x7d\x7d")
        else if word = "break" then return .node (.breakLoop tok.pos tok.line)
        else return .node (.continueLoop tok.pos tok.line)
      | "template" =>
        let context := "template clause"
        let t ← nextNonSpace
        let name ← templateName t context
        let after ← nextNonSpace
        if after.kind = .rightDelim then return .node (.call t.pos t.line name none)
        else
          backup
          let p ← pipeline fuel context .rightDelim
          return .node (.call t.pos t.line name (some p))
      | "block" =>
        let context := "block clause"
        let t ← nextNonSpace
        let name ← templateName t context
        let p ← pipeline fuel context .rightDelim
        let outerFar := (← get).far
        let (l, closing) ← nestedList fuel name
        match closing with
        | .endMark =>
          addTree name l
          return .node (.call t.pos t.line name (some p))
        | other =>
          modify fun s => { s with far := outerFar }
          failWith ("unexpected " ++ other.describe ++ " in " ++ context)
      | _ =>
        backup
        let t ← peek
        let p ← pipeline fuel "command" .rightDelim
        return .node (.action t.pos t.line p)
    else
      backup
      let t ← peek
      let p ← pipeline fuel "command" .rightDelim
      return .node (.action t.pos t.line p)

end

/-- A `{{define "name"}}…{{end}}`, after the word `define`. -/
def definition (fuel : Nat) : ParseM Unit := do
  let context := "define clause"
  let tok ← nextNonSpace
  if tok.kind ≠ .string && tok.kind ≠ .rawString then unexpected tok context
  else
    let name ← match unquote tok.val with
      | .ok s => pure s
      | .error e => failWith e
    let _ ← expect .rightDelim context
    let (l, closing) ← nestedList fuel name
    match closing with
    | .endMark => addTree name l
    | other => failWith ("unexpected " ++ other.describe ++ " in " ++ context)

/-- The nodes of the template itself, with the definitions among them read
aside. -/
def topLevel : Nat → List Node → ParseM (List Node)
  | 0, _ => tooDeep
  | fuel + 1, acc => do
    let tok ← peek
    if tok.kind = .eof then return acc.reverse
    else
      let isDefine ← if tok.kind = .leftDelim then do
          let at_ := (← get).idx
          let _ ← next
          let t2 ← nextNonSpace
          if t2.kind = .keyword && t2.val = "define" then pure true
          else
            modify fun p => { p with idx := at_ }
            pure false
        else pure false
      if isDefine then
        definition fuel
        topLevel fuel acc
      else
        match ← textOrAction fuel with
        | .node n => topLevel fuel (n :: acc)
        | other => failWith ("unexpected " ++ other.describe)

/-- The named templates of a source whose own name is `name`, in the order they
were defined; the template itself is among them unless it is empty and a
definition took its name. -/
def parse (name src : String) : Except String (List (String × List Node)) :=
  let items := (scan src).toArray
  let fuel := 16 * (items.size + 2)
  let start : Parser := ⟨name, items, 0, 0, ["$"], 0, 0, 0, []⟩
  match (do
      let root ← topLevel fuel []
      addTree name root : ParseM Unit).run start with
  | .ok ((), p) => .ok p.defs
  | .error e => .error e

end NetFleet.Template
