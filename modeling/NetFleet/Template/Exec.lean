import NetFleet.Template.Parse
import NetFleet.Template.Value
import NetFleet.Template.Compare
import NetFleet.Http.Url

/-!
# Running templates

A template runs on data, with *dot* (`.`) first set to the data: text is
written out, an action writes the value of its pipeline, `if` and `with` choose
a list by the truth of a value (`with` also sets dot to it), `range` runs its
list once per element of a list or map (keys in sorted order) or per number
below an integer, and a named template runs with dot set to the value given.
A missing map entry is an error, not an empty value.

Each value held in a list or map, or in a variable set by `range`, is boxed;
a pipeline unboxes the value of each command. The built-in functions are
`and`, `or` (both stop at the first value that settles them), `not`, `len`,
`index`, `slice`, the comparisons `eq ne lt le gt ge`, `print`, `printf`,
`println`, the escapers `html`, `js` and `urlquery`, and `call`.

A failure is reported as
`template: NAME:LINE:COL: executing "NAME" at <…>: message`, where the place
and the text in angle brackets are those of the argument, command or pipeline
being evaluated when it happened, and the column counts bytes from zero.
-/

namespace NetFleet.Template

/-- What the engine was looking at, for messages. -/
inductive Spot where
  | start
  | arg (a : Arg)
  | cmd (c : Cmd)
  | pipe (p : Pipe)
  | action (pos : Nat) (p : Pipe)
  | call (pos : Nat) (name : String) (p : Option Pipe)
  | other (pos : Nat)

/-- Where a spot is. -/
def Spot.pos : Spot → Nat
  | .start => 0
  | .arg a => a.pos
  | .cmd c => c.pos
  | .pipe (.mk pos _ _ _ _) => pos
  | .action pos _ | .call pos _ _ | .other pos => pos

/-- A spot as messages show it. -/
def Spot.text : Spot → String
  | .start => ""
  | .arg a => a.text
  | .cmd c => c.text
  | .pipe p => p.text
  | .action _ p => "\x7b\x7b" ++ p.text ++ "\x7d\x7d"
  | .call _ name p =>
    "\x7b\x7btemplate " ++ Text.quote name ++
      (match p with
        | some p => " " ++ p.text
        | none => "") ++ "\x7d\x7d"
  | .other _ => ""

/-- The state of a run. -/
structure Run where
  /-- the bytes of the source, to find lines and columns -/
  source : List UInt8
  /-- the name of the template parsed -/
  parseName : String
  trees : List (String × List Node)
  /-- the name of the template running -/
  name : String
  depth : Nat
  /-- the variables, the latest first -/
  vars : List (String × Value)
  out : String
  spot : Spot

/-- Running: state, and a message on failure. -/
abbrev RunM := StateT Run (Except String)

/-- How a list of nodes ended: normally, or at a `break` or `continue`. -/
inductive Flow where
  | normal
  | breakLoop
  | continueLoop
deriving DecidableEq

/-- The type a function wants of an argument: a value of any kind (`value`),
a value boxed as the dynamic type (`any`), a text, or no type at all. -/
inductive Slot where
  | value
  | any
  | text
  | untyped

/-- The line (from one) and byte column (from zero) of a byte offset. -/
def lineAndColumn (source : List UInt8) (pos : Nat) : Nat × Nat :=
  let before := source.take pos
  let line := 1 + before.count 10
  let col := match (before.zipIdx.filter (·.1 = 10)).getLast? with
    | some (_, i) => pos - (i + 1)
    | none => pos
  (line, col)

/-- Fail with a message at the current spot. -/
def fail {α : Type} (msg : String) : RunM α := do
  let r ← get
  match r.spot with
  | .start => throw ("template: " ++ r.name ++ ": " ++ msg)
  | s =>
    let (line, col) := lineAndColumn r.source s.pos
    throw ("template: " ++ r.parseName ++ ":" ++ toString line ++ ":" ++ toString col ++
      ": executing " ++ Text.quote r.name ++ " at <" ++ s.text ++ ">: " ++ msg)

/-- Look at a spot. -/
def at_ (s : Spot) : RunM Unit := modify fun r => { r with spot := s }

/-- The deepest nesting of named templates. -/
def maxDepth : Nat := 100000

/-- The message when the run goes too deep. -/
def tooDeepRun {α : Type} : RunM α := fail ("exceeded maximum template depth (" ++ toString maxDepth ++ ")")

/-- The value of a variable. -/
def varValue (name : String) : RunM Value := do
  match (← get).vars.lookup name with
  | some v => return v
  | none => fail ("undefined variable: " ++ name)

/-- Set the innermost variable of a name. -/
def setVar (name : String) (v : Value) : RunM Unit := do
  let r ← get
  match r.vars.findIdx? (·.1 = name) with
  | some i => set { r with vars := r.vars.set i (name, v) }
  | none => fail ("undefined variable: " ++ name)

/-- Set the `n`-th latest variable. -/
def setTopVar (n : Nat) (v : Value) : RunM Unit :=
  modify fun r => { r with vars := r.vars.modify (n - 1) fun (k, _) => (k, v) }

/-- Declare a variable. -/
def declareVar (name : String) (v : Value) : RunM Unit :=
  modify fun r => { r with vars := (name, v) :: r.vars }

/-- The number of variables. -/
def mark : RunM Nat := return (← get).vars.length

/-- Drop the variables declared since there were `m`. -/
def popTo (m : Nat) : RunM Unit :=
  modify fun r => { r with vars := r.vars.drop (r.vars.length - m) }

/-- Write text out. -/
def emit (s : String) : RunM Unit := modify fun r => { r with out := r.out ++ s }

/-- The entry `name` of a map. -/
def evalField (name : String) (hasArgs : Bool) (receiver : Value) : RunM Value := do
  if receiver.isInvalid then fail ("nil data; no entry for key " ++ Text.quote name)
  else
    let typ := receiver.typeName
    match receiver.data with
    | .null => fail ("nil pointer evaluating " ++ typ ++ "." ++ name)
    | .map ms =>
      if hasArgs then fail (name ++ " is not a method but has arguments")
      else match ms.lookup name with
        | some d => return ⟨d, true⟩
        | none => fail ("map has no entry for key " ++ Text.quote name)
    | _ => fail ("can't evaluate field " ++ name ++ " in type " ++ typ)

/-- Walk a field path from a value; only the last field may have arguments. -/
def fieldChain (receiver : Value) : List String → Bool → RunM Value
  | [], _ => return receiver
  | [n], hasArgs => evalField n hasArgs receiver
  | n :: rest, hasArgs => do fieldChain (← evalField n false receiver) rest hasArgs

/-- Refuse arguments to what is not a function. -/
def notAFunction (extra : Bool) (first : Arg) : RunM Unit :=
  if extra then fail ("can't give argument to non-function " ++ first.text) else pure ()

/-- The value of a number constant: a double when written with a fraction or
an exponent, else an integer. -/
def idealConstant (a : Arg) (n : Number) : RunM Value := do
  at_ (.arg a)
  match n.complex? with
  | some (re, im) => return .of (.complex re im)
  | none =>
  match n.fractional, n.float?, n.int? with
  | true, some f, _ => return .of (.float f)
  | _, _, some i => return .of (.int i)
  | _, _, none => if n.uint?.isSome then fail (n.text ++ " overflows int") else return .invalid

/-- Check a value against the type a function wants. -/
def validate (v : Value) : Slot → RunM Value
  | .untyped => return v
  | .value => if v.isInvalid then fail "invalid value; expected reflect.Value" else return v
  | .any => return (if v.isInvalid then ⟨.null, true⟩ else v)
  | .text =>
    match v.data with
    | .str s => return .of (.str s)
    | .null =>
      if v.boxed then fail "wrong type for value; expected string; got interface \x7b\x7d"
      else fail "invalid value; expected string"
    | d => fail ("wrong type for value; expected string; got " ++ d.typeName)

/-- The types a built-in function wants: fixed arguments, and the type of the
rest when it takes any number more. -/
def signature (name : String) : List Slot × Option Slot :=
  if ["and", "or", "index", "slice", "eq", "call"].contains name then ([.value], some .value)
  else if name = "not" || name = "len" then ([.value], none)
  else if ["ne", "lt", "le", "gt", "ge"].contains name then ([.value, .value], none)
  else if name = "printf" then ([.text], some .any)
  else ([], some .any)

/-- A value handed to a printing function: nothing for a nil interface. -/
def Value.asAny (v : Value) : Option Data :=
  match v.data with
  | .null => none
  | d => some d

/-- Values written one after the other, with a blank between two that are not
texts. -/
def sprint (args : List (Option Data)) : String :=
  let isText : Option Data → Bool
    | some (.str _) => true
    | _ => false
  let rec go (prevText : Bool) (first : Bool) : List (Option Data) → String
    | [] => ""
    | a :: rest =>
      let sep := if !first && !isText a && !prevText then " " else ""
      let t := match a with
        | some d => d.show
        | none => "<nil>"
      sep ++ t ++ go (isText a) false rest
  go false true args

/-- Values written with blanks between them and a line break after. -/
def sprintln (args : List (Option Data)) : String :=
  " ".intercalate (args.map fun
    | some d => d.show
    | none => "<nil>") ++ "\n"

/-- The text the escapers work on: a single text as it is, else the values
written one after the other, nothing standing as `<no value>`. -/
def argsText (args : List (Option Data)) : String :=
  match args with
  | [some (.str s)] => s
  | _ => sprint (args.map fun a => a.orElse fun _ => some (.str "<no value>"))

/-- Text escaped for HTML. -/
def htmlEscape (s : String) : String :=
  String.join (s.toList.map fun c =>
    if c = '\x00' then "�"
    else if c = '"' then "&#34;"
    else if c = '\'' then "&#39;"
    else if c = '&' then "&amp;"
    else if c = '<' then "&lt;"
    else if c = '>' then "&gt;"
    else c.toString)

/-- Text escaped for a script. -/
def jsEscape (s : String) : String :=
  let hex := "0123456789ABCDEF".toList
  String.join (s.toList.map fun c =>
    if c = '\\' then "\\\\"
    else if c = '\'' then "\\'"
    else if c = '"' then "\\\""
    else if c = '<' then "\\u003C"
    else if c = '>' then "\\u003E"
    else if c = '&' then "\\u0026"
    else if c = '=' then "\\u003D"
    else if c.toNat < 0x20 then
      "\\u00" ++ (hex.getD (c.toNat / 16) '0').toString ++ (hex.getD (c.toNat % 16) '0').toString
    else if c.toNat < 0x80 || Text.isPrintable c then c.toString
    else
      let ds := (Nat.toDigits 16 c.toNat).map Char.toUpper
      "\\u" ++ String.ofList (List.replicate (4 - ds.length) '0' ++ ds))

/-- A position read from an index value. -/
def indexArg (index : Value) (cap : Nat) : Except String Nat :=
  if index.boxed then
    match index.data with
    | .null => .error "cannot index slice/array with nil"
    | _ => .error "cannot index slice/array with type interface \x7b\x7d"
  else match index.data with
    | .int x =>
      if x < 0 || x > cap then .error ("index out of range: " ++ toString x) else .ok x.toNat
    | .null => .error "cannot index slice/array with nil"
    | d => .error ("cannot index slice/array with type " ++ d.typeName)

/-- Successive elements of a value, by position or key. -/
def indexValue (item : Value) (idxs : List Value) : Except String Value :=
  let item := item.unbox
  if item.isInvalid then .error "index of untyped nil"
  else
    let rec go (item : Value) : List Value → Except String Value
      | [] => .ok item
      | i :: rest =>
        let i := i.unbox
        match item.data with
        | .null => .error "index of nil pointer"
        | .list xs => do
          let x ← indexArg i xs.length
          match xs[x]? with
          | some d => go ⟨d, true⟩ rest
          | none => .error "reflect: slice index out of range"
        | .str s => do
          let bs := s.toUTF8.toList
          let x ← indexArg i bs.length
          match bs[x]? with
          | some b => go (.of (.int b.toNat)) rest
          | none => .error "reflect: string index out of range"
        | .map ms =>
          match i.data with
          | .str k => go (match ms.lookup k with
              | some d => ⟨d, true⟩
              | none => ⟨.null, true⟩) rest
          | .null => .error "value is nil; should be of type string"
          | d => .error ("value has type " ++ d.typeName ++ "; should be string")
        | d => .error ("can't index item of type " ++ d.typeName)
    go item idxs

/-- A part of a list or text, between positions. -/
def sliceValue (item : Value) (idxs : List Value) : Except String Value := do
  let item := item.unbox
  if item.isInvalid then throw "slice of untyped nil"
  if idxs.length > 3 then throw ("too many slice indexes: " ++ toString idxs.length)
  let cap ← match item.data with
    | .str s =>
      if idxs.length = 3 then throw "cannot 3-index slice a string" else pure s.utf8ByteSize
    | .list xs => pure xs.length
    | d => throw ("can't slice item of type " ++ d.typeName)
  let len := match item.data.size? with
    | some n => n
    | none => 0
  let given ← idxs.mapM (indexArg · cap)
  let i := given.getD 0 0
  let j := given.getD 1 len
  if i > j then throw ("invalid slice index: " ++ toString i ++ " > " ++ toString j)
  if idxs.length = 3 then
    let k := given.getD 2 len
    if j > k then throw ("invalid slice index: " ++ toString j ++ " > " ++ toString k)
  match item.data with
  | .str s => return .of (.str (String.ofList (Text.textOfBytes ((s.toUTF8.toList.take j).drop i))))
  | .list xs => return .of (.list ((xs.take j).drop i))
  | d => return .of d

/-- The length of a list, map or text. -/
def lengthOf (v : Value) : Except String Value :=
  match v.data with
  | .null =>
    if v.boxed then .error "len of nil pointer"
    else .error "reflect: call of reflect.Value.Type on zero Value"
  | d => match d.size? with
    | some n => .ok (.of (.int n))
    | none => .error ("len of type " ++ d.typeName)

/-- Call a built-in function other than `and` and `or` on checked arguments. -/
def callBuiltin (name : String) (callee : String) (argv : List Value) : Except String Value :=
  let bool (b : Bool) : Value := .of (.bool b)
  match name, argv with
  | "not", [a] => .ok (bool !a.truth)
  | "len", [a] => lengthOf a
  | "index", a :: rest => indexValue a rest
  | "slice", a :: rest => sliceValue a rest
  | "eq", a :: rest => (equalsAny a rest).map bool
  | "ne", [a, b] => (equalsAny a [b]).map fun e => bool !e
  | "lt", [a, b] => (lessThan a b).map bool
  | "le", [a, b] => do
    if ← lessThan a b then return bool true
    else return bool (← equalsAny a [b])
  | "gt", [a, b] => do
    let lt ← lessThan a b
    if lt then return bool false
    else return bool !(← equalsAny a [b])
  | "ge", [a, b] => (lessThan a b).map fun l => bool !l
  | "print", args => .ok (.of (.str (sprint (args.map Value.asAny))))
  | "println", args => .ok (.of (.str (sprintln (args.map Value.asAny))))
  | "printf", f :: args =>
    match f.data with
    | .str fmt => .ok (.of (.str (sprintf fmt (args.map Value.asAny))))
    | _ => .error "printf wants a format"
  | "html", args => .ok (.of (.str (htmlEscape (argsText (args.map Value.asAny)))))
  | "js", args => .ok (.of (.str (jsEscape (argsText (args.map Value.asAny)))))
  | "urlquery", args => .ok (.of (.str (Http.escapeQuery (argsText (args.map Value.asAny)))))
  | "call", f :: _ =>
    if f.unbox.isInvalid then .error "call of nil"
    else .error ("non-function " ++ callee ++ " of type " ++ f.data.typeName)
  | _, _ => .error ("wrong arguments for " ++ name)

/-- The slot of the argument at position `i` (from zero) of a function. -/
def slotAt (sig : List Slot × Option Slot) (i : Nat) : Slot :=
  match sig.1[i]? with
  | some s => s
  | none => sig.2.getD .value

/-- The depth of evaluation allowed: far more than any template needs. -/
def runFuel : Nat := Nat.pow 2 24

mutual

/-- The value of an argument handed to a function wanting `slot`. -/
def evalArg : Nat → Value → Slot → Arg → RunM Value
  | 0, _, _, _ => tooDeepRun
  | fuel + 1, dot, slot, a => do
    at_ (.arg a)
    match a with
    | .dot _ => validate dot slot
    | .nil _ =>
      match slot with
      | .any => return ⟨.null, true⟩
      | .value => return .invalid
      | .text => fail "cannot assign nil to string"
      | .untyped => return .invalid
    | .field _ names => validate (← fieldChain dot names false) slot
    | .var _ names => validate (← evalVariable fuel dot a names false) slot
    | .pipe p => validate (← evalPipeline fuel dot p) slot
    | .func _ name => validate (← evalFunction fuel dot a (.arg a) name [] none) slot
    | .chain _ base names => validate (← evalChain fuel dot a base names false) slot
    | .bool _ b =>
      match slot with
      | .text => fail ("expected string; found " ++ a.text)
      | _ => return .of (.bool b)
    | .number _ n =>
      match slot with
      | .text => fail ("expected string; found " ++ a.text)
      | _ => idealConstant a n
    | .string _ _ s => return .of (.str s)

/-- A variable, and the field path after it. -/
def evalVariable : Nat → Value → Arg → List String → Bool → RunM Value
  | 0, _, _, _, _ => tooDeepRun
  | _ + 1, _, a, names, extra => do
    at_ (.arg a)
    let v ← varValue (names.headD "$")
    match names with
    | [_] =>
      notAFunction extra a
      return v
    | _ => fieldChain v (names.drop 1) extra

/-- A field path taken from the value of another argument. -/
def evalChain : Nat → Value → Arg → Arg → List String → Bool → RunM Value
  | 0, _, _, _, _, _ => tooDeepRun
  | fuel + 1, dot, a, base, names, extra => do
    at_ (.arg a)
    let v ← evalArg fuel dot .untyped base
    fieldChain v names extra

/-- The first arguments of `and` or `or`, until one settles the result: whether
one did, and the last value evaluated. -/
def andOr : Nat → Value → Bool → Value → List Arg → RunM (Bool × Value)
  | 0, _, _, _, _ => tooDeepRun
  | _ + 1, _, _, last, [] => return (false, last)
  | fuel + 1, dot, isOr, _, a :: rest => do
    let v ← evalArg fuel dot .value a
    if v.truth == isOr then return (true, v) else andOr fuel dot isOr v rest

/-- The arguments of a call, each checked against its slot. -/
def evalArgs : Nat → Value → (List Slot × Option Slot) → Nat → List Arg → RunM (List Value)
  | 0, _, _, _, _ => tooDeepRun
  | _ + 1, _, _, _, [] => return []
  | fuel + 1, dot, sig, i, a :: rest => do
    let v ← evalArg fuel dot (slotAt sig i) a
    return v :: (← evalArgs fuel dot sig (i + 1) rest)

/-- Call a built-in function with arguments and, from the pipeline, a last
value. -/
def evalFunction : Nat → Value → Arg → Spot → String → List Arg → Option Value → RunM Value
  | 0, _, _, _, _, _, _ => tooDeepRun
  | fuel + 1, dot, ident, node, name, args, final => do
    at_ (.arg ident)
    let sig := signature name
    let numIn := args.length + (if final.isSome then 1 else 0)
    match sig.2 with
    | some _ =>
      if numIn < sig.1.length then
        fail ("wrong number of args for " ++ name ++ ": want at least " ++ toString sig.1.length ++
          " got " ++ toString args.length)
    | none =>
      if numIn ≠ sig.1.length then
        fail ("wrong number of args for " ++ name ++ ": want " ++ toString sig.1.length ++
          " got " ++ toString numIn)
    if name = "and" || name = "or" then
      let (settled, v) ← andOr fuel dot (name = "or") .invalid args
      if settled then return v
      else match final with
        | some f => validate f .value
        | none => return v
    else
      let argv ← evalArgs fuel dot sig 0 args
      let argv ← match final with
        | some f => do pure (argv ++ [← validate f (slotAt sig (numIn - 1))])
        | none => pure argv
      let callee := match args.head? with
        | some a => a.text
        | none => match final with
          | some f => match f.data with
            | .str s => s
            | d => "<" ++ d.typeName ++ " Value>"
          | none => ""
      match callBuiltin name callee argv with
      | .ok v => return v
      | .error e =>
        at_ node
        fail ("error calling " ++ name ++ ": " ++ e)

/-- The value of a command, given the value of the command before it. -/
def evalCommand : Nat → Value → Cmd → Option Value → RunM Value
  | 0, _, _, _ => tooDeepRun
  | fuel + 1, dot, c, final => do
    match c.args with
    | [] => fail "empty command"
    | first :: rest =>
      let extra := !rest.isEmpty || final.isSome
      match first with
      | .field _ names =>
        at_ (.arg first)
        fieldChain dot names extra
      | .chain _ base names => evalChain fuel dot first base names extra
      | .func _ name => evalFunction fuel dot first (.cmd c) name rest final
      | .pipe p =>
        notAFunction extra first
        evalPipeline fuel dot p
      | .var _ names => evalVariable fuel dot first names extra
      | .bool _ b =>
        at_ (.arg first)
        notAFunction extra first
        return .of (.bool b)
      | .dot _ =>
        at_ (.arg first)
        notAFunction extra first
        return dot
      | .nil _ =>
        at_ (.arg first)
        notAFunction extra first
        fail "nil is not a command"
      | .number _ n =>
        at_ (.arg first)
        notAFunction extra first
        idealConstant first n
      | .string _ _ s =>
        at_ (.arg first)
        notAFunction extra first
        return .of (.str s)

/-- The commands of a pipeline, each given the value of the one before. -/
def evalCmds : Nat → Value → List Cmd → Option Value → RunM Value
  | 0, _, _, _ => tooDeepRun
  | _ + 1, _, [], final => return final.getD .invalid
  | fuel + 1, dot, c :: cs, final => do
    let v := (← evalCommand fuel dot c final).unbox
    if cs.isEmpty then return v else evalCmds fuel dot cs (some v)

/-- The value of a pipeline; its variables are declared or assigned. -/
def evalPipeline : Nat → Value → Pipe → RunM Value
  | 0, _, _ => tooDeepRun
  | fuel + 1, dot, p => do
    at_ (.pipe p)
    match p with
    | .mk _ _ isAssign decl cmds =>
      let v ← evalCmds fuel dot cmds none
      for (_, name) in decl do
        if isAssign then setVar name v else declareVar name v
      return v

end

/-- One run of the list of a `range`: its variables set to the position and the
element, dot set to the element. -/
abbrev RangeStep := Value × Value

mutual

/-- Run a node. -/
def walk : Nat → Value → Node → RunM Flow
  | 0, _, _ => tooDeepRun
  | fuel + 1, dot, node =>
    match node with
    | .text pos s => do
      at_ (.other pos)
      emit s
      return .normal
    | .action pos _ p => do
      at_ (.action pos p)
      let v ← evalPipeline fuel dot p
      match p with
      | .mk _ _ _ [] _ =>
        at_ (.action pos p)
        emit (if v.isInvalid then "<no value>" else v.data.show)
      | _ => pure ()
      return .normal
    | .ifThen pos _ p l e => do
      at_ (.other pos)
      walkBranch fuel false dot p l e
    | .withDot pos _ p l e => do
      at_ (.other pos)
      walkBranch fuel true dot p l e
    | .range pos _ p l e => do
      at_ (.other pos)
      walkRange fuel dot p l e
    | .call pos _ name p => do
      at_ (.call pos name p)
      match (← get).trees.lookup name with
      | none => fail ("template " ++ Text.quote name ++ " not defined")
      | some root =>
        if (← get).depth = maxDepth then tooDeepRun
        else
          let inner ← match p with
            | some p => evalPipeline fuel dot p
            | none => pure .invalid
          let saved ← get
          set { saved with name := name, depth := saved.depth + 1, vars := [("$", inner)] }
          let _ ← walkList fuel inner root
          modify fun r => { r with name := saved.name, depth := saved.depth, vars := saved.vars }
          return .normal
    | .breakLoop _ _ => return .breakLoop
    | .continueLoop _ _ => return .continueLoop

/-- Run nodes in order, stopping at a `break` or `continue`. -/
def walkList : Nat → Value → List Node → RunM Flow
  | 0, _, _ => tooDeepRun
  | _ + 1, _, [] => return .normal
  | fuel + 1, dot, n :: ns => do
    match ← walk fuel dot n with
    | .normal => walkList fuel dot ns
    | f => return f

/-- An `if` or a `with`: the list when the value of the pipeline is true (for
`with`, with dot set to it), else the `else` list. -/
def walkBranch : Nat → Bool → Value → Pipe → List Node → List Node → RunM Flow
  | 0, _, _, _, _, _ => tooDeepRun
  | fuel + 1, isWith, dot, p, l, e => do
    let m ← mark
    let v ← evalPipeline fuel dot p
    let flow ← if v.truth then walkList fuel (if isWith then v else dot) l
      else walkList fuel dot e
    popTo m
    return flow

/-- Run the list of a `range` once per step; `break` ends the steps. -/
def walkSteps : Nat → Pipe → Nat → List Node → List RangeStep → RunM Unit
  | 0, _, _, _, _ => tooDeepRun
  | _ + 1, _, _, _, [] => return ()
  | fuel + 1, p, m, l, (index, elem) :: rest => do
    match p with
    | .mk _ _ isAssign decl _ =>
      match decl with
      | [] => pure ()
      | [(_, v)] => if isAssign then setVar v elem else setTopVar 1 elem
      | (_, i) :: (_, e) :: _ =>
        if isAssign then
          setVar i index
          setVar e elem
        else
          setTopVar 1 elem
          setTopVar 2 index
    let flow ← walkList fuel elem l
    popTo m
    if flow = .breakLoop then return () else walkSteps fuel p m l rest

/-- A `range` over the value of its pipeline: the elements of a list, the
entries of a map in key order, or the numbers below an integer; the `else`
list when there are none. -/
def walkRange : Nat → Value → Pipe → List Node → List Node → RunM Flow
  | 0, _, _, _, _ => tooDeepRun
  | fuel + 1, dot, p, l, e => do
    let m0 ← mark
    let v := (← evalPipeline fuel dot p).unbox
    let m ← mark
    let declCount := match p with
      | .mk _ _ _ decl _ => decl.length
    let steps : Option (List RangeStep) ← match v.data with
      | .list xs => pure (some (xs.zipIdx.map fun (x, i) => (Value.of (.int i), ⟨x, true⟩)))
      | .map ms => pure (some (ms.map fun (k, x) => (Value.of (.str k), ⟨x, true⟩)))
      | .null => pure (some [])
      | .int n =>
        if declCount > 1 then
          fail ("can't use " ++ v.data.show ++ " to iterate over more than one variable")
        else pure (some ((List.range n.toNat).map fun (i : Nat) => (Value.invalid, Value.of (Data.int (Int.ofNat i)))))
      | d => fail ("range can't iterate over " ++ d.show)
    let flow ← match steps with
      | some [] => walkList fuel dot e
      | some ss => do
        walkSteps fuel p m l ss
        pure .normal
      | none => pure .normal
    popTo m0
    return flow

end

/-- Run the template `name` of parsed trees on data, giving its output. -/
def execute (trees : List (String × List Node)) (name src : String) (data : Data) :
    Except String String :=
  let root := Value.of data
  let start : Run := ⟨Text.bytesOf src, name, trees, name, 0, [("$", root)], "", .start⟩
  match trees.lookup name with
  | none => .error ("template: " ++ name ++ ": " ++ Text.quote name ++ " is an incomplete or empty template")
  | some nodes =>
    match (walkList runFuel root nodes).run start with
    | .ok (_, r) => .ok r.out
    | .error e => .error e

end NetFleet.Template
