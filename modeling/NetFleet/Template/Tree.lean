/-!
# The syntax of templates

A template is a list of nodes: text, actions that print the value of a
pipeline, the branches `if`, `with` and `range` with their `else` lists, calls
of named templates, and `break` and `continue` inside a `range`.

A pipeline is a chain of commands joined by `|`, each command a list of
arguments, optionally declaring or assigning variables first. The value of each
command is passed to the next as its last argument. An argument is a field
path (`.a.b`), a variable with a field path (`$x.a`), a function name, `.`,
`nil`, a constant, a parenthesized pipeline, or a field path taken from any of
these (`(f .x).y`).

Every argument, command and pipeline keeps the byte offset where it starts, so
that a failure at run time can say where it happened. `Arg.text`, `Cmd.text`
and `Pipe.text` give the form in which messages show them.
-/

namespace NetFleet.Template

/-- A number constant, with its readings as an integer and as a double. -/
structure Number where
  /-- the constant as written -/
  text : String
  /-- its value as an integer of 64 bits, when it is one -/
  int? : Option Int
  /-- its value as an unsigned integer of 64 bits, when it is one -/
  uint? : Option Nat
  /-- its value as a double, when it has one -/
  float? : Option Float
  /-- whether it is written with a fraction or an exponent -/
  fractional : Bool
  /-- its value as a complex number, when it is written as one -/
  complex? : Option (Float × Float) := none

mutual

/-- An argument of a command. -/
inductive Arg where
  /-- a field path from dot: `.a.b` -/
  | field (pos : Nat) (names : List String)
  /-- a variable and a field path from it: `$x.a` is `["$x", "a"]` -/
  | var (pos : Nat) (names : List String)
  /-- a field path from another argument -/
  | chain (pos : Nat) (base : Arg) (names : List String)
  /-- a function -/
  | func (pos : Nat) (name : String)
  | dot (pos : Nat)
  | nil (pos : Nat)
  | bool (pos : Nat) (b : Bool)
  | number (pos : Nat) (n : Number)
  /-- a quoted text, as written and as read -/
  | string (pos : Nat) (quoted : String) (text : String)
  /-- a pipeline in parentheses -/
  | pipe (p : Pipe)

/-- A command: its arguments, the first of which says what it does. -/
inductive Cmd where
  | mk (pos : Nat) (args : List Arg)

/-- A pipeline: the variables it declares (or assigns, when `isAssign`), then
its commands. -/
inductive Pipe where
  | mk (pos line : Nat) (isAssign : Bool) (decl : List (Nat × String)) (cmds : List Cmd)

end

/-- A node of a template. -/
inductive Node where
  | text (pos : Nat) (s : String)
  /-- prints the value of its pipeline, unless it declares variables -/
  | action (pos line : Nat) (p : Pipe)
  | ifThen (pos line : Nat) (p : Pipe) (list elseList : List Node)
  /-- runs its list with dot set to the value of the pipeline, when it is true -/
  | withDot (pos line : Nat) (p : Pipe) (list elseList : List Node)
  | range (pos line : Nat) (p : Pipe) (list elseList : List Node)
  /-- runs a named template with dot set to the value of the pipeline -/
  | call (pos line : Nat) (name : String) (p : Option Pipe)
  | breakLoop (pos line : Nat)
  | continueLoop (pos line : Nat)

/-- Where an argument starts. -/
def Arg.pos : Arg → Nat
  | .field p _ | .var p _ | .chain p _ _ | .func p _ | .dot p | .nil p | .bool p _
  | .number p _ | .string p _ _ => p
  | .pipe (.mk p _ _ _ _) => p

/-- Where a command starts. -/
def Cmd.pos : Cmd → Nat
  | .mk p _ => p

/-- The arguments of a command. -/
def Cmd.args : Cmd → List Arg
  | .mk _ args => args

/-- A field path as written after its base. -/
def fieldPath (names : List String) : String := String.join (names.map ("." ++ ·))

mutual

/-- An argument as messages show it; a pipeline is put in parentheses when
`inner`, as it is inside a command or at the base of a chain. -/
def Arg.show (inner : Bool) : Arg → String
  | .field _ names => fieldPath names
  | .var _ names => ".".intercalate names
  | .chain _ base names => Arg.show true base ++ fieldPath names
  | .func _ name => name
  | .dot _ => "."
  | .nil _ => "nil"
  | .bool _ b => if b then "true" else "false"
  | .number _ n => n.text
  | .string _ quoted _ => quoted
  | .pipe p => if inner then "(" ++ Pipe.text p ++ ")" else Pipe.text p

/-- Arguments of a command, separated by blanks. -/
def Arg.listText : List Arg → String
  | [] => ""
  | a :: rest => Arg.show true a ++ (if rest.isEmpty then "" else " " ++ Arg.listText rest)

/-- A command as messages show it. -/
def Cmd.text : Cmd → String
  | .mk _ args => Arg.listText args

/-- Commands of a pipeline, separated by ` | `. -/
def Cmd.listText : List Cmd → String
  | [] => ""
  | c :: cs => Cmd.text c ++ (if cs.isEmpty then "" else " | " ++ Cmd.listText cs)

/-- A pipeline as messages show it. -/
def Pipe.text : Pipe → String
  | .mk _ _ isAssign decl cmds =>
    let head := if decl.isEmpty then ""
      else ", ".intercalate (decl.map Prod.snd) ++ (if isAssign then " = " else " := ")
    head ++ Cmd.listText cmds

end

/-- An argument as messages show it. -/
def Arg.text (a : Arg) : String := Arg.show false a

end NetFleet.Template
