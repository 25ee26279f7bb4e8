import NetFleet.Json.Value
import NetFleet.Net.Prefix

/-!
# Shapes of typed documents

A `Shape` describes the typed form of a document: which members a record has and
under which names, which values are text, flags, whole numbers, addresses or
prefixes, which are lists, dictionaries or optional, and which stay free-form
JSON. A `Node` is a document decoded against a shape.

Every shape has a zero node (`Shape.zero`): empty text, `false`, `0`, the unset
address, no list, no dictionary, and a record whose members are all zero. Each
shape also has a type name (`Shape.typeName`), which decoding errors use to say
what a value was expected to be.

An *open* record (`Shape.openRecord`) also keeps the members it does not
declare, as raw JSON, and writes them back beside its declared ones.
-/

namespace NetFleet.Schema

/-- When a member is left out of the written form. -/
inductive Omission where
  /-- Always written. -/
  | never
  /-- Left out when empty: `false`, `0`, `""`, absent, or an empty list or dictionary. -/
  | empty
  /-- Left out when it is the unset address or prefix. -/
  | zero
deriving DecidableEq, Inhabited

/-- What the keys of a dictionary are. -/
inductive KeyKind where
  | text
  | addr
  | cidr
deriving DecidableEq, Inhabited

mutual

/-- The typed form of a document. -/
inductive Shape where
  /-- Text; `typeName` names the kind of text. -/
  | text (typeName : String)
  /-- A flag. -/
  | flag
  /-- A whole number of 64 bits; `typeName` names it. -/
  | int (typeName : String)
  /-- An IP address, possibly unset. -/
  | addr
  /-- An IP prefix, possibly unset. -/
  | cidr
  /-- Free-form JSON whose numbers are doubles. -/
  | any
  /-- JSON kept as written. -/
  | raw
  /-- An optional value. -/
  | opt (elem : Shape)
  /-- A list, possibly absent. -/
  | list (elem : Shape)
  /-- A dictionary, possibly absent. -/
  | dict (key : KeyKind) (elem : Shape)
  /-- A record with the given members. -/
  | record (typeName : String) (members : List Member)
  /-- A record that also keeps undeclared members; `innerName` names the record
  in errors about its declared members. -/
  | openRecord (typeName innerName : String) (members : List Member)

/-- A declared member of a record: its name, when it is left out, and its shape. -/
inductive Member where
  | mk (name : String) (rule : Omission) (shape : Shape)

end

/-- The name of a member. -/
def Member.name : Member → String
  | .mk n _ _ => n

/-- The omission rule of a member. -/
def Member.rule : Member → Omission
  | .mk _ o _ => o

/-- The shape of a member. -/
def Member.shape : Member → Shape
  | .mk _ _ s => s

/-- A dictionary key. -/
inductive Key where
  | text (s : String)
  | addr (a : Option Net.Addr)
  | cidr (p : Option Net.Prefix)
deriving DecidableEq, Inhabited

/-- The written form of a key: the text itself, or the canonical text of an
address or prefix (empty when unset). -/
def Key.render : Key → String
  | .text s => s
  | .addr a => (a.map Net.Addr.render).getD ""
  | .cidr p => (p.map Net.Prefix.render).getD ""

/-- A document decoded against a shape. -/
inductive Node where
  | text (s : String)
  | flag (b : Bool)
  | int (n : Int)
  | addr (a : Option Net.Addr)
  | cidr (p : Option Net.Prefix)
  /-- Free-form JSON, or JSON kept as written. -/
  | json (j : Json)
  /-- An absent optional value, list or dictionary. -/
  | nil
  /-- A present optional value. -/
  | some (n : Node)
  | list (items : List Node)
  /-- Entries with distinct keys, sorted by the written form of the key. -/
  | dict (entries : List (Key × Node))
  /-- One node per declared member, in declaration order. -/
  | record (members : List (String × Node))
  /-- Declared members, and the undeclared ones sorted by name. -/
  | openRecord (members : List (String × Node)) (extra : List (String × Json))
deriving Inhabited

namespace Shape

/-- The name of a key kind. -/
def keyName : KeyKind → String
  | .text => "string"
  | .addr => "netip.Addr"
  | .cidr => "netip.Prefix"

/-- The type name of a shape. -/
def typeName : Shape → String
  | .text n => n
  | .flag => "bool"
  | .int n => n
  | .addr => "netip.Addr"
  | .cidr => "netip.Prefix"
  | .any => "interface {}"
  | .raw => "jsontext.Value"
  | .opt e => "*" ++ e.typeName
  | .list e => "[]" ++ e.typeName
  | .dict k e => "map[" ++ keyName k ++ "]" ++ e.typeName
  | .record n _ => n
  | .openRecord n _ _ => n

mutual

/-- The zero node of a shape. -/
def zero : Shape → Node
  | .text _ => .text ""
  | .flag => .flag false
  | .int _ => .int 0
  | .addr => .addr none
  | .cidr => .cidr none
  | .any => .json .null
  | .raw => .json .null
  | .opt _ => .nil
  | .list _ => .nil
  | .dict _ _ => .nil
  | .record _ ms => .record (zeroMembers ms)
  | .openRecord _ _ ms => .openRecord (zeroMembers ms) []

/-- The zero nodes of a record's members. -/
def zeroMembers : List Member → List (String × Node)
  | [] => []
  | .mk n _ s :: ms => (n, zero s) :: zeroMembers ms

end

/-- The shape of the member `name` of a record's member list. -/
def memberShape? (ms : List Member) (name : String) : Option Shape :=
  (ms.find? (·.name = name)).map (·.shape)

end Shape

namespace Node

/-- The node itself, or what an optional value holds. -/
def deref : Node → Node
  | .some n => n
  | n => n

/-- The member `name` of a record (through an optional value); absent for other
nodes. -/
def member (n : Node) (name : String) : Node :=
  match n.deref with
  | .record ms => ((ms.find? (·.1 = name)).map (·.2)).getD .nil
  | .openRecord ms _ => ((ms.find? (·.1 = name)).map (·.2)).getD .nil
  | _ => .nil

/-- Whether a node is absent. -/
def isNil : Node → Bool
  | .nil => true
  | _ => false

/-- A present node, or `none` for an absent one. -/
def toOption : Node → Option Node
  | .nil => none
  | .some n => Option.some n
  | n => Option.some n

/-- The text of a node (through an optional value), `""` for others. -/
def str (n : Node) : String :=
  match n.deref with
  | .text s => s
  | _ => ""

/-- The flag of a node (through an optional value), `false` for others. -/
def flag? (n : Node) : Bool :=
  match n.deref with
  | .flag b => b
  | _ => false

/-- The number of a node (through an optional value), `0` for others. -/
def num (n : Node) : Int :=
  match n.deref with
  | .int i => i
  | _ => 0

/-- The number of an optional node, if present. -/
def optInt (n : Node) : Option Int :=
  match n with
  | .some (.int i) => Option.some i
  | .int i => Option.some i
  | _ => none

/-- The address of a node, if set. -/
def addr? (n : Node) : Option Net.Addr :=
  match n.deref with
  | .addr a => a
  | _ => none

/-- The prefix of a node, if set. -/
def cidr? (n : Node) : Option Net.Prefix :=
  match n.deref with
  | .cidr p => p
  | _ => none

/-- The items of a list; none for an absent list. -/
def items (n : Node) : List Node :=
  match n.deref with
  | .list xs => xs
  | _ => []

/-- The entries of a dictionary; none for an absent one. -/
def entries (n : Node) : List (Key × Node) :=
  match n.deref with
  | .dict es => es
  | _ => []

/-- The JSON held by a free-form node. -/
def json? (n : Node) : Option Json :=
  match n with
  | .json j => Option.some j
  | _ => none

end Node

end NetFleet.Schema

namespace NetFleet.Schema

/-- A member's shape is smaller than any list of members holding it. -/
theorem Member.sizeOf_shape_lt {m : Member} {ms : List Member} (h : m ∈ ms) :
    sizeOf m.shape < sizeOf ms := by
  have hm := List.sizeOf_lt_of_mem h
  cases m with
  | mk n r s =>
    simp only [Member.shape, Member.mk.sizeOf_spec] at hm ⊢
    omega

end NetFleet.Schema
