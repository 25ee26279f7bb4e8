import NetFleet.Schema.Shape

/-!
# Writing nodes

`encode` writes a node of a shape as JSON. Records write their members in
declaration order and leave out those their omission rule drops; dictionaries
write their entries sorted by written key; absent values are `null`; addresses
and prefixes are written in canonical text, and unset ones as `""`.

An open record writes its declared members as a record does; when it keeps
undeclared members too, all members together are written sorted by name.
-/

namespace NetFleet.Schema

/-- Whether a node counts as empty for `Omission.empty`. -/
def Node.isEmpty : Node → Bool
  | .text s => s = ""
  | .flag b => !b
  | .int i => i = 0
  | .nil => true
  | .list xs => xs.isEmpty
  | .dict es => es.isEmpty
  | .json .null => true
  | .json (.obj []) => true
  | .json (.arr []) => true
  | _ => false

/-- Whether a node counts as zero for `Omission.zero`. -/
def Node.isZero : Node → Bool
  | .addr none => true
  | .cidr none => true
  | .text s => s = ""
  | .int i => i = 0
  | .flag b => !b
  | .nil => true
  | _ => false

/-- Whether a member with this rule and node is left out. -/
def omitted (rule : Omission) (n : Node) : Bool :=
  match rule with
  | .never => false
  | .empty => n.isEmpty
  | .zero => n.isZero

/-- Write a node of shape `s`. -/
def encode (s : Shape) (n : Node) : Json :=
  match s, n with
  | _, .text t => .str t
  | _, .flag b => .bool b
  | _, .int i => .num (toString i)
  | _, .addr a => .str ((a.map Net.Addr.render).getD "")
  | _, .cidr p => .str ((p.map Net.Prefix.render).getD "")
  | _, .json j => j
  | _, .nil => .null
  | .opt e, .some inner => encode e inner
  | .list e, .list xs => .arr (xs.map fun x => encode e x)
  | .dict _ e, .dict es => .obj (es.map fun (k, v) => (k.render, encode e v))
  | .record _ members, .record fs =>
    .obj (members.attach.filterMap fun ⟨m, _⟩ =>
      let v := memberOf fs m.name
      if omitted m.rule v then none else some (m.name, encode m.shape v))
  | .openRecord _ _ members, .openRecord fs extra =>
    let declared := members.attach.filterMap fun ⟨m, _⟩ =>
      let v := memberOf fs m.name
      if omitted m.rule v then none else some (m.name, encode m.shape v)
    if extra.isEmpty then .obj declared
    else .obj (Json.dictOf (declared ++ extra.filter fun kv => !declared.any (·.1 = kv.1)))
  | _, _ => .null
termination_by sizeOf s
decreasing_by
  all_goals simp_wf
  all_goals first
    | omega
    | exact Nat.lt_of_lt_of_le (Member.sizeOf_shape_lt (by assumption)) (by omega)
where
  memberOf (fs : List (String × Node)) (name : String) : Node :=
    ((fs.find? (·.1 = name)).map (·.2)).getD .nil

end NetFleet.Schema
