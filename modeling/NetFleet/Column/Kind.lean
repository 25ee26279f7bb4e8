import NetFleet.Fault
import NetFleet.Text.Quoted
import NetFleet.Text.Case

/-!
# Column kinds

The database holds six kinds of column. Each has a name, and each is either flat
(one record per set) or keyed, and may group its elements into categories:

| kind | name | flat | categories |
|---|---|---|---|
| `device` | device | yes | none |
| `iface` | interface | no | none |
| `bgp` | bgp | no | peer_groups, neighbors |
| `firewall` | firewall | no | policies, groups, zone_policy |
| `policy` | policy | no | prefix_lists, route_maps, aspath_lists, community_lists |
| `protocol` | protocol | no | services |
-/

namespace NetFleet.Column

/-- The kinds of column. -/
inductive Kind where
  | device
  | iface
  | bgp
  | firewall
  | policy
  | protocol
deriving DecidableEq, Inhabited, Repr

namespace Kind

/-- Every kind, in order of name. -/
def all : List Kind := [.bgp, .device, .firewall, .iface, .policy, .protocol]

/-- The name of a kind. -/
def name : Kind → String
  | .device => "device"
  | .iface => "interface"
  | .bgp => "bgp"
  | .firewall => "firewall"
  | .policy => "policy"
  | .protocol => "protocol"

/-- Whether a column holds one record per set. -/
def flat : Kind → Bool
  | .device => true
  | _ => false

/-- The categories of a column, in their fixed order. -/
def categories : Kind → List String
  | .device => []
  | .iface => []
  | .bgp => ["peer_groups", "neighbors"]
  | .firewall => ["policies", "groups", "zone_policy"]
  | .policy => ["prefix_lists", "route_maps", "aspath_lists", "community_lists"]
  | .protocol => ["services"]

/-- Whether a column groups its elements into categories. -/
def categorized (k : Kind) : Bool := !k.categories.isEmpty

/-- Whether `c` is a category of the column. -/
def hasCategory (k : Kind) (c : String) : Bool := k.categories.contains c

/-- The kind of a name. -/
def ofName? (s : String) : Option Kind := all.find? (·.name = s)

/-- The kind of a name, or the fault that no column has it. -/
def resolve (s : String) : Except Fault Kind :=
  match ofName? s with
  | some k => .ok k
  | none => .error (.wrap "" (": " ++ Text.quote s) (.sentinel .unknownColumnType))

end Kind

/-- A set id as the database keys it: in capitals, unless it is empty or starts
with an underscore, which marks an id kept as written. -/
def normalizeSetId (id : String) : String :=
  if id = "" ∨ id.startsWith "_" then id else Text.upper id

end NetFleet.Column
