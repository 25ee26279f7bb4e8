import NetFleet.Fault
import NetFleet.Text.Quoted

/-!
# Interface names

Each type of interface has its naming rule: `eth` and a number for ethernet,
`bond` and a number for LACP bonds, `tun` and a number for GRE tunnels, `dum` and
a number for dummies, and `<ethernet or bond>.<id>` for VLANs, where the id lies
in `[1, 4095]`. A number is a non-empty run of ASCII digits.
-/

namespace NetFleet.Column

/-- Whether a text is a non-empty run of ASCII digits. -/
def isDigits (s : List Char) : Bool := !s.isEmpty && s.all fun c => '0' ≤ c && c ≤ '9'

/-- Whether `name` is `stem` followed by a number. -/
def isNumbered (stem : String) (name : String) : Bool :=
  name.startsWith stem && isDigits (name.toList.drop stem.length)

/-- Whether a name can be the parent of a VLAN: an ethernet or a bond. -/
def isVlanParent (name : String) : Bool := isNumbered "eth" name || isNumbered "bond" name

/-- The parent and id of a VLAN interface name. -/
def parseVlanName (name : String) : Except Fault (String × Nat) :=
  match name.toList.span (· ≠ '.') with
  | (parent, _ :: digits) =>
    if isVlanParent (String.ofList parent) && isDigits digits then
      let vid := digits.foldl (fun acc c => acc * 10 + (c.toNat - '0'.toNat)) 0
      if 1 ≤ vid ∧ vid ≤ 4095 then .ok (String.ofList parent, vid)
      else .error (.validation [name ++ ": VLAN id must be between 1 and 4095"])
    else .error (.validation [name ++ ": not a VLAN interface name"])
  | (_, []) => .error (.validation [name ++ ": not a VLAN interface name"])

/-- Check that `name` follows the naming rule of interface type `type`. -/
def checkInterfaceName (name type : String) : Except Fault Unit :=
  let rule : Option Bool :=
    if type = "ethernet" then some (isNumbered "eth" name)
    else if type = "lacp" then some (isNumbered "bond" name)
    else if type = "gre" ∨ type = "l2gre" then some (isNumbered "tun" name)
    else if type = "dummy" then some (isNumbered "dum" name)
    else none
  if type = "vlan" then (parseVlanName name).map fun _ => ()
  else match rule with
    | some true => .ok ()
    | some false => .error (.validation [name ++ ": invalid name for a " ++ type ++ " interface"])
    | none => .error (.validation ["type: unknown interface type " ++ Text.quote type])

end NetFleet.Column
