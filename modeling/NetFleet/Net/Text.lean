import NetFleet.Net.Prefix
import NetFleet.Fault

/-!
# Addresses given as text

Operations on addresses that arrive as text: the family of an address, an IPv4
address as a 32-bit number, an interface address (an address with its prefix
length), splitting `address/length`, and sorting mixed lists of addresses: IPv6
first, then IPv4, then texts that are no address, each group in order (numeric
for addresses, by text otherwise), equal items keeping their order.
-/

namespace NetFleet.Net

/-- The two address families. -/
def families : List String := ["ipv4", "ipv6"]

/-- Whether a text names an address family. -/
def isFamily (s : String) : Bool := families.contains s

/-- The family of an address given as text: IPv4-mapped addresses count as IPv4. -/
def familyOf (s : String) : Except Fault String :=
  match Addr.parse s with
  | .ok a => .ok (if a.unmap.is4 then "ipv4" else "ipv6")
  | .error _ => .error (.plain ("invalid IP address: " ++ s))

/-- An IPv4 address given as text, as the number its four octets make. -/
def ipv4Number (s : String) : Except Fault Nat :=
  match Addr.parse s with
  | .ok (.v4 b) => .ok b.toNat
  | _ => .error (.plain ("invalid IPv4 address: " ++ s))

/-- An interface address: an address and its prefix length, as text. -/
def interfaceAddress (s : String) : Except Fault Prefix :=
  match Prefix.parse s with
  | .ok p => .ok p
  | .error _ => .error (.plain ("invalid interface address: " ++ s))

/-- The address and length parts of `address/length`, split at the first slash;
without a slash the length part is empty. -/
def splitAddressLength (s : String) : String × String :=
  match s.toList.span (· ≠ '/') with
  | (a, _ :: m) => (String.ofList a, String.ofList m)
  | (a, []) => (String.ofList a, "")

/-- The group of a text in address order: IPv6 first, IPv4, then no address. -/
def sortGroup : Except AddrError Addr → Nat
  | .ok (.v6 _ _) => 0
  | .ok (.v4 _) => 1
  | .error _ => 2

/-- Whether `a` goes before `b` in address order. -/
def addressBefore (a b : String) : Bool :=
  let pa := Addr.parse a
  let pb := Addr.parse b
  let ga := sortGroup pa
  let gb := sortGroup pb
  if ga ≠ gb then ga < gb
  else match pa, pb with
    | .ok x, .ok y => x.lt y
    | _, _ => a < b

/-- Addresses in address order; equal items keep their order. -/
def sortAddresses (xs : List String) : List String :=
  xs.mergeSort fun a b => !addressBefore b a

/-- An AS number must lie in `[1, 4294967295]`. -/
def checkASN (n : Int) : Except Fault Unit :=
  if n < 1 ∨ n > 4294967295 then
    .error (.plain ("AS number must be between 1 and 4294967295, got " ++ toString n))
  else .ok ()

/-- An MTU must lie in `[1280, 9192]`. -/
def checkMTU (n : Int) : Except Fault Unit :=
  if n < 1280 ∨ n > 9192 then
    .error (.plain ("MTU must be between 1280 and 9192, got " ++ toString n))
  else .ok ()

end NetFleet.Net
