import NetFleet.Net.Addr

/-!
# IP prefixes

A `Prefix` is an address and a prefix length no longer than the address. It is
written `address/length`; the address part may have host bits set, and
`Prefix.masked` clears them. `Prefix.parse` reads the written form: the text
after the last slash is a length in decimal without sign or leading zero, and
the address part may not carry a zone.
-/

namespace NetFleet.Net

/-- An address with a prefix length of at most its bit length. -/
structure Prefix where
  addr : Addr
  bits : Nat
deriving DecidableEq, Inhabited

/-- Why a text is not a prefix. -/
structure PrefixError where
  input : String
  msg : String
deriving BEq, Inhabited

/-- The message of a prefix error. -/
def PrefixError.message (e : PrefixError) : String :=
  "netip.ParsePrefix(" ++ Text.quote e.input ++ "): " ++ e.msg

namespace Prefix

/-- The canonical text of a prefix. -/
def render (p : Prefix) : String := p.addr.render ++ "/" ++ toString p.bits

instance : ToString Prefix := ⟨render⟩

/-- The number whose top `bits` of `width` are those of `n` and the rest zero. -/
def maskNat (width bits n : Nat) : Nat :=
  n / Nat.pow 2 (width - bits) * Nat.pow 2 (width - bits)

/-- The prefix with its host bits cleared. -/
def masked (p : Prefix) : Prefix :=
  match p.addr with
  | .v4 b => ⟨.v4 (BitVec.ofNat 32 (maskNat 32 p.bits b.toNat)), p.bits⟩
  | .v6 b _ => ⟨.v6 (BitVec.ofNat 128 (maskNat 128 p.bits b.toNat)) "", p.bits⟩

/-- Whether the prefix has no host bits set. -/
def isMasked (p : Prefix) : Bool := decide (p.masked = p)

/-- Whether address `a` lies in the prefix. -/
def contains (p : Prefix) (a : Addr) : Bool :=
  a.bitLen = p.addr.bitLen &&
    maskNat p.addr.bitLen p.bits a.toNat = maskNat p.addr.bitLen p.bits p.addr.toNat

/-- Read a prefix. -/
def parse (input : String) : Except PrefixError Prefix := do
  let cs := input.toList
  let (bitsRev, rest) := cs.reverse.span (· ≠ '/')
  if rest.isEmpty then throw { input, msg := "no '/'" }
  let addrText := String.ofList (rest.drop 1).reverse
  let bitsText := bitsRev.reverse
  let a ← match Addr.parse addrText with
    | .ok a => pure a
    | .error e => throw { input, msg := e.message }
  if a.is6 ∧ a.zone ≠ "" then throw { input, msg := "IPv6 zones cannot be present in a prefix" }
  let bad : PrefixError := { input, msg := "bad bits after slash: " ++ Text.quote (String.ofList bitsText) }
  match bitsText with
  | [] => throw bad
  | c :: rest =>
    if !rest.isEmpty ∧ (c < '1' ∨ '9' < c) then throw bad
    if !(c :: rest).all (fun d => '0' ≤ d ∧ d ≤ '9') then throw bad
    let bits := bitsText.foldl (fun acc d => acc * 10 + (d.toNat - '0'.toNat)) 0
    -- a length beyond a machine integer is refused as written
    if bits ≥ Nat.pow 2 63 then throw bad
    if bits > a.bitLen then throw { input, msg := "prefix length out of range" }
    return ⟨a, bits⟩

/-- Read a prefix; the empty text is the unset prefix. -/
def parseText (s : String) : Except PrefixError (Option Prefix) :=
  if s = "" then .ok none else (parse s).map some

end Prefix

end NetFleet.Net
