import NetFleet.Text.Quoted

/-!
# IP addresses

An `Addr` is an IPv4 address (32 bits) or an IPv6 address (128 bits, with an
optional zone). `Addr.parse` reads the textual forms: dotted quads without
leading zeros, and colon-separated hexadecimal groups with at most one `::`
and an optional trailing dotted quad. Its errors say which rule the text broke
and, where it helps, the rest of the text from the point where reading stopped.

`Addr.render` writes the canonical form: lower-case hexadecimal, the first
longest run of two or more zero groups written `::`, and an IPv4-mapped address
(`::ffff:0:0/96`) as `::ffff:` followed by a dotted quad.

Addresses are ordered by length (IPv4 first), then numerically, then by zone.
-/

namespace NetFleet.Net

/-- An IPv4 or IPv6 address. An IPv6 zone of `""` means no zone. -/
inductive Addr where
  | v4 (bits : BitVec 32)
  | v6 (bits : BitVec 128) (zone : String)
deriving DecidableEq, Inhabited

/-- Why a text is not an address: the rule broken and, when given, the rest of the
text from where reading stopped. -/
structure AddrError where
  input : String
  msg : String
  rest : String := ""
deriving BEq, Inhabited

/-- The message of an address error. -/
def AddrError.message (e : AddrError) : String :=
  "ParseAddr(" ++ Text.quote e.input ++ "): " ++ e.msg ++
    (if e.rest = "" then "" else " (at " ++ Text.quote e.rest ++ ")")

namespace Addr

/-- The number of bits of the address. -/
def bitLen : Addr → Nat
  | .v4 _ => 32
  | .v6 _ _ => 128

/-- The address as a number. -/
def toNat : Addr → Nat
  | .v4 b => b.toNat
  | .v6 b _ => b.toNat

/-- The zone of an IPv6 address, `""` for none. -/
def zone : Addr → String
  | .v4 _ => ""
  | .v6 _ z => z

/-- Whether this is an IPv4 address. -/
def is4 : Addr → Bool
  | .v4 _ => true
  | .v6 _ _ => false

/-- Whether this is an IPv6 address, IPv4-mapped ones included. -/
def is6 (a : Addr) : Bool := !a.is4

/-- Whether this is an IPv4-mapped IPv6 address (`::ffff:a.b.c.d`). -/
def is4In6 : Addr → Bool
  | .v4 _ => false
  | .v6 b _ => b.toNat / Nat.pow 2 32 = 0xffff

/-- An IPv4-mapped address as the IPv4 address it carries; others unchanged. -/
def unmap (a : Addr) : Addr :=
  match a with
  | .v6 b _ => if a.is4In6 then .v4 (BitVec.ofNat 32 (b.toNat % Nat.pow 2 32)) else a
  | .v4 _ => a

/-- The address without its zone. -/
def withoutZone : Addr → Addr
  | .v6 b _ => .v6 b ""
  | a => a

/-- The octets of an IPv4 address, most significant first. -/
def octets (n : Nat) : List Nat :=
  [n / Nat.pow 2 24 % 256, n / Nat.pow 2 16 % 256, n / Nat.pow 2 8 % 256, n % 256]

/-- A dotted quad. -/
def dotted (n : Nat) : String :=
  ".".intercalate ((octets n).map toString)

/-- The eight 16-bit groups of an IPv6 address, most significant first. -/
def groups (n : Nat) : List Nat :=
  (List.range 8).map fun i => n / Nat.pow 2 (16 * (7 - i)) % Nat.pow 2 16

/-- The first longest run of at least two zero groups: its start and length. -/
def zeroRun (gs : List Nat) : Option (Nat × Nat) :=
  let rec go : List Nat → Nat → Option (Nat × Nat) → Option (Nat × Nat)
    | [], _, best => best
    | g :: rest, i, best =>
      if g = 0 then
        let len := 1 + (rest.takeWhile (· = 0)).length
        let best' := match best with
          | some (_, l) => if len ≥ 2 ∧ len > l then some (i, len) else best
          | none => if len ≥ 2 then some (i, len) else none
        go rest (i + 1) best'
      else go rest (i + 1) best
  go gs 0 none

/-- Groups in lower-case hexadecimal without leading zeros, joined by colons. -/
def hexGroups (gs : List Nat) : String :=
  ":".intercalate (gs.map fun g => String.ofList (Nat.toDigits 16 g))

/-- The canonical text of an address. -/
def render : Addr → String
  | .v4 b => dotted b.toNat
  | .v6 b z =>
    let zoneText := if z = "" then "" else "%" ++ z
    if b.toNat / Nat.pow 2 32 = 0xffff then "::ffff:" ++ dotted (b.toNat % Nat.pow 2 32) ++ zoneText
    else
      let gs := groups b.toNat
      let body := match zeroRun gs with
        | some (start, len) =>
          hexGroups (gs.take start) ++ "::" ++ hexGroups (gs.drop (start + len))
        | none => hexGroups gs
      body ++ zoneText

instance : ToString Addr := ⟨render⟩

/-- The order of addresses: by length, then numerically, then by zone. -/
def compare (a b : Addr) : Ordering :=
  match Ord.compare a.bitLen b.bitLen with
  | .eq => match Ord.compare a.toNat b.toNat with
    | .eq => Ord.compare a.zone b.zone
    | o => o
  | o => o

/-- Whether `a` comes before `b`. -/
def lt (a b : Addr) : Bool := compare a b == .lt

/-! ### Reading -/

/-- Read the four fields of a dotted quad `s`, which stands inside `input`. -/
def readQuad (input : String) (s : List Char) : Except AddrError (List Nat) :=
  let n := s.length
  let rec go : List Char → Nat → Option Char → Nat → Nat → List Nat → Except AddrError (List Nat)
    | [], _, _, val, _, fields =>
      if fields.length < 3 then .error { input, msg := "IPv4 address too short" }
      else .ok (fields ++ [val])
    | c :: rest, i, prev, val, digLen, fields =>
      if '0' ≤ c ∧ c ≤ '9' then
        if digLen = 1 ∧ val = 0 then .error { input, msg := "IPv4 field has octet with leading zero" }
        else
          let val' := val * 10 + (c.toNat - '0'.toNat)
          if val' > 255 then .error { input, msg := "IPv4 field has value >255" }
          else go rest (i + 1) (some c) val' (digLen + 1) fields
      else if c = '.' then
        if i = 0 ∨ i = n - 1 ∨ prev = some '.' then
          .error { input, msg := "IPv4 field must have at least one digit", rest := String.ofList (c :: rest) }
        else if fields.length = 3 then .error { input, msg := "IPv4 address too long" }
        else go rest (i + 1) (some c) 0 0 (fields ++ [val])
      else .error { input, msg := "unexpected character", rest := String.ofList (c :: rest) }
  go s 0 none 0 0 []

/-- The number whose big-endian bytes are `bs`. -/
def ofBytes (bs : List Nat) : Nat := bs.foldl (fun acc b => acc * 256 + b) 0

/-- A run of hexadecimal digits at the front of `s`: how many, and their value.
A fifth digit is an error. -/
def readHexField (input : String) (s : List Char) : Except AddrError (Nat × Nat) :=
  let rec go : List Char → Nat → Nat → Except AddrError (Nat × Nat)
    | [], off, acc => .ok (off, acc)
    | c :: rest, off, acc =>
      let d? : Option Nat :=
        if '0' ≤ c ∧ c ≤ '9' then some (c.toNat - '0'.toNat)
        else if 'a' ≤ c ∧ c ≤ 'f' then some (c.toNat - 'a'.toNat + 10)
        else if 'A' ≤ c ∧ c ≤ 'F' then some (c.toNat - 'A'.toNat + 10)
        else none
      match d? with
      | none => .ok (off, acc)
      | some d =>
        if off > 3 then
          .error { input, msg := "each colon-separated field must have at most 4 hex digits",
                   rest := String.ofList s }
        else go rest (off + 1) (acc * 16 + d)
  go s 0 0

/-- The groups of an IPv6 address after any leading `::`. `bytes` holds the bytes
read so far and `ellipsis` the byte position of the `::`, if one was seen. -/
def readGroups (input : String) :
    Nat → List Char → List Nat → Option Nat → Except AddrError (List Char × List Nat × Option Nat)
  | 0, s, bytes, ell => .ok (s, bytes, ell)
  | fuel + 1, s, bytes, ell =>
    if bytes.length ≥ 16 then .ok (s, bytes, ell)
    else do
      let (off, acc) ← readHexField input s
      if off = 0 then
        throw { input, msg := "each colon-separated field must have at least one digit",
                rest := String.ofList s }
      let after := s.drop off
      if after.head? = some '.' then
        if ell.isNone ∧ bytes.length ≠ 12 then
          throw { input, msg := "embedded IPv4 address must replace the final 2 fields of the address",
                  rest := String.ofList s }
        if bytes.length + 4 > 16 then
          throw { input, msg := "too many hex fields to fit an embedded IPv4 at the end of the address",
                  rest := String.ofList s }
        let quad ← readQuad input s
        return ([], bytes ++ quad, ell)
      let bytes := bytes ++ [acc / 256, acc % 256]
      match after with
      | [] => return ([], bytes, ell)
      | c :: rest =>
        if c ≠ ':' then
          throw { input, msg := "unexpected character, want colon", rest := String.ofList after }
        match rest with
        | [] => throw { input, msg := "colon must be followed by more characters", rest := String.ofList after }
        | ':' :: rest' =>
          if ell.isSome then
            throw { input, msg := "multiple :: in address", rest := String.ofList rest }
          match rest' with
          | [] => return ([], bytes, some bytes.length)
          | _ => readGroups input fuel rest' bytes (some bytes.length)
        | _ => readGroups input fuel rest bytes ell

/-- The text before the first percent sign, and the zone after it, if there is one. -/
def splitZone (cs : List Char) : List Char × Option String :=
  match cs.span (· ≠ '%') with
  | (pre, _ :: z) => (pre, some (String.ofList z))
  | (pre, []) => (pre, none)

/-- Read an IPv6 address (the text holds a colon before any dot or percent sign). -/
def readV6 (input : String) : Except AddrError Addr := do
  let (s, zone) := splitZone input.toList
  if zone = some "" then throw { input, msg := "zone must be a non-empty string" }
  let z := zone.getD ""
  let (s, ell) := match s with
    | ':' :: ':' :: r => (r, some 0)
    | r => (r, none)
  if ell.isSome ∧ s.isEmpty then return .v6 0 z
  let (rest, bytes, ell) ← readGroups input 20 s [] ell
  if !rest.isEmpty then
    throw { input, msg := "trailing garbage after address", rest := String.ofList rest }
  let full ← if bytes.length < 16 then
      match ell with
      | none => throw { input, msg := "address string too short" }
      | some e => pure (bytes.take e ++ List.replicate (16 - bytes.length) 0 ++ bytes.drop e)
    else if ell.isSome then
      throw { input, msg := "the :: must expand to at least one field of zeros" }
    else pure bytes
  return .v6 (BitVec.ofNat 128 (ofBytes full)) z

/-- Read an address in either family. The first dot, colon or percent sign
decides how the text is read. -/
def parse (input : String) : Except AddrError Addr :=
  match input.toList.find? (fun c => c = '.' ∨ c = ':' ∨ c = '%') with
  | some '.' => do
    let fields ← readQuad input input.toList
    return .v4 (BitVec.ofNat 32 (ofBytes fields))
  | some ':' => readV6 input
  | some _ => .error { input, msg := "missing IPv6 address" }
  | none => .error { input, msg := "unable to parse IP" }

/-- Read an address; the empty text is the unset address. -/
def parseText (s : String) : Except AddrError (Option Addr) :=
  if s = "" then .ok none else (parse s).map some

end Addr

end NetFleet.Net
