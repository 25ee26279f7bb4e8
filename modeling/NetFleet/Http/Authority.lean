import NetFleet.Http.Url
import NetFleet.Text.Cut
import NetFleet.Net.Addr

/-!
# Service URLs

A service is named by an absolute URL with a host: `scheme://host[:port]/…`.
`Http.serviceUrl?` reads such a URL as a URL reader does and gives its scheme
and host, or `none` when the text is no URL. The reader refuses control
characters, a colon at the very start, a first path segment with a colon in a
URL without a scheme, a port that is not all digits, characters that may not
stand in a host, percent escapes of ASCII bytes in a host (but `%25`), user
information with characters it may not hold, and bad percent escapes anywhere.
A URL without `//` after its scheme has no host.

A host with a `[` names an IP literal: it starts with its only `[`, and what
stands between that and the last `]` must be an IPv6 address (an IPv4-mapped one included), optionally
with a zone after `%25` in which any byte that may stand in a host, or a
space, may be escaped; only a port may follow the `]`.
-/

namespace NetFleet.Http

open NetFleet.Text (bytesOf)

/-- The scheme at the start of a URL and the rest; no scheme when the text does
not start with one; an error for a colon at the very start. -/
def schemeOf (s : String) : Except Unit (String × String) :=
  let cs := s.toList
  let isLetter (c : Char) : Bool := ('a' ≤ c && c ≤ 'z') || ('A' ≤ c && c ≤ 'Z')
  let rec go (i : Nat) : List Char → Except Unit (String × String)
    | [] => .ok ("", s)
    | c :: rest =>
      if isLetter c then go (i + 1) rest
      else if ('0' ≤ c && c ≤ '9') || c = '+' || c = '-' || c = '.' then
        if i = 0 then .ok ("", s) else go (i + 1) rest
      else if c = ':' then
        if i = 0 then .error () else .ok (String.ofList (cs.take i), String.ofList rest)
      else .ok ("", s)
  go 0 cs

/-- Whether a port after a host is empty or `:` and digits. -/
def validOptionalPort (p : String) : Bool :=
  match p.toList with
  | [] => true
  | ':' :: ds => ds.all fun c => '0' ≤ c && c ≤ '9'
  | _ => false

/-- Whether an ASCII byte may stand in a host as it is. -/
def hostSafe (b : UInt8) : Bool :=
  isUnreserved b || (bytesOf "!$&'()*+,;=:[]<>\"").contains b

/-- Whether a host's escapes and characters are acceptable. -/
def hostChars : List UInt8 → Bool
  | [] => true
  | 37 :: h :: l :: rest =>
    match hexValue h, hexValue l with
    | some a, some _ => (a ≥ 8 || (h = 50 && l = 53)) && hostChars rest
    | _, _ => false
  | 37 :: _ => false
  | b :: rest => (b ≥ 0x80 || hostSafe b) && hostChars rest

/-- Whether a zone's escapes and characters are acceptable: an escape stands for
a byte that may stand in a host as it is, a space, or is `%25`. -/
def zoneChars : List UInt8 → Bool
  | [] => true
  | 37 :: h :: l :: rest =>
    match hexValue h, hexValue l with
    | some a, some b =>
      let v := a * 16 + b
      ((h = 50 && l = 53) || v = 32 || (v < 0x80 && hostSafe v.toUInt8)) && zoneChars rest
    | _, _ => false
  | 37 :: _ => false
  | b :: rest => (b ≥ 0x80 || hostSafe b) && zoneChars rest

/-- The position of the last occurrence of a character. -/
def lastIndexOf (cs : List Char) (c : Char) : Option Nat :=
  (cs.reverse.findIdx? (· = c)).map fun j => cs.length - 1 - j

/-- Whether the text between the brackets of an IP literal is an IPv6 address,
with an optional zone after `%25`. -/
def validLiteral (name : List UInt8) : Bool :=
  let (part, zonePart) := splitAtZone [] name
  let charsOk := hostChars part && zoneChars zonePart
  charsOk && match unescape name with
    | .ok bs =>
      match Net.Addr.parse (String.ofList (Text.textOfBytes bs)) with
      | .ok a => !a.is4
      | .error _ => false
    | .error _ => false
where
  /-- The bytes before the first `%25` and the rest from it on. -/
  splitAtZone (acc : List UInt8) : List UInt8 → List UInt8 × List UInt8
    | [] => (acc.reverse, [])
    | 37 :: 50 :: 53 :: rest => (acc.reverse, 37 :: 50 :: 53 :: rest)
    | b :: rest => splitAtZone (b :: acc) rest

/-- Whether every percent escape is two hexadecimal digits. -/
def escapesValid (bs : List UInt8) : Bool :=
  match unescape bs with
  | .ok _ => true
  | .error _ => false

/-- Whether user information holds only the characters it may. -/
def validUserinfo (s : String) : Bool :=
  s.toList.all fun c =>
    ('A' ≤ c && c ≤ 'Z') || ('a' ≤ c && c ≤ 'z') || ('0' ≤ c && c ≤ '9') ||
      "-._:~!$&'()*+,;=%@".toList.contains c

/-- The host of an authority `user@host:port`, `none` when it is not valid. -/
def hostOf (authority : String) : Option String :=
  let cs := authority.toList
  let at_ := cs.reverse.findIdx? (· = '@')
  let (user, host) := match at_ with
    | some j =>
      let i := cs.length - 1 - j
      (some (String.ofList (cs.take i)), String.ofList (cs.drop (i + 1)))
    | none => (none, authority)
  let hs := host.toList
  let hostOk :=
    match lastIndexOf hs '[' with
    | some o =>
      match lastIndexOf hs ']' with
      | some c =>
        o = 0 && o < c && validOptionalPort (String.ofList (hs.drop (c + 1))) &&
          validLiteral (bytesOf (String.ofList ((hs.take c).drop (o + 1))))
      | none => false
    | none =>
      let port := match host.toList.reverse.findIdx? (· = ':') with
        | some j => String.ofList (host.toList.drop (host.length - 1 - j))
        | none => ""
      validOptionalPort port && hostChars (bytesOf host)
  let userOk := match user with
    | some u => validUserinfo u && escapesValid (bytesOf u)
    | none => true
  if hostOk && userOk then
    if hs.contains '[' then some host
    else match unescape (bytesOf host) with
      | .ok bs => some (String.ofList (Text.textOfBytes bs))
      | .error _ => none
  else none

/-- The scheme and host of a URL, or `none` when it is not a URL. -/
def serviceUrl? (raw : String) : Option (String × String) := do
  let (main, frag) := match Text.cut raw "#" with
    | some (m, f) => (m, f)
    | none => (raw, "")
  if !escapesValid (bytesOf frag) then none
  if hasControl main then none
  let (scheme, rest) ← match schemeOf main with
    | .ok r => some r
    | .error _ => none
  let rest := match Text.cut rest "?" with
    | some (r, _) => r
    | none => rest
  if !rest.startsWith "/" then
    if scheme ≠ "" then return (scheme, "")
    else
      let segment := match Text.cut rest "/" with
        | some (seg, _) => seg
        | none => rest
      if segment.toList.contains ':' then none
  let (host, path) ←
    if rest.startsWith "//" && (scheme ≠ "" || !rest.startsWith "///") then
      let auth := (rest.drop 2).toString
      let (a, p) := match Text.cut auth "/" with
        | some (a, p) => (a, "/" ++ p)
        | none => (auth, "")
      match hostOf a with
      | some h => some (h, p)
      | none => none
    else some ("", rest)
  if !escapesValid (bytesOf path) then none
  return (scheme.toLower, host)

/-- Whether a text is a URL with a scheme and a host. -/
def isServiceUrl (raw : String) : Bool :=
  match serviceUrl? raw with
  | some (scheme, host) => scheme ≠ "" && host ≠ ""
  | none => false

end NetFleet.Http
