import NetFleet.Text.Quoted
import NetFleet.Text.Utf8

/-!
# URLs of requests

A request's target is a base URL, an endpoint and perhaps a query. Reading it
splits off the fragment at the first `#`, then the query at the first `?`, and
decodes the percent escapes of the path and of the fragment. The part before
the fragment is read first: a control character in it, or an escape in the path
that is not `%` and two hexadecimal digits, makes the target unreadable, and the
message quotes that part only. A bad escape in the fragment is reported with the
whole target.

A target is written back part by part. The path and the fragment keep the
escapes they were written with when every byte of them may stand in that part
(`validIn`); otherwise the decoded text is escaped anew, each byte that may not
stand there as `%XX`. The query is written as it was given, and an empty
fragment is left out.

Queries are made as sorted `key=value` pairs, escaped as form values (a space
becomes `+`).
-/

namespace NetFleet.Http

open NetFleet.Text (bytesOf textOfBytes)

/-- The value of a hexadecimal digit. -/
def hexValue (b : UInt8) : Option Nat :=
  if 48 ≤ b && b ≤ 57 then some (b.toNat - 48)
  else if 65 ≤ b && b ≤ 70 then some (b.toNat - 55)
  else if 97 ≤ b && b ≤ 102 then some (b.toNat - 87)
  else none

/-- Percent escapes decoded; a bad escape is reported by its bytes (the `%` and
at most two following bytes). -/
def unescape : List UInt8 → Except (List UInt8) (List UInt8)
  | [] => .ok []
  | 37 :: rest =>
    match rest with
    | h :: l :: more =>
      match hexValue h, hexValue l with
      | some a, some b => do return (a * 16 + b).toUInt8 :: (← unescape more)
      | _, _ => .error [37, h, l]
    | short => .error (37 :: short)
  | b :: rest => do return b :: (← unescape rest)

/-- The message of a bad escape. -/
def escapeMessage (bad : List UInt8) : String := "invalid URL escape " ++ Text.quoteBytes bad

/-- Whether a byte stands for itself in every part of a URL: letters, digits and
`-_.~`. -/
def isUnreserved (b : UInt8) : Bool :=
  (65 ≤ b && b ≤ 90) || (97 ≤ b && b ≤ 122) || (48 ≤ b && b ≤ 57) ||
    b = 45 || b = 95 || b = 46 || b = 126

/-- The parts of a URL that are escaped, each with the bytes that stand for
themselves in it. -/
inductive Part where
  | path
  | fragment

/-- Whether a byte stands for itself in a part: in a path the reserved bytes
but `?`, in a fragment all of them and `!()*` besides. -/
def Part.keeps : Part → UInt8 → Bool
  | .path, b => isUnreserved b || (bytesOf "$&+,/:;=@").contains b
  | .fragment, b => isUnreserved b || (bytesOf "$&+,/:;=?@!()*").contains b

/-- Whether text already escaped may stand in a part as it is: each byte stands
for itself there, or is a sub-delimiter, a bracket or a `%`. -/
def Part.validIn (p : Part) (bs : List UInt8) : Bool :=
  bs.all fun b => p.keeps b || (bytesOf "!$&'()*+,;=:@[]%").contains b

/-- Upper-case hexadecimal digit. -/
def hexDigit (n : Nat) : Char := if n < 10 then Char.ofNat (48 + n) else Char.ofNat (55 + n)

/-- `%XX` for a byte. -/
def percent (b : UInt8) : String :=
  String.ofList ['%', hexDigit (b.toNat / 16), hexDigit (b.toNat % 16)]

/-- Decoded bytes escaped for a part: each byte that does not stand for itself
there becomes `%XX`. -/
def Part.escape (p : Part) (bs : List UInt8) : String :=
  String.join (bs.map fun b => if p.keeps b then (Char.ofNat b.toNat).toString else percent b)

/-- Text as written for a part: as it is when it is a valid escaped form, else
its decoded bytes escaped anew. -/
def Part.written (p : Part) (raw : String) : String :=
  if p.validIn (bytesOf raw) then raw
  else match unescape (bytesOf raw) with
    | .ok bs => p.escape bs
    | .error _ => raw

/-- A query key or value escaped: a space becomes `+`, other bytes that are not
unreserved become `%XX`. -/
def escapeQuery (s : String) : String :=
  String.join ((bytesOf s).map fun b =>
    if isUnreserved b then (Char.ofNat b.toNat).toString else if b = 32 then "+" else percent b)

/-- A query of keys, each with its values, written with sorted keys. -/
def encodeQuery (params : List (String × List String)) : String :=
  let sorted := params.mergeSort fun a b => decide (a.1 ≤ b.1)
  "&".intercalate (sorted.flatMap fun (k, vs) => vs.map fun v => escapeQuery k ++ "=" ++ escapeQuery v)

/-- A target read as a URL. -/
structure Url where
  /-- scheme and authority, as `http://host` -/
  origin : String
  /-- the escaped path as written -/
  rawPath : String
  /-- the decoded path -/
  path : String
  /-- the query as written, without `?` -/
  query : String
  /-- whether the target ended with a lone `?` -/
  forceQuery : Bool
  /-- the fragment as written, without `#` -/
  fragment : Option String

/-- Whether a text holds a control character. -/
def hasControl (s : String) : Bool := s.toList.any fun c => c.toNat < 32 || c.toNat = 127

/-- Read a target `origin/path?query#fragment` whose origin is known; the error is
the message of the failure. -/
@[irreducible] def Url.parse (origin target : String) : Except String Url := do
  let (main, fragment) := match (target.toList.splitOn '#').map String.ofList with
    | [m] => (m, none)
    | m :: rest => (m, some ("#".intercalate rest))
    | [] => (target, none)
  let wrap := fun (quoted msg : String) => "parse " ++ Text.quote quoted ++ ": " ++ msg
  if hasControl main then throw (wrap main "net/url: invalid control character in URL")
  let afterOrigin := main.toList.drop origin.length
  let questions := (afterOrigin.filter (· = '?')).length
  let (rawPath, query, force) :=
    if afterOrigin.getLast? = some '?' && questions = 1 then
      (String.ofList afterOrigin.dropLast, "", true)
    else match (afterOrigin.splitOn '?').map String.ofList with
      | [p] => (p, "", false)
      | p :: rest => (p, "?".intercalate rest, false)
      | [] => (String.ofList afterOrigin, "", false)
  let path ← match unescape (bytesOf rawPath) with
    | .error bad => throw (wrap main (escapeMessage bad))
    | .ok bs => pure (String.ofList (textOfBytes bs))
  if let some f := fragment then
    if let .error bad := unescape (bytesOf f) then throw (wrap target (escapeMessage bad))
  return ⟨origin, rawPath, path, query, force, fragment⟩

/-- The URL written back. -/
def Url.render (u : Url) : String :=
  u.origin ++ Part.path.written u.rawPath ++
    (if u.query ≠ "" || u.forceQuery then "?" ++ u.query else "") ++
    (match u.fragment with
      | some f => if f = "" then "" else "#" ++ Part.fragment.written f
      | none => "")

end NetFleet.Http
