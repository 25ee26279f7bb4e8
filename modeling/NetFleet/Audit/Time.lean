/-!
# Points in time

A `Stamp` is a point in time with the UTC offset it was written in. Two stamps
compare by the instant they denote; the offset only matters for writing.

The written form is RFC 3339: `2026-01-02T03:04:05.5+01:00`, with `Z` for a zero
offset and the fraction of a second, when not zero, without trailing zeros.
Dates are proleptic Gregorian.
-/

namespace NetFleet.Audit

/-- A point in time: seconds and nanoseconds since 1970-01-01T00:00:00Z, and the
offset east of UTC, in seconds, that it is written in. -/
structure Stamp where
  seconds : Int
  nanos : Nat
  offset : Int
deriving DecidableEq, Inhabited

/-- Days from 1970-01-01 to a civil date. -/
def daysFromCivil (y : Int) (m d : Nat) : Int :=
  let y := if m ≤ 2 then y - 1 else y
  let era := y / 400
  let yoe := y - era * 400
  let mp : Int := if m > 2 then m - 3 else m + 9
  let doy := (153 * mp + 2) / 5 + d - 1
  let doe := yoe * 365 + yoe / 4 - yoe / 100 + doy
  era * 146097 + doe - 719468

/-- The civil date of a day count from 1970-01-01. -/
def civilFromDays (z : Int) : Int × Nat × Nat :=
  let z := z + 719468
  let era := z / 146097
  let doe := z - era * 146097
  let yoe := (doe - doe / 1460 + doe / 36524 - doe / 146096) / 365
  let y := yoe + era * 400
  let doy := doe - (365 * yoe + yoe / 4 - yoe / 100)
  let mp := (5 * doy + 2) / 153
  let d := doy - (153 * mp + 2) / 5 + 1
  let m := if mp < 10 then mp + 3 else mp - 9
  ((if m ≤ 2 then y + 1 else y), m.toNat, d.toNat)

/-- The zero stamp, 0001-01-01T00:00:00Z, which stands for "no time". -/
def Stamp.zero : Stamp := ⟨daysFromCivil 1 1 1 * 86400, 0, 0⟩

/-- Whether a stamp is the zero stamp. -/
def Stamp.isZero (t : Stamp) : Bool := t.seconds = Stamp.zero.seconds && t.nanos = 0

/-- Whether `a` is strictly earlier than `b`. -/
def Stamp.before (a b : Stamp) : Bool :=
  a.seconds < b.seconds || (a.seconds = b.seconds && a.nanos < b.nanos)

/-- The number of a run of digits. -/
def digitsNat (cs : List Char) : Nat := cs.foldl (fun acc c => acc * 10 + (c.toNat - '0'.toNat)) 0

/-- Whether all characters are digits. -/
def allDigits (cs : List Char) : Bool := cs.all fun c => '0' ≤ c && c ≤ '9'

/-- The number of days in a month. -/
def monthDays (y : Int) (m : Nat) : Nat :=
  if m = 2 then (if (y % 4 = 0 ∧ y % 100 ≠ 0) ∨ y % 400 = 0 then 29 else 28)
  else if m = 4 ∨ m = 6 ∨ m = 9 ∨ m = 11 then 30 else 31

/-- The layout that times are read against, as the messages name it. -/
def layoutText : String := "2006-01-02T15:04:05Z07:00"

/-- Why a text is not a time in the layout `2006-01-02T15:04:05Z07:00`. -/
inductive StampError where
  /-- the text from `rest` on does not fit the layout element `elem` -/
  | mismatch (elem : String) (rest : List UInt8)
  /-- a field is outside its range -/
  | outOfRange (field : String)
  /-- text is left after the time -/
  | extra (rest : List UInt8)
deriving BEq

/-- Bytes in quotes for time messages: quotes and backslashes escaped, each byte
outside printable ASCII as `\xNN`. -/
def quoteBytes (bs : List UInt8) : String :=
  let hex := "0123456789abcdef".toList
  "\"" ++ String.join (bs.map fun b =>
    if b ≥ 0x80 || b < 0x20 then
      "\\x" ++ (hex.getD (b.toNat / 16) '0').toString ++ (hex.getD (b.toNat % 16) '0').toString
    else if b = 0x22 || b = 0x5c then "\\" ++ (Char.ofNat b.toNat).toString
    else (Char.ofNat b.toNat).toString) ++ "\""

/-- The message of a time that could not be read from `text`. -/
def StampError.message (text : String) : StampError → String
  | .mismatch elem rest =>
    "parsing time " ++ quoteBytes text.toUTF8.toList ++ " as " ++ quoteBytes layoutText.toUTF8.toList ++
      ": cannot parse " ++ quoteBytes rest ++ " as " ++ quoteBytes elem.toUTF8.toList
  | .outOfRange field => "parsing time " ++ quoteBytes text.toUTF8.toList ++ ": " ++ field ++ " out of range"
  | .extra rest => "parsing time " ++ quoteBytes text.toUTF8.toList ++ ": extra text: " ++ quoteBytes rest

/-- Whether a byte is an ASCII digit. -/
def isDigitByte (b : UInt8) : Bool := 0x30 ≤ b && b ≤ 0x39

/-- The value of digit bytes. -/
def digitBytesNat (bs : List UInt8) : Nat := bs.foldl (fun acc b => acc * 10 + (b.toNat - 0x30)) 0

/-- A number of two digits at the front, or of one digit followed by a
non-digit when `fixed` is off; the rest after it. -/
def frontNumber (fixed : Bool) : List UInt8 → Option (Nat × List UInt8)
  | a :: b :: r =>
    if !isDigitByte a then none
    else if isDigitByte b then some (digitBytesNat [a, b], r)
    else if fixed then none
    else some (digitBytesNat [a], b :: r)
  | [a] => if isDigitByte a && !fixed then some (digitBytesNat [a], []) else none
  | [] => none

/-- A number for the layout element `elem` at the front. -/
def number (elem : String) (fixed : Bool) (bs : List UInt8) : Except StampError (Nat × List UInt8) :=
  match frontNumber fixed bs with
  | some r => .ok r
  | none => .error (.mismatch elem bs)

/-- A literal separator at the front. -/
def separator (c : Char) (bs : List UInt8) : Except StampError (List UInt8) :=
  match bs with
  | b :: r => if b.toNat = c.toNat then .ok r else .error (.mismatch c.toString bs)
  | [] => .error (.mismatch c.toString bs)

/-- The fraction of a second at the front, as nanoseconds: a period or comma
and digits, of which the first nine count. -/
def fraction (bs : List UInt8) : Nat × List UInt8 :=
  match bs with
  | s :: d :: r =>
    if (s = 0x2e || s = 0x2c) && isDigitByte d then
      let ds := d :: r.takeWhile isDigitByte
      let kept := ds.take 9
      (digitBytesNat kept * Nat.pow 10 (9 - kept.length), r.dropWhile isDigitByte)
    else (0, bs)
  | _ => (0, bs)

/-- The zone at the front: `Z`, or a sign, hours, a colon and minutes, as an
offset in seconds east of UTC. Hours up to 24 and minutes up to 60 are taken;
when both are past that, the minutes are blamed. -/
def zone (bs : List UInt8) : Except StampError (Int × List UInt8) :=
  let bad : Except StampError (Int × List UInt8) := .error (.mismatch "Z07:00" bs)
  match bs with
  | 0x5a :: r => .ok (0, r)
  | s :: h1 :: h2 :: c :: m1 :: m2 :: r =>
    if c ≠ 0x3a then bad
    else if !(isDigitByte h1 && isDigitByte h2) then bad
    else
      let h := digitBytesNat [h1, h2]
      let mOk := isDigitByte m1 && isDigitByte m2
      let m := if mOk then digitBytesNat [m1, m2] else 0
      if m > 60 then .error (.outOfRange "time zone offset minute")
      else if h > 24 then .error (.outOfRange "time zone offset hour")
      else if !mOk then bad
      else
        let off : Int := ((h * 60 + m) * 60 : Nat)
        if s = 0x2b then .ok (off, r) else if s = 0x2d then .ok (-off, r) else bad
  | _ => bad

/-- Read a time in the layout `2006-01-02T15:04:05Z07:00`: a four-digit year,
two-digit month, day, minute and second, an hour of one or two digits, an
optional fraction after a period or comma, and a zone. Each field is checked
against its range as it is read; the day against its month last. -/
def Stamp.read (text : String) : Except StampError Stamp := do
  let bs := text.toUTF8.toList
  let (year, bs) ← match bs with
    | a :: b :: c :: d :: r =>
      if [a, b, c, d].all isDigitByte then pure (digitBytesNat [a, b, c, d], r)
      else throw (.mismatch "2006" bs)
    | _ => throw (.mismatch "2006" bs)
  let bs ← separator '-' bs
  let (month, bs) ← number "01" true bs
  if month < 1 ∨ month > 12 then throw (.outOfRange "month")
  let bs ← separator '-' bs
  let (day, bs) ← number "02" true bs
  let bs ← separator 'T' bs
  let (hour, bs) ← number "15" false bs
  if hour ≥ 24 then throw (.outOfRange "hour")
  let bs ← separator ':' bs
  let (minute, bs) ← number "04" true bs
  if minute ≥ 60 then throw (.outOfRange "minute")
  let bs ← separator ':' bs
  let (second, bs) ← number "05" true bs
  if second ≥ 60 then throw (.outOfRange "second")
  let (nanos, bs) := fraction bs
  let (offset, bs) ← zone bs
  if bs ≠ [] then throw (.extra bs)
  if day < 1 ∨ day > monthDays year month then throw (.outOfRange "day")
  let wall := daysFromCivil year month day * 86400 + (hour * 3600 + minute * 60 + second : Nat)
  return ⟨wall - offset, nanos, offset⟩

/-- Read a time, with the message of why it could not be read. -/
def Stamp.parse (text : String) : Except String Stamp :=
  (Stamp.read text).mapError (·.message text)

/-- Read a time, if it can be read. -/
def Stamp.parse? (text : String) : Option Stamp := (Stamp.read text).toOption

/-- Two digits. -/
def pad2 (n : Nat) : String := if n < 10 then "0" ++ toString n else toString n

/-- At least four digits. -/
def pad4 (n : Nat) : String :=
  let s := toString n
  String.ofList (List.replicate (4 - s.length) '0') ++ s

/-- The RFC 3339 form of a stamp, with as many fraction digits as it needs. -/
def Stamp.render (t : Stamp) : String :=
  let wall := t.seconds + t.offset
  let days := wall / 86400
  let secs := (wall - days * 86400).toNat
  let (y, m, d) := civilFromDays days
  let frac :=
    if t.nanos = 0 then ""
    else
      let ds := (toString (t.nanos + 1000000000)).toList.drop 1
      "." ++ String.ofList (ds.reverse.dropWhile (· = '0')).reverse
  let zone :=
    if t.offset = 0 then "Z"
    else
      let a := t.offset.natAbs
      (if t.offset < 0 then "-" else "+") ++ pad2 (a / 3600) ++ ":" ++ pad2 (a % 3600 / 60)
  pad4 y.toNat ++ "-" ++ pad2 m ++ "-" ++ pad2 d ++ "T" ++ pad2 (secs / 3600) ++ ":" ++
    pad2 (secs % 3600 / 60) ++ ":" ++ pad2 (secs % 60) ++ frac ++ zone

/-- The RFC 3339 form of a stamp for storing, refused when the form would not be
valid RFC 3339: a year outside four digits or a zone of 24 hours or more. -/
def Stamp.encode (t : Stamp) : Except String String :=
  let (y, _, _) := civilFromDays ((t.seconds + t.offset) / 86400)
  if y < 0 ∨ y > 9999 then .error "year outside of range [0,9999]"
  else if t.offset.natAbs / 3600 ≥ 24 then .error "timezone hour outside of range [0,23]"
  else .ok t.render

end NetFleet.Audit
