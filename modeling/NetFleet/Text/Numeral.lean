import NetFleet.Text.Quoted

/-!
# Integers and booleans written as text

`readInt` reads a decimal integer of 64 bits with an optional sign. A text that
is no integer reads as zero with a syntax error; a text beyond the range reads
as the nearest bound with a range error. The scan stops at the first digit
that leaves the range, so what follows it is not looked at. `readBool` accepts
`1 t T TRUE true True` and `0 f F FALSE false False`; anything else reads as
false with a syntax error.

Errors are the messages of the reader, naming the function that read and
quoting the text: `strconv.Atoi: parsing "x": invalid syntax`.
-/

namespace NetFleet.Text

/-- The message of a failed reading. -/
def numError (fn text what : String) : String :=
  "strconv." ++ fn ++ ": parsing " ++ quote text ++ ": " ++ what

/-- The sign at the head of a number, `-` or `+`, and the text after it:
whether the number is negative. -/
def splitSign : List Char → Bool × List Char
  | '-' :: r => (true, r)
  | '+' :: r => (false, r)
  | r => (false, r)

/-- The value of the digits of `cs`, unless a character is no digit (`none`) or
the value reaches `2^64` before the digits end (`some none`). -/
def unsignedDigits (cs : List Char) : Option (Option Nat) :=
  let rec go (n : Nat) : List Char → Option (Option Nat)
    | [] => some (some n)
    | c :: rest =>
      if '0' ≤ c && c ≤ '9' then
        let n' := n * 10 + (c.toNat - 48)
        if n' ≥ Nat.pow 2 64 then some none else go n' rest
      else none
  if cs.isEmpty then none else go 0 cs

/-- A decimal integer of 64 bits, and the error of reading it. -/
def readInt (s : String) : Int × Option String :=
  let bad := (0, some (numError "Atoi" s "invalid syntax"))
  let range (v : Int) := (v, some (numError "Atoi" s "value out of range"))
  let (neg, digits) := splitSign s.toList
  match unsignedDigits digits with
  | none => bad
  | some none => range (if neg then -(Int.pow 2 63) else Int.pow 2 63 - 1)
  | some (some n) =>
    if !neg && n ≥ Nat.pow 2 63 then range (Int.pow 2 63 - 1)
    else if neg && n > Nat.pow 2 63 then range (-(Int.pow 2 63))
    else ((if neg then -(n : Int) else n), none)

/-- A boolean, and the error of reading it. -/
def readBool (s : String) : Bool × Option String :=
  if ["1", "t", "T", "TRUE", "true", "True"].contains s then (true, none)
  else if ["0", "f", "F", "FALSE", "false", "False"].contains s then (false, none)
  else (false, some (numError "ParseBool" s "invalid syntax"))

end NetFleet.Text
