/-!
# UTF-8 bytes

Texts and the bytes that encode them in UTF-8. `decodeOne` reads one character
from a lead byte and the bytes after it, refusing overlong forms, surrogates
and code points beyond the Unicode range; `textOfBytes` reads a whole byte list,
each byte that starts no valid sequence standing for the replacement character.
-/

namespace NetFleet.Text

/-- The UTF-8 bytes of a text. -/
def bytesOf (s : String) : List UInt8 := s.toUTF8.toList

/-- Whether `b` continues a multi-byte UTF-8 sequence. -/
def isContinuation (b : UInt8) : Bool := b &&& 0xC0 == 0x80

/-- The character that the lead byte `b` and the bytes after it encode, with the
number of bytes after `b` that it takes; `none` when they encode none. -/
def decodeOne (b : UInt8) (rest : List UInt8) : Option (Char × Nat) :=
  if b < 0x80 then some (Char.ofNat b.toNat, 0)
  else match rest with
    | c :: r =>
      if 0xC2 ≤ b && b ≤ 0xDF && isContinuation c then
        some (Char.ofNat ((b.toNat &&& 0x1F) * 64 + (c.toNat &&& 0x3F)), 1)
      else match r with
        | d :: r' =>
          let lo : UInt8 := if b = 0xE0 then 0xA0 else 0x80
          let hi : UInt8 := if b = 0xED then 0x9F else 0xBF
          if 0xE0 ≤ b && b ≤ 0xEF && lo ≤ c && c ≤ hi && isContinuation d then
            some (Char.ofNat ((b.toNat &&& 0x0F) * 4096 + (c.toNat &&& 0x3F) * 64 + (d.toNat &&& 0x3F)), 2)
          else match r' with
            | e :: _ =>
              let lo4 : UInt8 := if b = 0xF0 then 0x90 else 0x80
              let hi4 : UInt8 := if b = 0xF4 then 0x8F else 0xBF
              if 0xF0 ≤ b && b ≤ 0xF4 && lo4 ≤ c && c ≤ hi4 && isContinuation d && isContinuation e then
                some (Char.ofNat ((b.toNat &&& 0x07) * 262144 + (c.toNat &&& 0x3F) * 4096 +
                  (d.toNat &&& 0x3F) * 64 + (e.toNat &&& 0x3F)), 3)
              else none
            | [] => none
        | [] => none
    | [] => none

/-- Text from bytes; each byte that starts no valid UTF-8 sequence becomes the
replacement character. -/
def textOfBytes : List UInt8 → List Char
  | [] => []
  | b :: rest =>
    match decodeOne b rest with
    | some (c, n) => c :: textOfBytes (rest.drop n)
    | none => '�' :: textOfBytes rest
termination_by bs => bs.length
decreasing_by all_goals simp only [List.length_drop, List.length_cons]; omega

end NetFleet.Text
