import NetFleet.Text.Category
import NetFleet.Text.Utf8

/-!
# Quoted text

The double-quoted form in which messages show a piece of text: a quote and a
backslash are escaped, printable characters stand as they are, the usual control
characters take their one-letter escapes, and every other character is written
as a hexadecimal escape (`\x1b`, ` `, `\U000f0000`). Bytes that are no text (`quoteBytes`) keep their
valid characters and write each stray byte as `\xNN`.

Printability follows the Unicode categories (`isPrintable`).
-/

namespace NetFleet.Text

/-- Lower-case hexadecimal digits of `n`, padded with zeros to `width`. -/
def hexPad (width n : Nat) : String :=
  let ds := Nat.toDigits 16 n
  String.ofList (List.replicate (width - ds.length) '0' ++ ds)

/-- The escaped form of one character inside text quoted by `q`; with
`asciiOnly`, printable characters beyond ASCII are escaped too. -/
def escapeRune (q : Char) (asciiOnly : Bool) (c : Char) : String :=
  if c = q then "\\" ++ c.toString
  else if c = '\\' then "\\\\"
  else if isPrintable c && (!asciiOnly || c.toNat < 0x80) then c.toString
  else match c with
    | '\x07' => "\\a"
    | '\x08' => "\\b"
    | '\x0c' => "\\f"
    | '\n' => "\\n"
    | '\r' => "\\r"
    | '\t' => "\\t"
    | '\x0b' => "\\v"
    | _ =>
      if c.toNat < 0x80 then "\\x" ++ hexPad 2 c.toNat
      else if c.toNat < 0x10000 then "\\u" ++ hexPad 4 c.toNat
      else "\\U" ++ hexPad 8 c.toNat

/-- The escaped form of one character inside text quoted by `q`. -/
def escapeChar (q : Char) (c : Char) : String := escapeRune q false c

/-- Text in double quotes, escaped as described in the module header. -/
def quote (s : String) : String :=
  "\"" ++ String.join (s.toList.map (escapeChar '"')) ++ "\""

/-- Text in double quotes with every character beyond ASCII escaped. -/
def quoteAscii (s : String) : String :=
  "\"" ++ String.join (s.toList.map (escapeRune '"' true)) ++ "\""

/-- The escaped forms of the characters that bytes encode; a byte that starts no
valid UTF-8 sequence is written `\xNN`. -/
def escapeBytes : List UInt8 → String
  | [] => ""
  | b :: rest =>
    match decodeOne b rest with
    | some (c, n) => escapeChar '"' c ++ escapeBytes (rest.drop n)
    | none => "\\x" ++ hexPad 2 b.toNat ++ escapeBytes rest
termination_by bs => bs.length
decreasing_by all_goals simp only [List.length_drop, List.length_cons]; omega

/-- Bytes in double quotes: the text they encode, quoted as `quote` does, with
each byte outside a valid UTF-8 sequence as a hexadecimal escape. -/
def quoteBytes (bs : List UInt8) : String := "\"" ++ escapeBytes bs ++ "\""

/-- One character in single quotes, as syntax errors show the character they
stopped at. -/
def quoteChar (c : Char) : String := "'" ++ escapeRune '\'' false c ++ "'"

/-- One character in single quotes, escaped when it is beyond ASCII. -/
def quoteCharAscii (c : Char) : String := "'" ++ escapeRune '\'' true c ++ "'"

end NetFleet.Text
