import NetFleet.Json.Value
import NetFleet.Text.Quoted

/-!
# Writing JSON text

`Json.render` writes a value compactly, members in the order they are held and
numbers with their literal text. Strings escape the quote, the backslash, control
characters and the line and paragraph separators U+2028 and U+2029; with
`Escaping.html` they also escape `<`, `>` and `&`, so that the text can stand
inside markup. `Json.renderIndented` writes one member or item per line.
-/

namespace NetFleet

/-- Which characters a string escapes beyond those JSON requires. -/
inductive Escaping where
  /-- Only what JSON requires, and the two line separators. -/
  | plain
  /-- Also `<`, `>` and `&`. -/
  | html
deriving BEq, Inhabited

namespace Json

/-- The escaped form of one character of a string. -/
def escapeChar (esc : Escaping) (c : Char) : String :=
  match c with
  | '"' => "\\\""
  | '\\' => "\\\\"
  | '\n' => "\\n"
  | '\r' => "\\r"
  | '\t' => "\\t"
  | '\x08' => "\\b"
  | '\x0c' => "\\f"
  | _ =>
    if c.toNat < 0x20 || c.toNat = 0x2028 || c.toNat = 0x2029 then "\\u" ++ Text.hexPad 4 c.toNat
    else if esc == .html && (c = '<' || c = '>' || c = '&') then "\\u" ++ Text.hexPad 4 c.toNat
    else c.toString

/-- A string in JSON quotes. -/
def quote (esc : Escaping) (s : String) : String :=
  "\"" ++ String.join (s.toList.map (escapeChar esc)) ++ "\""

mutual

/-- A value written compactly. -/
def render (esc : Escaping) : Json → String
  | .null => "null"
  | .bool true => "true"
  | .bool false => "false"
  | .num lit => lit
  | .str s => quote esc s
  | .arr xs => "[" ++ renderItems esc xs ++ "]"
  | .obj ms => "\x7b" ++ renderMembers esc ms ++ "\x7d"

/-- Items separated by commas. -/
def renderItems (esc : Escaping) : List Json → String
  | [] => ""
  | [x] => render esc x
  | x :: xs => render esc x ++ "," ++ renderItems esc xs

/-- Members separated by commas. -/
def renderMembers (esc : Escaping) : List (String × Json) → String
  | [] => ""
  | [(k, v)] => quote esc k ++ ":" ++ render esc v
  | (k, v) :: ms => quote esc k ++ ":" ++ render esc v ++ "," ++ renderMembers esc ms

end

/-- The line break and indentation for nesting depth `d`. -/
def newline (unit : String) (d : Nat) : String :=
  "\n" ++ String.join (List.replicate d unit)

mutual

/-- A value written with one item or member per line, each nested level indented
by `unit` more than the one around it. Empty arrays and objects stay `[]`, `{}`. -/
def renderIndented (esc : Escaping) (unit : String) (d : Nat) : Json → String
  | .arr [] => "[]"
  | .obj [] => "\x7b\x7d"
  | .arr xs => "[" ++ indentedItems esc unit (d + 1) xs ++ newline unit d ++ "]"
  | .obj ms => "\x7b" ++ indentedMembers esc unit (d + 1) ms ++ newline unit d ++ "\x7d"
  | j => render esc j

/-- Items on lines of their own. -/
def indentedItems (esc : Escaping) (unit : String) (d : Nat) : List Json → String
  | [] => ""
  | [x] => newline unit d ++ renderIndented esc unit d x
  | x :: xs => newline unit d ++ renderIndented esc unit d x ++ "," ++ indentedItems esc unit d xs

/-- Members on lines of their own. -/
def indentedMembers (esc : Escaping) (unit : String) (d : Nat) : List (String × Json) → String
  | [] => ""
  | [(k, v)] => newline unit d ++ quote esc k ++ ": " ++ renderIndented esc unit d v
  | (k, v) :: ms =>
    newline unit d ++ quote esc k ++ ": " ++ renderIndented esc unit d v ++ "," ++
      indentedMembers esc unit d ms

end

end Json

end NetFleet
