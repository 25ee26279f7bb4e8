import NetFleet.Json.Parse

/-!
# JSON kept as text

Some values are stored as the text they were written in and copied without being
read: numbers keep their digits and strings their escapes. `Json.rawMembers`
takes the text of an object apart into each member's name and the text of its
value, and `Json.compactText` drops the blanks between tokens and escapes `<`,
`>`, `&` and the two line separators inside strings, leaving everything else as
written. Both expect text that reads as JSON.
-/

namespace NetFleet.Json

/-- The rest of a string after its opening quote: the characters up to and
including the closing quote, and what follows. -/
def stringSpan : List Char → List Char × List Char
  | [] => ([], [])
  | '\\' :: c :: rest => let (s, r) := stringSpan rest; ('\\' :: c :: s, r)
  | '"' :: rest => (['"'], rest)
  | c :: rest => let (s, r) := stringSpan rest; (c :: s, r)

/-- The text of one value at the start of `cs`, and what follows it. `depth`
counts the brackets opened within the value so far. -/
def valueSpan (fuel : Nat) (depth : Nat) (cs : List Char) : List Char × List Char :=
  match fuel with
  | 0 => ([], cs)
  | fuel + 1 =>
    match cs with
    | [] => ([], [])
    | '"' :: rest =>
      let (s, r) := stringSpan rest
      if depth = 0 then ('"' :: s, r)
      else let (t, r') := valueSpan fuel depth r; ('"' :: s ++ t, r')
    | c :: rest =>
      if c = '{' || c = '[' then
        let (t, r) := valueSpan fuel (depth + 1) rest; (c :: t, r)
      else if c = '}' || c = ']' then
        if depth = 0 then ([], cs)
        else if depth = 1 then ([c], rest)
        else let (t, r) := valueSpan fuel (depth - 1) rest; (c :: t, r)
      else if depth = 0 && (c = ',' || isBlank c) then ([], cs)
      else let (t, r) := valueSpan fuel depth rest; (c :: t, r)

/-- The members of an object's text after its opening brace: names read, values
as text. -/
def memberSpans (fuel : Nat) (cs : List Char) : List (String × String) :=
  match fuel with
  | 0 => []
  | fuel + 1 =>
    match skipBlanks cs with
    | '"' :: rest =>
      let (keyText, r) := stringSpan rest
      let key := match parse (String.ofList ('"' :: keyText)) with
        | .ok (.str k) => k
        | _ => String.ofList keyText
      let r := match skipBlanks r with
        | ':' :: r' => skipBlanks r'
        | r' => r'
      let (v, r) := valueSpan (r.length + 1) 0 r
      let entry := (key, String.ofList v)
      match skipBlanks r with
      | ',' :: more => entry :: memberSpans fuel more
      | _ => [entry]
    | _ => []

/-- The members of the text of an object, each value as written. -/
def rawMembers (s : String) : List (String × String) :=
  match skipBlanks s.toList with
  | '{' :: rest => memberSpans (rest.length + 1) rest
  | _ => []

/-- Characters escaped inside strings of compacted text. -/
def compactEscape (c : Char) : String :=
  if c = '<' || c = '>' || c = '&' || c.toNat = 0x2028 || c.toNat = 0x2029 then
    "\\u" ++ Text.hexPad 4 c.toNat
  else c.toString

/-- Compact the text of a value: outside strings blanks go, inside strings only
`<`, `>`, `&` and the line separators change. `inString` tells whether the text
starts inside a string. -/
def compactChars (inString : Bool) : List Char → String
  | [] => ""
  | '\\' :: c :: rest =>
    if inString then "\\" ++ c.toString ++ compactChars true rest
    else "\\" ++ compactChars false (c :: rest)
  | '"' :: rest => "\"" ++ compactChars (!inString) rest
  | c :: rest =>
    if inString then compactEscape c ++ compactChars true rest
    else if isBlank c then compactChars false rest
    else c.toString ++ compactChars false rest

/-- The compact text of a value. -/
def compactText (s : String) : String := compactChars false s.toList

end NetFleet.Json
