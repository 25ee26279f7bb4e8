import NetFleet.Json.Value
import NetFleet.Text.Quoted

/-!
# Reading JSON text

`Json.parse` reads a whole text holding one JSON value, and `Json.parseFirst`
reads the first value of a stream and returns what follows it. Both read left to
right and stop at the first character that cannot continue the text; the error
then names that character and what was being looked for, in the words of
`SyntaxError.message`.

Number literals are checked against the JSON grammar and kept as written. String
escapes are decoded; an escaped surrogate without its partner reads as U+FFFD.

Arrays and objects nest at most `maxDepth` deep: the bracket or brace that
would open one more level is an error of its own.

Every step of the reader consumes at least one character, so a fuel of one more
than the length of the text is never used up; the entry points supply it.
-/

namespace NetFleet

/-- Why a text is not JSON. -/
inductive SyntaxError where
  /-- The text ended inside a value. -/
  | truncated
  /-- The text holds no value at all (only blanks), where a stream was read. -/
  | empty
  /-- Character `c` cannot continue the text; `context` says what was expected. -/
  | unexpected (c : Char) (context : String)
  /-- An array or object opens inside `maxDepth` others. -/
  | tooDeep
deriving BEq, Inhabited

namespace SyntaxError

/-- The message of a syntax error found while reading a whole text. -/
def message : SyntaxError → String
  | .truncated => "unexpected end of JSON input"
  | .empty => "unexpected end of JSON input"
  | .unexpected c ctx => "invalid character " ++ Text.quoteChar c ++ " " ++ ctx
  | .tooDeep => "exceeded max depth"

/-- The message of a syntax error found while reading the first value of a
stream: an empty stream reads as its end, a cut value as an early end. -/
def streamMessage : SyntaxError → String
  | .truncated => "unexpected EOF"
  | .empty => "EOF"
  | e => e.message

end SyntaxError

namespace Json

/-- The deepest nesting of arrays and objects that is read. -/
def maxDepth : Nat := 10000

/-- Blanks between tokens. -/
def isBlank (c : Char) : Bool := c = ' ' || c = '\t' || c = '\n' || c = '\r'

/-- The text after leading blanks. -/
def skipBlanks : List Char → List Char
  | [] => []
  | c :: cs => if isBlank c then skipBlanks cs else c :: cs

/-- The value of a hexadecimal digit. -/
def hexVal? (c : Char) : Option Nat :=
  if '0' ≤ c ∧ c ≤ '9' then some (c.toNat - '0'.toNat)
  else if 'a' ≤ c ∧ c ≤ 'f' then some (c.toNat - 'a'.toNat + 10)
  else if 'A' ≤ c ∧ c ≤ 'F' then some (c.toNat - 'A'.toNat + 10)
  else none

/-- Four hexadecimal digits after `\u`: the first character that is not one is
the error, and the end of the text cuts the escape. -/
def readHex4 (cs : List Char) : Except SyntaxError (Nat × List Char) :=
  let rec go : Nat → Nat → List Char → Except SyntaxError (Nat × List Char)
    | 0, acc, rest => .ok (acc, rest)
    | _ + 1, _, [] => .error .truncated
    | k + 1, acc, c :: rest =>
      match hexVal? c with
      | some v => go k (acc * 16 + v) rest
      | none => .error (.unexpected c "in \\u hexadecimal character escape")
  go 4 0 cs

/-- Whether a code unit is the first half of a surrogate pair. -/
def isHighSurrogate (n : Nat) : Bool := 0xD800 ≤ n && n < 0xDC00

/-- Whether a code unit is the second half of a surrogate pair. -/
def isLowSurrogate (n : Nat) : Bool := 0xDC00 ≤ n && n < 0xE000

/-- The character of a `\u` escape that starts at `cs` (after the `u`): a high
surrogate followed by an escaped low surrogate makes one character, and any
other surrogate reads as U+FFFD. -/
def readUnicodeEscape (cs : List Char) : Except SyntaxError (Char × List Char) := do
  let (hi, after) ← readHex4 cs
  if isHighSurrogate hi then
    match after with
    | '\\' :: 'u' :: more =>
      match readHex4 more with
      | .ok (lo, after') =>
        if isLowSurrogate lo then
          return (Char.ofNat (0x10000 + (hi - 0xD800) * 0x400 + (lo - 0xDC00)), after')
        else return ('�', after)
      | .error _ => return ('�', after)
    | _ => return ('�', after)
  else if isLowSurrogate hi then return ('�', after)
  else return (Char.ofNat hi, after)

/-- The body of a string after its opening quote: the decoded text and the text
after the closing quote. -/
def readString : Nat → List Char → List Char → Except SyntaxError (String × List Char)
  | 0, _, _ => .error .truncated
  | _ + 1, _, [] => .error .truncated
  | fuel + 1, acc, c :: rest =>
    if c = '"' then .ok (String.ofList acc.reverse, rest)
    else if c = '\\' then
      match rest with
      | [] => .error .truncated
      | e :: rest' =>
        match e with
        | '"' => readString fuel ('"' :: acc) rest'
        | '\\' => readString fuel ('\\' :: acc) rest'
        | '/' => readString fuel ('/' :: acc) rest'
        | 'b' => readString fuel ('\x08' :: acc) rest'
        | 'f' => readString fuel ('\x0c' :: acc) rest'
        | 'n' => readString fuel ('\n' :: acc) rest'
        | 'r' => readString fuel ('\r' :: acc) rest'
        | 't' => readString fuel ('\t' :: acc) rest'
        | 'u' =>
          match readUnicodeEscape rest' with
          | .ok (ch, after) => readString fuel (ch :: acc) after
          | .error err => .error err
        | other => .error (.unexpected other "in string escape code")
    else if c.toNat < 0x20 then .error (.unexpected c "in string literal")
    else readString fuel (c :: acc) rest

/-- Whether a character is a decimal digit. -/
def isDigit (c : Char) : Bool := '0' ≤ c && c ≤ '9'

/-- The longest run of digits at the front, and the rest. -/
def spanDigits (cs : List Char) : List Char × List Char :=
  (cs.takeWhile isDigit, cs.dropWhile isDigit)

/-- The exponent part of a number, after `e` or `E`. -/
def readExponent (cs : List Char) : Except SyntaxError (List Char × List Char) :=
  let (sign, rest) := match cs with
    | '+' :: r => (['+'], r)
    | '-' :: r => (['-'], r)
    | r => ([], r)
  match rest with
  | [] => .error .truncated
  | c :: _ =>
    if isDigit c then
      let (ds, after) := spanDigits rest
      .ok (sign ++ ds, after)
    else .error (.unexpected c "in exponent of numeric literal")

/-- The fraction and exponent of a number after its integer part. -/
def readNumberTail (cs : List Char) : Except SyntaxError (List Char × List Char) := do
  let (frac, rest) ← match cs with
    | '.' :: r =>
      match r with
      | [] => .error .truncated
      | c :: _ =>
        if isDigit c then
          let (ds, after) := spanDigits r
          .ok ('.' :: ds, after)
        else .error (.unexpected c "after decimal point in numeric literal")
    | r => .ok ([], r)
  match rest with
  | e :: r =>
    if e = 'e' || e = 'E' then
      let (ex, after) ← readExponent r
      return (frac ++ e :: ex, after)
    else return (frac, rest)
  | [] => return (frac, rest)

/-- A number starting at `cs` (a digit or a minus sign): its literal text and
the rest. A leading zero ends the integer part. -/
def readNumber (cs : List Char) : Except SyntaxError (String × List Char) := do
  let (sign, rest) := match cs with
    | '-' :: r => (['-'], r)
    | r => ([], r)
  let (intPart, after) ← match rest with
    | [] => .error .truncated
    | '0' :: r => .ok (['0'], r)
    | c :: _ =>
      if isDigit c then .ok (spanDigits rest)
      else .error (.unexpected c "in numeric literal")
  let (tail, after') ← readNumberTail after
  return (String.ofList (sign ++ intPart ++ tail), after')

/-- The rest of the literal `word` after its first letter. -/
def readWord (word : String) (cs : List Char) : Except SyntaxError (List Char) :=
  let rec go : List Char → List Char → Except SyntaxError (List Char)
    | [], rest => .ok rest
    | _ :: _, [] => .error .truncated
    | w :: ws, c :: rest =>
      if c = w then go ws rest
      else .error (.unexpected c ("in literal " ++ word ++ " (expecting " ++ Text.quoteChar w ++ ")"))
  go (word.toList.drop 1) cs

mutual

/-- A value after optional blanks, inside `depth` arrays and objects. -/
def readValue : Nat → Nat → List Char → Except SyntaxError (Json × List Char)
  | 0, _, _ => .error .truncated
  | fuel + 1, depth, cs =>
    match skipBlanks cs with
    | [] => .error .truncated
    | c :: rest =>
      if (c = '{' || c = '[') && depth ≥ maxDepth then .error .tooDeep
      else if c = '{' then readObject fuel (depth + 1) rest
      else if c = '[' then readArray fuel (depth + 1) rest
      else if c = '"' then
        match readString (rest.length + 1) [] rest with
        | .ok (s, after) => .ok (.str s, after)
        | .error e => .error e
      else if c = '-' || isDigit c then
        match readNumber (c :: rest) with
        | .ok (lit, after) => .ok (.num lit, after)
        | .error e => .error e
      else if c = 't' then (readWord "true" rest).map (.bool true, ·)
      else if c = 'f' then (readWord "false" rest).map (.bool false, ·)
      else if c = 'n' then (readWord "null" rest).map (.null, ·)
      else .error (.unexpected c "looking for beginning of value")

/-- An array after its opening bracket, at nesting `depth`. -/
def readArray : Nat → Nat → List Char → Except SyntaxError (Json × List Char)
  | 0, _, _ => .error .truncated
  | fuel + 1, depth, cs =>
    match skipBlanks cs with
    | ']' :: rest => .ok (.arr [], rest)
    | _ => readItems fuel depth [] cs

/-- The items of an array from an item on, with the items read so far. -/
def readItems : Nat → Nat → List Json → List Char → Except SyntaxError (Json × List Char)
  | 0, _, _, _ => .error .truncated
  | fuel + 1, depth, acc, cs =>
    match readValue fuel depth cs with
    | .error e => .error e
    | .ok (v, after) =>
      match skipBlanks after with
      | [] => .error .truncated
      | c :: rest =>
        if c = ',' then readItems fuel depth (v :: acc) rest
        else if c = ']' then .ok (.arr (v :: acc).reverse, rest)
        else .error (.unexpected c "after array element")

/-- An object after its opening brace, at nesting `depth`. -/
def readObject : Nat → Nat → List Char → Except SyntaxError (Json × List Char)
  | 0, _, _ => .error .truncated
  | fuel + 1, depth, cs =>
    match skipBlanks cs with
    | '}' :: rest => .ok (.obj [], rest)
    | _ => readMembers fuel depth [] cs

/-- The members of an object from a member name on, with the members read so far. -/
def readMembers : Nat → Nat → List (String × Json) → List Char → Except SyntaxError (Json × List Char)
  | 0, _, _, _ => .error .truncated
  | fuel + 1, depth, acc, cs =>
    match skipBlanks cs with
    | [] => .error .truncated
    | c :: rest =>
      if c ≠ '"' then .error (.unexpected c "looking for beginning of object key string")
      else
        match readString (rest.length + 1) [] rest with
        | .error e => .error e
        | .ok (k, afterKey) =>
          match skipBlanks afterKey with
          | [] => .error .truncated
          | d :: rest' =>
            if d ≠ ':' then .error (.unexpected d "after object key")
            else
              match readValue fuel depth rest' with
              | .error e => .error e
              | .ok (v, after) =>
                match skipBlanks after with
                | [] => .error .truncated
                | e :: rest'' =>
                  if e = ',' then readMembers fuel depth ((k, v) :: acc) rest''
                  else if e = '}' then .ok (.obj ((k, v) :: acc).reverse, rest'')
                  else .error (.unexpected e "after object key:value pair")

end

/-- Read a text that holds exactly one value, blanks around it allowed. -/
def parse (s : String) : Except SyntaxError Json := do
  let cs := s.toList
  let (v, rest) ← readValue (4 * cs.length + 4) 0 cs
  match skipBlanks rest with
  | [] => return v
  | c :: _ => .error (.unexpected c "after top-level value")

/-- Read the first value of a stream: the value and the text after it. A stream
of blanks only has no value. -/
def parseFirst (s : String) : Except SyntaxError (Json × List Char) :=
  let cs := s.toList
  match skipBlanks cs with
  | [] => .error .empty
  | _ => readValue (4 * cs.length + 4) 0 cs

/-- Whether a stream continues after its first value with more than blanks: a
closing bracket or brace does not count as a value. -/
def moreAfter (rest : List Char) : Bool :=
  match skipBlanks rest with
  | [] => false
  | c :: _ => c ≠ ']' && c ≠ '}'

end Json

end NetFleet
