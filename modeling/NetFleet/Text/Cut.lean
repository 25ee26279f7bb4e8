/-!
# Cutting text at a separator

`Text.cut s sep` splits `s` around the first occurrence of `sep`;
`Text.replaceAll` replaces every occurrence, left to right, without overlaps;
`Text.dropRightWhile` drops trailing characters of a kind. All work on the
characters of the text, so a separator is found wherever its characters stand
in a row.
-/

namespace NetFleet.Text

/-- The characters after `pre` when `cs` starts with it. -/
def afterPrefix : List Char → List Char → Option (List Char)
  | [], cs => some cs
  | _ :: _, [] => none
  | p :: ps, c :: cs => if p = c then afterPrefix ps cs else none

/-- The characters before the first occurrence of `sep` (not empty) and those
after it. -/
def cutChars (sep : List Char) : List Char → Option (List Char × List Char)
  | [] => none
  | c :: cs =>
    match afterPrefix sep (c :: cs) with
    | some rest => some ([], rest)
    | none => (cutChars sep cs).map fun (a, b) => (c :: a, b)

/-- `s` split around the first occurrence of `sep`; an empty separator is found
at the start. -/
def cut (s sep : String) : Option (String × String) :=
  if sep.isEmpty then some ("", s)
  else (cutChars sep.toList s.toList).map fun (a, b) => (String.ofList a, String.ofList b)

/-- Every occurrence of `sep` (not empty) in `cs` replaced by `by_`. -/
def replaceChars (sep by_ : List Char) : Nat → List Char → List Char
  | 0, cs => cs
  | fuel + 1, cs =>
    match cs with
    | [] => []
    | c :: rest =>
      match afterPrefix sep cs with
      | some after => by_ ++ replaceChars sep by_ fuel after
      | none => c :: replaceChars sep by_ fuel rest

/-- Every occurrence of `sep` in `s` replaced by `by_`; an empty separator
changes nothing. -/
def replaceAll (s sep by_ : String) : String :=
  if sep.isEmpty then s
  else String.ofList (replaceChars sep.toList by_.toList (s.length + 1) s.toList)

/-- `s` without the trailing characters that satisfy `p`. -/
def dropRightWhile (s : String) (p : Char → Bool) : String :=
  String.ofList (s.toList.reverse.dropWhile p).reverse

/-- Whether `sep` occurs in `s`. -/
def containsText (s sep : String) : Bool := (cut s sep).isSome

end NetFleet.Text
