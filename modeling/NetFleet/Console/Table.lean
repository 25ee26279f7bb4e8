/-!
# Tables on a terminal

A table is a header row and rows of text cells, printed column-aligned under a
divider of dashes. Columns are as wide as their widest cell, counted in visible
characters: color sequences (`ESC [ … m`) take no room. Cells are separated by
at least two spaces, the last cell of a line is not padded, and trailing spaces
are cut from every line.

The divider under a header has one dash per byte of the header, not per visible
character. When that makes a divider cell wider than its column plus two (a
header with color sequences does), its padding would be negative, and printing
aborts with `strings: negative Repeat count`.
-/

namespace NetFleet.Console

/-- The message of a print that aborts on a negative padding. -/
def negativeRepeat : String := "strings: negative Repeat count"

/-- Text without its color sequences `ESC [ digits-and-semicolons m`, after the
`pending` start of a sequence that may still complete. -/
def stripFrom (pending : List Char) : List Char → List Char
  | [] => pending
  | c :: rest =>
    let fresh := if c = '\x1b' then stripFrom ['\x1b'] rest else c :: stripFrom [] rest
    match pending with
    | [] => fresh
    | [_] => if c = '[' then stripFrom ['\x1b', '['] rest else '\x1b' :: fresh
    | _ =>
      if c.isDigit || c = ';' then stripFrom (pending ++ [c]) rest
      else if c = 'm' then stripFrom [] rest
      else pending ++ fresh

/-- Text without its color sequences. -/
def stripColors (cs : List Char) : List Char := stripFrom [] cs

/-- The number of characters of `s` that show on a terminal. -/
def visibleLength (s : String) : Nat := (stripColors s.toList).length

/-- A table: headers, rows, and the line printed when there are no rows. -/
structure Table where
  headers : List String
  rows : List (List String) := []
  empty : String := ""

/-- A row cut or padded with empty cells to `n` cells. -/
def fitRow (n : Nat) (values : List String) : List String :=
  (values.take n) ++ List.replicate (n - values.length) ""

/-- The table with one more row, fitted to the header. -/
def Table.addRow (t : Table) (values : List String) : Table :=
  { t with rows := t.rows ++ [fitRow t.headers.length values] }

/-- Text with the spaces at its end removed. -/
def trimSpaces (s : String) : String :=
  String.ofList ((s.toList.reverse.dropWhile (· = ' ')).reverse)

/-- One printed line: each cell but the last padded to its column's width plus
two; fails when a padding would be negative. -/
def line (widths : List Nat) (cells : List String) : Except String String :=
  let rec go : List Nat → List String → Except String String
    | _, [] => .ok ""
    | _, [c] => .ok c
    | ws, c :: cs =>
      let w := ws.headD 0
      if w + 2 < visibleLength c then .error negativeRepeat
      else do
        let rest ← go ws.tail cs
        .ok (c ++ String.ofList (List.replicate (w + 2 - visibleLength c) ' ') ++ rest)
  return trimSpaces (← go widths cells) ++ "\n"

/-- The widths of the columns: the widest visible cell of each, the header
included. -/
def Table.widths (t : Table) : List Nat :=
  t.rows.foldl (fun ws row => (ws.zip row).map fun (w, c) => max w (visibleLength c))
    (t.headers.map visibleLength)

/-- The printed table; without rows, the empty line if one is set, else
nothing. -/
def Table.render (t : Table) : Except String String :=
  if t.rows.isEmpty then
    .ok (if t.empty = "" then "" else t.empty ++ "\n")
  else do
    let ws := t.widths
    let dividers := t.headers.map fun h => String.ofList (List.replicate h.utf8ByteSize '-')
    let lines ← (t.headers :: dividers :: t.rows).mapM (line ws)
    return String.join lines

end NetFleet.Console
