/-!
# Fields of fixed width

`padRight s width` writes `s` left-aligned in a field of `width` characters:
spaces follow it up to the width, and text that is already as wide or wider is
kept whole. Widths count characters, not bytes.
-/

namespace NetFleet.Text

/-- Text left-aligned in a field of `width` characters. -/
def padRight (s : String) (width : Nat) : String :=
  s ++ String.ofList (List.replicate (width - s.length) ' ')

end NetFleet.Text
