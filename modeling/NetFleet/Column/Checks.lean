import NetFleet.Net.Prefix
import NetFleet.Text.Quoted

/-!
# Constraint checks

Each check returns the messages of the violations it finds, none when the value
is fine. A message starts with the path of the value in the document
(`column[SIN1].options.asn`), then says what is wrong. The column rules are
lists of these checks, concatenated in a fixed order, so a document's messages
come out in the same order every time.
-/

namespace NetFleet.Column

/-- The largest autonomous system number. -/
def maxASN : Int := 4294967295

/-- `path.name`. -/
def dot (path name : String) : String := path ++ "." ++ name

/-- `path[key]`. -/
def entry (path key : String) : String := path ++ "[" ++ key ++ "]"

/-- A number in `[lo, hi]`. -/
def checkRange (path : String) (n lo hi : Int) : List String :=
  if n < lo ∨ n > hi then
    [path ++ ": must be between " ++ toString lo ++ " and " ++ toString hi ++ ", got " ++ toString n]
  else []

/-- An optional number in `[lo, hi]` when present. -/
def checkOptRange (path : String) (n : Option Int) (lo hi : Int) : List String :=
  match n with
  | some v => checkRange path v lo hi
  | none => []

/-- Text that is one of `allowed`. -/
def checkEnum (path s : String) (allowed : List String) : List String :=
  if allowed.contains s then []
  else [path ++ ": must be one of " ++ "|".intercalate allowed ++ ", got " ++ Text.quote s]

/-- A value that must be present. -/
def checkRequired (path : String) (present : Bool) : List String :=
  if present then [] else [path ++ ": field required"]

/-- An IPv4 address, required or not. -/
def checkIPv4 (path : String) (a : Option Net.Addr) (required : Bool) : List String :=
  match a with
  | none => if required then [path ++ ": field required"] else []
  | some a => if a.is4 then [] else [path ++ ": must be an IPv4 address, got " ++ a.render]

/-- An IPv6 address that is not IPv4-mapped, required or not. -/
def checkIPv6 (path : String) (a : Option Net.Addr) (required : Bool) : List String :=
  match a with
  | none => if required then [path ++ ": field required"] else []
  | some a =>
    if a.is6 && !a.is4In6 then [] else [path ++ ": must be an IPv6 address, got " ++ a.render]

/-- A network: a prefix that is set and has no host bits. -/
def checkNetwork (path : String) (p : Option Net.Prefix) : List String :=
  match p with
  | none => [path ++ ": field required"]
  | some p => if p.isMasked then [] else [path ++ ": " ++ p.render ++ " has host bits set"]

end NetFleet.Column
