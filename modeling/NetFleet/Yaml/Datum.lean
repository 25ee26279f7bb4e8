import NetFleet.Yaml.Node
import NetFleet.Yaml.Plain
import NetFleet.Audit.Time
import NetFleet.Json.Value
import NetFleet.Json.Print
import NetFleet.Decimal.Layout
import NetFleet.Text.Quoted

/-!
# Data of YAML documents

A YAML document read without a schema becomes a `Datum`: null, a boolean, an
integer, a double, a text, a time, a list, or a map whose keys are data too.

* A scalar written in quotes or as a block, or tagged `!!str`, is text. An
  unquoted scalar takes the type its text reads as (`Plain`): `~` is null,
  `0x10` is 16, `1.50` is 1.5, `2024-01-01` is a time, and `yes` stays text.
  An explicit tag must agree with the reading, except that an integer may be
  tagged `!!float`; `!!binary` text is base64.
* An alias stands for its anchored node; a node that contains an alias to
  itself is refused.
* A map takes `<<: map` (or a list of maps) as a merge: keys of the map itself
  win over merged ones, and earlier merged maps over later ones. A key that
  repeats in one mapping, as written, is an error, reported with the others of
  the document once reading is done.

`Datum.toJson` writes data as JSON: maps with their keys as text in sorted
order, times in RFC 3339; a NaN or an infinity cannot be written, nor a map
with a key that is a double, a boolean or null.
-/

namespace NetFleet.Yaml

open NetFleet (Json)

/-- The data of a YAML document. -/
inductive Datum where
  | null
  | bool (b : Bool)
  | int (i : Int)
  | float (x : Float)
  | text (s : String)
  | time (t : Audit.Stamp)
  | list (items : List Datum)
  | map (entries : List (Datum × Datum))
deriving Inhabited

/-- The short form of a tag: the YAML namespace is written `!!`. -/
def shortTag (tag : String) : String :=
  if tag.startsWith "tag:yaml.org,2002:" then "!!" ++ (tag.drop 18).toString else tag

/-- The texts read by name. -/
def namedScalar : String → Option (String × Datum)
  | "true" | "True" | "TRUE" => some ("!!bool", .bool true)
  | "false" | "False" | "FALSE" => some ("!!bool", .bool false)
  | "" | "~" | "null" | "Null" | "NULL" => some ("!!null", .null)
  | ".nan" | ".NaN" | ".NAN" => some ("!!float", .float (0.0 / 0.0))
  | ".inf" | ".Inf" | ".INF" | "+.inf" | "+.Inf" | "+.INF" => some ("!!float", .float (1.0 / 0.0))
  | "-.inf" | "-.Inf" | "-.INF" => some ("!!float", .float (-1.0 / 0.0))
  | "<<" => some ("!!merge", .text "<<")
  | _ => none

/-- Which readings the first character of a scalar allows. -/
inductive Hint where
  | textOnly
  | named
  | dot
  | number
deriving DecidableEq

/-- The hint of a scalar. -/
def hintOf (v : String) : Hint :=
  match v.toList with
  | [] => .named
  | c :: _ =>
    if c = '+' || c = '-' || c.isDigit then .number
    else if "yYnNtTfFoO~".contains c then .named
    else if c = '.' then .dot
    else .textOnly

/-- A signed 64-bit integer, its base told by its prefix. -/
def signedValue? : List Char → Option Int
  | '+' :: r => (Plain.unsignedValue r).bind fun n => if n < Nat.pow 2 63 then some n else none
  | '-' :: r => (Plain.unsignedValue r).bind fun n => if n ≤ Nat.pow 2 63 then some (-(n : Int)) else none
  | r => (Plain.unsignedValue r).bind fun n => if n < Nat.pow 2 63 then some n else none

/-- An unsigned 64-bit integer without a sign. -/
def unsignedValue? : List Char → Option Nat
  | '+' :: _ | '-' :: _ => none
  | r => (Plain.unsignedValue r).bind fun n => if n < Nat.pow 2 64 then some n else none

/-- A finite decimal fraction. -/
def fractionValue? (cs : List Char) : Option Float :=
  (Plain.fraction? cs).bind fun l => let x := l.toFloat; if x.isInf then none else some x

/-- Reads `year-month-day` with one- or two-digit month and day. -/
def dateParts (cs : List Char) : Option (Nat × Nat × Nat × List Char) := do
  let (y, cs) ← match cs with
    | a :: b :: c :: d :: r =>
      if [a, b, c, d].all Plain.isDigit then some (Decimal.digitsValue [a, b, c, d], r) else none
    | _ => none
  let cs ← match cs with | '-' :: r => some r | _ => none
  let (m, cs) ← Plain.shortNumber cs
  let cs ← match cs with | '-' :: r => some r | _ => none
  let (d, cs) ← Plain.shortNumber cs
  if 1 ≤ m && m ≤ 12 && 1 ≤ d && d ≤ Plain.daysIn y m then some (y, m, d, cs) else none

/-- Reads `hour:minute:second` and a fraction of a second, giving nanoseconds
from its first nine digits. -/
def clockParts (cs : List Char) : Option (Nat × Nat × Nat × Nat × List Char) := do
  let (h, cs) ← Plain.shortNumber cs
  let cs ← match cs with | ':' :: r => some r | _ => none
  let (mi, cs) ← Plain.shortNumber cs
  let cs ← match cs with | ':' :: r => some r | _ => none
  let (s, cs) ← Plain.shortNumber cs
  let (nanos, cs) := match cs with
    | p :: d :: r =>
      if (p = '.' || p = ',') && Plain.isDigit d then
        let ds := (d :: r).takeWhile Plain.isDigit
        let nine := (ds.take 9) ++ List.replicate (9 - min 9 ds.length) '0'
        (Decimal.digitsValue nine, (d :: r).dropWhile Plain.isDigit)
      else (0, p :: d :: r)
    | r => (0, r)
  if h < 24 && mi < 60 && s < 60 then some (h, mi, s, nanos, cs) else none

/-- Reads a zone, `Z` or `±hh:mm`, giving its offset in seconds. -/
def zoneParts : List Char → Option (Int × List Char)
  | 'Z' :: r => some (0, r)
  | s :: cs => do
    let (h, cs) ← Plain.twoDigits cs
    let cs ← match cs with | ':' :: r => some r | _ => none
    let (m, cs) ← Plain.twoDigits cs
    let off : Int := ((h * 60 + m) * 60 : Nat)
    if h ≤ 24 && m ≤ 60 then
      if s = '+' then some (off, cs) else if s = '-' then some (-off, cs) else none
    else none
  | [] => none

/-- A timestamp: a date alone, a date and a time joined by `T` or `t` and
followed by a zone, or a date and a time joined by spaces, in UTC. -/
def stampOf? (cs : List Char) : Option Audit.Stamp := do
  if (cs.takeWhile Plain.isDigit).length ≠ 4 || (cs.drop 4).head? ≠ some '-' then none
  let (y, m, d, rest) ← dateParts cs
  let make (h mi s nanos : Nat) (off : Int) : Audit.Stamp :=
    ⟨Audit.daysFromCivil y m d * 86400 + (h * 3600 + mi * 60 + s : Nat) - off, nanos, off⟩
  match rest with
  | [] => some (make 0 0 0 0 0)
  | sep :: r =>
    if sep = 'T' || sep = 't' then
      let (h, mi, s, nanos, r) ← clockParts r
      let (off, r) ← zoneParts r
      if r.isEmpty then some (make h mi s nanos off) else none
    else if sep = ' ' then
      let (h, mi, s, nanos, r) ← clockParts (r.dropWhile (· = ' '))
      if r.isEmpty then some (make h mi s nanos 0) else none
    else none

/-- What an unquoted scalar reads as under a tag (or none): the tag of the
reading and the datum. -/
def readScalar (tag v : String) : String × Datum :=
  let h := hintOf v
  if h = .textOnly || tag = "!!str" || tag = "!!binary" then ("!!str", .text v)
  else match namedScalar v with
  | some r => r
  | none =>
    match h with
    | .dot => match fractionValue? v.toList with
      | some x => ("!!float", .float x)
      | none => ("!!str", .text v)
    | .number =>
      match (if tag = "" || tag = "!!timestamp" then stampOf? v.toList else none) with
      | some t => ("!!timestamp", .time t)
      | none =>
        let bare := v.toList.filter (· ≠ '_')
        match signedValue? bare with
        | some i => ("!!int", .int i)
        | none => match unsignedValue? bare with
          | some n => ("!!int", .int n)
          | none => match fractionValue? bare with
            | some x => ("!!float", .float x)
            | none => ("!!str", .text v)
    | _ => ("!!str", .text v)

/-- The tags under which a scalar is read by its text. -/
def readableTags : List String :=
  ["", "!!str", "!!bool", "!!int", "!!float", "!!null", "!!timestamp"]

/-- The tag a scalar node carries: its explicit tag, else `!!str` when quoted or
written as a block, `!!merge` for a plain `<<`, else the tag of its reading. -/
def scalarTag (v : String) (style : ScalarStyle) (tag : String) : String :=
  if tag ≠ "" && tag ≠ "!" then shortTag tag
  else if style ≠ .plain then "!!str"
  else if v = "<<" then "!!merge"
  else (readScalar "" v).1

/-- The value of a base64 letter. -/
def base64Value (c : Char) : Option Nat :=
  if 'A' ≤ c && c ≤ 'Z' then some (c.toNat - 'A'.toNat)
  else if 'a' ≤ c && c ≤ 'z' then some (c.toNat - 'a'.toNat + 26)
  else if '0' ≤ c && c ≤ '9' then some (c.toNat - '0'.toNat + 52)
  else if c = '+' then some 62
  else if c = '/' then some 63
  else none

/-- The bytes of padded base64 text; line breaks are ignored. -/
def base64Bytes (s : String) : Option (List UInt8) :=
  let cs := s.toList.filter (fun c => c ≠ '\n' && c ≠ '\r')
  if cs.length % 4 ≠ 0 then none
  else
    let rec go (fuel : Nat) (cs : List Char) (acc : List UInt8) : Option (List UInt8) :=
      match fuel, cs with
      | _, [] => some acc.reverse
      | 0, _ => none
      | fuel + 1, a :: b :: c :: d :: rest => do
        let x ← base64Value a
        let y ← base64Value b
        let n1 := (x * 4 + y / 16) % 256
        if c = '=' then
          if d = '=' && rest.isEmpty then some ((n1.toUInt8 :: acc).reverse) else none
        else
          let z ← base64Value c
          let n2 := ((y % 16) * 16 + z / 4) % 256
          if d = '=' then
            if rest.isEmpty then some ((n2.toUInt8 :: n1.toUInt8 :: acc).reverse) else none
          else
            let w ← base64Value d
            let n3 := ((z % 4) * 64 + w) % 256
            go fuel rest (n3.toUInt8 :: n2.toUInt8 :: n1.toUInt8 :: acc)
      | _, _ => none
    go cs.length cs []

/-- Whether `b` continues a UTF-8 sequence, within `lo` and `hi`. -/
def continuing (lo hi : UInt8) (b : UInt8) : Bool := lo ≤ b && b ≤ hi

/-- Text from bytes read as UTF-8, each byte that starts no valid sequence
standing for U+FFFD. -/
def lossyText (bs : List UInt8) : String :=
  let rec go (fuel : Nat) (bs : List UInt8) (acc : String) : String :=
    match fuel, bs with
    | _, [] => acc
    | 0, _ => acc
    | fuel + 1, b0 :: rest =>
      let n0 := b0.toNat
      let bad := go fuel rest (acc.push '�')
      if n0 < 0x80 then go fuel rest (acc.push (Char.ofNat n0))
      else if 0xC2 ≤ n0 && n0 ≤ 0xDF then
        match rest with
        | b1 :: r => if continuing 0x80 0xBF b1 then
            go fuel r (acc.push (Char.ofNat ((n0 % 32) * 64 + b1.toNat % 64))) else bad
        | [] => bad
      else if 0xE0 ≤ n0 && n0 ≤ 0xEF then
        let (lo, hi) : UInt8 × UInt8 :=
          if n0 = 0xE0 then (0xA0, 0xBF) else if n0 = 0xED then (0x80, 0x9F) else (0x80, 0xBF)
        match rest with
        | b1 :: b2 :: r =>
          if continuing lo hi b1 && continuing 0x80 0xBF b2 then
            go fuel r (acc.push (Char.ofNat ((n0 % 16) * 4096 + (b1.toNat % 64) * 64 + b2.toNat % 64)))
          else bad
        | _ => bad
      else if 0xF0 ≤ n0 && n0 ≤ 0xF4 then
        let (lo, hi) : UInt8 × UInt8 :=
          if n0 = 0xF0 then (0x90, 0xBF) else if n0 = 0xF4 then (0x80, 0x8F) else (0x80, 0xBF)
        match rest with
        | b1 :: b2 :: b3 :: r =>
          if continuing lo hi b1 && continuing 0x80 0xBF b2 && continuing 0x80 0xBF b3 then
            go fuel r (acc.push (Char.ofNat ((n0 % 8) * 262144 + (b1.toNat % 64) * 4096 +
              (b2.toNat % 64) * 64 + b3.toNat % 64)))
          else bad
        | _ => bad
      else bad
  go bs.length bs ""

/-- The datum of a scalar node. -/
def scalarDatum (v : String) (style : ScalarStyle) (tag : String) : Except ReadError Datum :=
  let t := scalarTag v style tag
  if t = "!!str" then .ok (.text v)
  else if t = "!!binary" then
    match base64Bytes v with
    | some bs => .ok (.text (lossyText bs))
    | none => .error .badBinary
  else if !readableTags.contains t then .ok (.text v)
  else
    let (found, d) := readScalar t v
    if t = found then .ok d
    else if t = "!!float" && found = "!!int" then
      match d with
      | .int i => .ok (.float (Float.ofInt i))
      | other => .ok other
    else .error (.cannotDecode found v t)

/-- The tag of a node as the node carries it: its explicit tag, else the tag
of its kind or of its reading; an alias has none of its own. -/
def Node.ownTag : Node → String
  | .scalar v style tag _ => scalarTag v style tag
  | .sequence _ tag _ => if tag = "" || tag = "!" then "!!seq" else shortTag tag
  | .mapping _ tag _ => if tag = "" || tag = "!" then "!!map" else shortTag tag
  | .alias .. => ""

/-- The tag of a key node, an alias taking the tag of the node it names. -/
def Node.keyTag (anchored : Array Node) : Node → String
  | .alias _ t _ _ => ((anchored[t]?).map Node.ownTag).getD ""
  | n => n.ownTag

/-- Whether the keys of a mapping are all texts or merge keys: such a mapping
becomes a map with text keys, and keys merged into it are taken as texts. -/
def textKeyed (anchored : Array Node) (pairs : List (Node × Node)) : Bool :=
  pairs.all fun (k, _) => let t := k.keyTag anchored; t = "!!str" || t = "!!merge"

/-- The message of a list or map where a text is wanted. -/
def notAText (tag : String) (line : Nat) : String :=
  let shown := if tag = "!!seq" || tag = "!!map" then "" else " \x60\x60"
  "line " ++ toString line ++ ": cannot unmarshal " ++ tag ++ shown ++ " into string"

/-- Whether a key node is the merge key `<<`. -/
def Node.isMergeKey : Node → Bool
  | .scalar v style tag _ => v = "<<" && scalarTag v style tag = "!!merge"
  | _ => false

/-- A node's kind and text, as repeated keys are told apart. -/
def Node.keyIdentity : Node → Nat × String
  | .scalar v .. => (0, v)
  | .sequence .. => (1, "")
  | .mapping .. => (2, "")
  | .alias name .. => (3, name)

/-- A node's text, as messages quote it. -/
def Node.text : Node → String
  | .scalar v .. => v
  | .alias name .. => name
  | _ => ""

/-- A node's line. -/
def Node.line : Node → Nat
  | .scalar _ _ _ l | .sequence _ _ l | .mapping _ _ l | .alias _ _ _ l => l

/-- The messages for keys that repeat in a mapping, each later copy against
each earlier one. -/
def repeatedKeys (pairs : List (Node × Node)) : List String :=
  let keys := pairs.map (·.1)
  let rec go : List Node → List String
    | [] => []
    | k :: rest =>
      (rest.filter (fun j => j.keyIdentity == k.keyIdentity)).map (fun j =>
        "line " ++ toString j.line ++ ": mapping key " ++ Text.quote j.text ++
          " already defined at line " ++ toString k.line) ++ go rest
  go keys

/-- Equality of data as map keys; a NaN equals nothing. -/
def Datum.sameKey : Datum → Datum → Bool
  | .null, .null => true
  | .bool a, .bool b => a == b
  | .int a, .int b => a == b
  | .float a, .float b => a == b
  | .text a, .text b => a == b
  | .time a, .time b => a == b
  | _, _ => false

/-- Set a key of a map: an equal key keeps its place and takes the value. -/
def putKey (k v : Datum) : List (Datum × Datum) → List (Datum × Datum)
  | [] => [(k, v)]
  | (k', v') :: rest => if k'.sameKey k then (k', v) :: rest else (k', v') :: putKey k v rest

mutual

/-- A datum in the syntax of the reference runtime, as invalid keys are shown. -/
def Datum.syntaxText : Datum → String
  | .null => "interface \x7b\x7d(nil)"
  | .bool b => toString b
  | .int i => toString i
  | .float x => Decimal.Layout.general.render x
  | .text s => Text.quote s
  | .time t => t.render
  | .list xs => "[]interface \x7b\x7d\x7b" ++ Datum.itemsSyntax xs ++ "\x7d"
  | .map es => "map[string]interface \x7b\x7d\x7b" ++ Datum.entriesSyntax es ++ "\x7d"

/-- Items in that syntax, separated by commas. -/
def Datum.itemsSyntax : List Datum → String
  | [] => ""
  | [x] => Datum.syntaxText x
  | x :: xs => Datum.syntaxText x ++ ", " ++ Datum.itemsSyntax xs

/-- Entries `key:value` in that syntax, separated by commas. -/
def Datum.entriesSyntax : List (Datum × Datum) → String
  | [] => ""
  | [(k, v)] => Datum.syntaxText k ++ ":" ++ Datum.syntaxText v
  | (k, v) :: es => Datum.syntaxText k ++ ":" ++ Datum.syntaxText v ++ ", " ++ Datum.entriesSyntax es

end

/-- The counts that guard against documents that expand aliases without end:
nodes decoded, and nodes decoded inside aliases. -/
structure Expansion where
  decoded : Nat := 0
  aliased : Nat := 0
  errors : Array String := #[]

/-- Decoding steps. -/
abbrev DecodeM := StateT Expansion (Except ReadError)

/-- The share of decoded nodes that may come from aliases: most of a small
document, a tenth of a very large one. -/
def allowedAliasShare (decoded : Nat) : Float :=
  if decoded ≤ 400000 then 0.99
  else if decoded ≥ 4000000 then 0.10
  else 0.99 - 0.89 * (Float.ofNat (decoded - 400000) / 3600000.0)

/-- Count one decoded node, refusing excessive aliasing. -/
def countNode (inAlias : Bool) : DecodeM Unit := do
  let e ← get
  let e := { e with decoded := e.decoded + 1, aliased := if inAlias then e.aliased + 1 else e.aliased }
  set e
  if e.aliased > 100 && e.decoded > 1000 &&
      Float.ofNat e.aliased / Float.ofNat e.decoded > allowedAliasShare e.decoded then
    throw .excessiveAliasing

/-- Lift a step that may fail. -/
def liftRead {α : Type} (x : Except ReadError α) : DecodeM α :=
  match x with
  | .ok a => pure a
  | .error e => throw e

/-- Decodes a node within a map being filled: the node, the entries so far, and
the keys a merge may no longer set. -/
abbrev MapFiller :=
  Node → List (Datum × Datum) → Option (List Datum) → DecodeM (Option (List (Datum × Datum) × Option (List Datum)))

/-- Decodes a node on its own. -/
abbrev NodeDecoder := Node → DecodeM (Option Datum)

/-- The pairs of a mapping added to `entries`, keys read with `key` and values
with `node`: repeated keys make the mapping fail; `<<` names maps to merge
after the own keys; with `merged` given, keys already set by the maps merged
into are skipped and the others recorded. -/
def fillPairs (node key : NodeDecoder) (fill : MapFiller) (anchored : Array Node)
    (pairs : List (Node × Node)) (entries : List (Datum × Datum)) (merged : Option (List Datum)) :
    DecodeM (Option (List (Datum × Datum) × Option (List Datum))) := do
  let repeated := repeatedKeys pairs
  if !repeated.isEmpty then
    modify fun e => { e with errors := e.errors ++ repeated.toArray }
    return none
  let mut entries := entries
  let mut merged := merged
  let mut mergeWith : Option Node := none
  for (k, v) in pairs do
    if k.isMergeKey then
      mergeWith := some v
      continue
    match ← key k with
    | none => pure ()
    | some kd =>
      let skipIt := match merged with
        | some ms => ms.any (·.sameKey kd)
        | none => false
      if skipIt then continue
      merged := merged.map (kd :: ·)
      match kd with
      | .list _ | .map _ => throw (.invalidKey kd.syntaxText)
      | _ => pure ()
      match ← node v with
      | some vd => entries := putKey kd vd entries
      | none => pure ()
  match mergeWith with
  | none => return some (entries, merged)
  | some m =>
    let mut fields : List Datum := []
    match merged with
    | some ms => fields := ms
    | none =>
      for (k, _) in pairs do
        if let some kd ← node k then fields := kd :: fields
    let isMap (n : Node) : Bool := match n with
      | .mapping .. => true
      | _ => false
    let target (n : Node) : Node := match n with
      | .alias _ t _ _ => anchored[t]?.getD n
      | _ => n
    let sources ← match m with
      | .mapping .. => pure [m]
      | .alias .. => if isMap (target m) then pure [m] else throw .mergeNeedsMap
      | .sequence items _ _ =>
        items.mapM fun it => match it with
          | .alias .. => if isMap (target it) then pure it else throw .mergeNeedsMap
          | .mapping .. => pure it
          | _ => throw .mergeNeedsMap
      | _ => throw .mergeNeedsMap
    let mut current := fields
    for src in sources do
      match ← fill src entries (some current) with
      | some (es, ms) =>
        entries := es
        current := ms.getD current
      | none => pure ()
    return some (entries, if merged.isSome then some current else merged)

/-- Decodes nodes, at most `fuel` levels deep, with the serials of the aliases
being expanded. -/
def decodeWith (anchored : Array Node) : Nat → List Nat → Node → DecodeM (Option Datum)
  | 0, _, _ => throw .excessiveAliasing
  | fuel + 1, active, n => do
    countNode !active.isEmpty
    match n with
    | .alias name target serial _ =>
      if active.contains serial then throw (.selfAlias name)
      decodeWith anchored fuel (serial :: active) (anchored[target]?.getD (.scalar "" .plain "" 0))
    | .scalar v style tag _ => some <$> liftRead (scalarDatum v style tag)
    | .sequence items _ _ => do
      let mut out : Array Datum := #[]
      for it in items do
        if let some d ← decodeWith anchored fuel active it then out := out.push d
      return some (.list out.toList)
    | .mapping pairs _ _ => do
      let textKeys := textKeyed anchored pairs
      let key := if textKeys then textKey anchored fuel active else decodeWith anchored fuel active
      match ← fillPairs (decodeWith anchored fuel active) key (fillInto anchored fuel active textKeys)
          anchored pairs [] none with
      | some (es, _) => return some (.map es)
      | none => return none
where
  /-- Decodes a key of a map with text keys, following aliases: a scalar is its
  text as written (decoded when binary) and a null is no key; a list or a map
  is no key either, and is reported. -/
  textKey (anchored : Array Node) : Nat → List Nat → NodeDecoder
    | 0, _, _ => throw .excessiveAliasing
    | fuel + 1, active, n => do
      countNode !active.isEmpty
      match n with
      | .alias name target serial _ =>
        if active.contains serial then throw (.selfAlias name)
        textKey anchored fuel (serial :: active) (anchored[target]?.getD (.scalar "" .plain "" 0))
      | .scalar v style tag _ =>
        match ← liftRead (scalarDatum v style tag) with
        | .null => return none
        | .text s => return some (.text s)
        | _ => return some (.text v)
      | .sequence _ _ line =>
        modify fun e => { e with errors := e.errors.push (notAText n.ownTag line) }
        return none
      | .mapping pairs _ line =>
        let repeated := repeatedKeys pairs
        let found := if repeated.isEmpty then [notAText n.ownTag line] else repeated
        modify fun e => { e with errors := e.errors ++ found.toArray }
        return none
  /-- Decodes a node into a map being filled, following aliases; `textKeys`
  when the map's keys are texts. -/
  fillInto (anchored : Array Node) : Nat → List Nat → Bool → MapFiller
    | 0, _, _, _, _, _ => throw .excessiveAliasing
    | fuel + 1, active, textKeys, n, entries, merged => do
      countNode !active.isEmpty
      match n with
      | .alias name target serial _ =>
        if active.contains serial then throw (.selfAlias name)
        fillInto anchored fuel (serial :: active) textKeys
          (anchored[target]?.getD (.scalar "" .plain "" 0)) entries merged
      | .mapping pairs _ _ =>
        let key := if textKeys then textKey anchored fuel active else decodeWith anchored fuel active
        fillPairs (decodeWith anchored fuel active) key (fillInto anchored fuel active textKeys)
          anchored pairs entries merged
      | _ => throw .mergeNeedsMap

/-- The text of a map key: keys that are no text are written as the reference
runtime prints them. -/
def Datum.keyText : Datum → String
  | .text s => s
  | .int i => toString i
  | .float x => Decimal.Layout.general.render x
  | .bool b => toString b
  | .null => "<nil>"
  | .time t => t.render
  | d => d.syntaxText

/-- Keep the last entry of each key. -/
def lastOfEach {α : Type} (ms : List (String × α)) : List (String × α) :=
  ms.foldl (fun acc (k, v) => (acc.filter (·.1 ≠ k)) ++ [(k, v)]) []

/-- Why data cannot be sent as JSON. -/
inductive SendError where
  /-- a NaN or an infinity, named as it prints -/
  | unsupported (what : String)
  /-- a map key that is neither text, nor a whole number, nor a time; the map
  is at `pointer` (its steps from the outside in) and starts `offset` bytes
  into the text being written -/
  | keyNotText (pointer : List String) (offset : Nat)
  /-- a time that has no RFC 3339 form, with the reason -/
  | badTime (why : String)

namespace SendError

/-- The error seen from a value that holds the failing one under `step`, with
the failing one starting `pos` bytes into the holder. -/
def within (step : String) (pos : Nat) : SendError → SendError
  | .unsupported w => .unsupported w
  | .keyNotText ptr off => .keyNotText (step :: ptr) (off + pos)
  | .badTime w => .badTime w

/-- The message of an error. A key that is no text is reported after the byte
that follows the map's opening brace, with the map's JSON pointer. -/
def message : SendError → String
  | .unsupported w => "json: unsupported value: " ++ w
  | .keyNotText ptr off =>
    let pointer := String.join (ptr.map fun t => "/" ++ String.join (t.toList.map fun c =>
      if c = '~' then "~0" else if c = '/' then "~1" else c.toString))
    "json: unsupported value: jsontext: object member name must be a string" ++
      (if ptr.isEmpty then "" else " within " ++ Text.quote pointer) ++ " after offset " ++ toString (off + 2)
  | .badTime w => "json: error calling MarshalJSON for type *time.Time: " ++ w

end SendError

/-- The number of bytes a JSON value takes when it is sent. -/
def sentSize (j : Json) : Nat := (Json.render .html j).utf8ByteSize

/-- A double as JSON, unless it is a NaN or an infinity. -/
def floatJson (x : Float) : Except SendError Json :=
  if x.isNaN then .error (.unsupported "NaN")
  else if x.isInf then .error (.unsupported (if x > 0 then "+Inf" else "-Inf"))
  else .ok (.num (Decimal.Layout.data.render x))

/-- A time in RFC 3339, when its year and zone fit that form. -/
def timeText (t : Audit.Stamp) : Except SendError String := t.encode.mapError .badTime

/-- The member name of a map key: text as it is, whole numbers in decimal, times
in RFC 3339; other keys cannot name a member. -/
def Datum.memberName : Datum → Except SendError String
  | .text s => .ok s
  | .int i => .ok (toString i)
  | .time t => timeText t
  | .float x => do let _ ← floatJson x; throw (.keyNotText [] 0)
  | _ => .error (.keyNotText [] 0)

/-- Members in the order they are written, each value placed after the ones
before it; `pos` is where the next member starts. The first value that cannot
be written stops the rest. -/
def placeMembers (pos : Nat) (first : Bool) :
    List (String × Except SendError Json) → Except SendError (List (String × Json))
  | [] => .ok []
  | (n, r) :: rest =>
    let pos := if first then pos else pos + 1
    let valuePos := pos + sentSize (.str n) + 1
    match r with
    | .error e => .error (e.within n valuePos)
    | .ok j => do return (n, j) :: (← placeMembers (valuePos + sentSize j) false rest)

mutual

/-- A datum as JSON. A map writes its members sorted by name after naming them
all; a key that cannot name a member fails first, then the first value, in the
order written, that cannot be written. -/
def Datum.encode : Datum → Except SendError Json
  | .null => .ok .null
  | .bool b => .ok (.bool b)
  | .int i => .ok (.num (toString i))
  | .float x => floatJson x
  | .text s => .ok (.str s)
  | .time t => .str <$> timeText t
  | .list xs => do return .arr (← Datum.encodeItems 0 1 xs)
  | .map es => do
    let names ← es.mapM fun kv => kv.1.memberName
    let members := lastOfEach (names.zip (Datum.encodeValues es))
    return .obj (← placeMembers 1 true (members.mergeSort fun a b => decide (a.1 ≤ b.1)))

/-- Items as JSON, the `i`-th starting `pos` bytes into the list. -/
def Datum.encodeItems (i pos : Nat) : List Datum → Except SendError (List Json)
  | [] => .ok []
  | x :: xs =>
    let pos := if i = 0 then pos else pos + 1
    match x.encode with
    | .error e => .error (e.within (toString i) pos)
    | .ok j => do return j :: (← Datum.encodeItems (i + 1) (pos + sentSize j) xs)

/-- The values of entries as JSON, each on its own. -/
def Datum.encodeValues : List (Datum × Datum) → List (Except SendError Json)
  | [] => []
  | (_, v) :: rest => v.encode :: Datum.encodeValues rest

end

/-- A datum as JSON, or the message of why it cannot be sent. -/
def Datum.toJson (d : Datum) : Except String Json := d.encode.mapError SendError.message

/-- The data of the first document of a YAML text; nothing when the text holds
no document. -/
def Datum.read (text : String) : Except ReadError (Option Datum) := do
  match ← compose text with
  | none => return none
  | some (root, anchored) =>
    let fuel := text.length + anchored.size * 4 + 64
    let (d, e) ← (decodeWith anchored fuel [] root).run {}
    if !e.errors.isEmpty then throw (.unmarshal e.errors.toList)
    return d

end NetFleet.Yaml
