import NetFleet.Yaml.Token

/-!
# YAML nodes

The parser turns the tokens of a YAML text into the node tree of its first
document: scalars with their style and explicit tag, sequences, mappings, and
aliases. It follows the grammar of the reference reader state by state, so it
stops at the same token with the same complaint (`did not find expected ','
or ']'`, `did not find expected key`, …), and it asks for tokens in the same
order, so that a problem of the scanner shows only once the parser reaches it.

An anchor names its node from the moment the node starts, so an alias inside a
node can refer to the node itself; the table of anchored nodes is kept beside
the tree, and an alias holds the number of its node in that table. An alias to
a name not yet anchored is an error of its own.

`Yaml.compose` reads a text into its first document, or into nothing when the
text holds no document.
-/

namespace NetFleet.Yaml

/-- A node of a YAML document. The tag is the explicit one, in full, or empty;
the line counts from one. -/
inductive Node where
  | scalar (value : String) (style : ScalarStyle) (tag : String) (line : Nat)
  | sequence (items : List Node) (tag : String) (line : Nat)
  | mapping (pairs : List (Node × Node)) (tag : String) (line : Nat)
  /-- an alias: the name, the number of the anchored node, a number of its own -/
  | alias (name : String) (target : Nat) (serial : Nat) (line : Nat)
deriving Inhabited

/-- Why a YAML text could not be read as data. -/
inductive ReadError where
  /-- the text is not well-formed -/
  | malformed (p : Problem)
  | unknownAnchor (name : String)
  | selfAlias (name : String)
  /-- a scalar resolved to one tag where its explicit tag asked for another -/
  | cannotDecode (found text wanted : String)
  | badBinary
  | invalidKey (shown : String)
  | mergeNeedsMap
  | excessiveAliasing
  /-- problems that did not stop the reading, such as repeated keys -/
  | unmarshal (lines : List String)
deriving Inhabited

/-- The message of a reading error. -/
def ReadError.message : ReadError → String
  | .malformed p => "yaml: " ++ p.message
  | .unknownAnchor n => "yaml: unknown anchor '" ++ n ++ "' referenced"
  | .selfAlias n => "yaml: anchor '" ++ n ++ "' value contains itself"
  | .cannotDecode f t w => "yaml: cannot decode " ++ f ++ " \x60" ++ t ++ "\x60 as a " ++ w
  | .badBinary => "yaml: !!binary value contains invalid base64 data"
  | .invalidKey s => "yaml: invalid map key: " ++ s
  | .mergeNeedsMap => "yaml: map merge requires map or sequence of maps as the value"
  | .excessiveAliasing => "yaml: document contains excessive aliasing"
  | .unmarshal ls => "yaml: unmarshal errors:\n  " ++ "\n  ".intercalate ls

/-- The shapes of tokens, without their contents. -/
inductive Shape where
  | streamStart | streamEnd | versionDirective | tagDirective | documentStart | documentEnd
  | blockSequenceStart | blockMappingStart | blockEnd
  | flowSequenceStart | flowSequenceEnd | flowMappingStart | flowMappingEnd
  | blockEntry | flowEntry | key | value | alias | anchor | tag | scalar
deriving DecidableEq

/-- The shape of a token. -/
def TokenKind.shape : TokenKind → Shape
  | .streamStart => .streamStart
  | .streamEnd => .streamEnd
  | .versionDirective .. => .versionDirective
  | .tagDirective .. => .tagDirective
  | .documentStart => .documentStart
  | .documentEnd => .documentEnd
  | .blockSequenceStart => .blockSequenceStart
  | .blockMappingStart => .blockMappingStart
  | .blockEnd => .blockEnd
  | .flowSequenceStart => .flowSequenceStart
  | .flowSequenceEnd => .flowSequenceEnd
  | .flowMappingStart => .flowMappingStart
  | .flowMappingEnd => .flowMappingEnd
  | .blockEntry => .blockEntry
  | .flowEntry => .flowEntry
  | .key => .key
  | .value => .value
  | .alias _ => .alias
  | .anchor _ => .anchor
  | .tag .. => .tag
  | .scalar .. => .scalar

/-- The state of the parser: the tokens and the position in them, the tag
handles in force, and the anchors. -/
structure Composer where
  scan : Scan
  pos : Nat := 0
  handles : List (String × String) := []
  anchors : List (String × Nat) := []
  anchored : Array Node := #[]
  serial : Nat := 0

/-- Parsing steps. -/
abbrev ComposeM := StateT Composer (Except ReadError)

/-- The next token. Asking for a token the scanner did not deliver before its
problem raises that problem. -/
def peekToken : ComposeM Token := do
  let c ← get
  if let some (p, avail) := c.scan.failure then
    if c.pos ≥ avail then throw (.malformed p)
  match c.scan.tokens[c.pos]? with
  | some t => pure t
  | none => pure (c.scan.tokens.back?.getD ⟨.streamEnd, {}, {}⟩)

/-- Pass the next token. -/
def skipToken : ComposeM Unit := modify fun c => { c with pos := c.pos + 1 }

/-- Stop with a problem of the parser. -/
def failParse {α : Type} (context : String) (contextMark : Mark) (problem : String)
    (problemMark : Mark) : ComposeM α :=
  throw (.malformed { stage := .parser, context, contextMark, problem, problemMark })

/-- A bound on the steps of a loop over the tokens. -/
def tokenBound : ComposeM Nat := do return (← get).scan.tokens.size + 1

/-- The empty plain scalar at a mark. -/
def emptyAt (m : Mark) : Node := .scalar "" .plain "" (m.line + 1)

/-- Give `name` to the next anchored node, returning its number. -/
def reserveAnchor (name : String) : ComposeM Nat := do
  let c ← get
  let id := c.anchored.size
  set { c with anchored := c.anchored.push default, anchors := (name, id) :: c.anchors }
  return id

/-- Record the anchored node of a number. -/
def fillAnchor (id : Nat) (n : Node) : ComposeM Unit :=
  modify fun c => { c with anchored := c.anchored.set! id n }

/-- An alias to the node last anchored with `name`. -/
def aliasNode (name : String) (m : Mark) : ComposeM Node := do
  let c ← get
  match c.anchors.lookup name with
  | none => throw (.unknownAnchor name)
  | some id =>
    set { c with serial := c.serial + 1 }
    return .alias name id c.serial (m.line + 1)

/-- Reads a node: block context, and whether a `-` may start an indentless
sequence. -/
abbrev NodeReader := Bool → Bool → ComposeM Node

/-- Whether a token has one of the shapes. -/
def Token.isOneOf (t : Token) (shapes : List Shape) : Bool := shapes.contains t.kind.shape

/-- The items of a block sequence, from its start token to its end. -/
def blockSequenceItems (node : NodeReader) : ComposeM (List Node) := do
  let first ← peekToken
  skipToken
  let mut items : Array Node := #[]
  for _ in [0:(← tokenBound)] do
    let tok ← peekToken
    if tok.isOneOf [.blockEnd] then
      skipToken
      return items.toList
    if !tok.isOneOf [.blockEntry] then
      failParse "while parsing a block collection" first.start "did not find expected '-' indicator" tok.start
    skipToken
    let next ← peekToken
    if next.isOneOf [.blockEntry, .blockEnd] then items := items.push (emptyAt tok.stop)
    else items := items.push (← node true false)
  return items.toList

/-- The items of a sequence written as `-` lines at the indentation of the
mapping that holds it. -/
def indentlessItems (node : NodeReader) : ComposeM (List Node) := do
  let mut items : Array Node := #[]
  for _ in [0:(← tokenBound)] do
    let tok ← peekToken
    if !tok.isOneOf [.blockEntry] then return items.toList
    skipToken
    let next ← peekToken
    if next.isOneOf [.blockEntry, .key, .value, .blockEnd] then items := items.push (emptyAt tok.stop)
    else items := items.push (← node true false)
  return items.toList

/-- The pairs of a block mapping, from its start token to its end. -/
def blockMappingPairs (node : NodeReader) : ComposeM (List (Node × Node)) := do
  let first ← peekToken
  skipToken
  let mut pairs : Array (Node × Node) := #[]
  for _ in [0:(← tokenBound)] do
    let tok ← peekToken
    if tok.isOneOf [.blockEnd] then
      skipToken
      return pairs.toList
    if !tok.isOneOf [.key] then
      failParse "while parsing a block mapping" first.start "did not find expected key" tok.start
    skipToken
    let next ← peekToken
    let key ← if next.isOneOf [.key, .value, .blockEnd] then pure (emptyAt tok.stop) else node true true
    let vtok ← peekToken
    let value ←
      if vtok.isOneOf [.value] then do
        skipToken
        let next ← peekToken
        if next.isOneOf [.key, .value, .blockEnd] then pure (emptyAt vtok.stop) else node true true
      else pure (emptyAt vtok.start)
    pairs := pairs.push (key, value)
  return pairs.toList

/-- The items of a flow sequence; `key: value` inside it is a mapping of one
pair. -/
def flowSequenceItems (node : NodeReader) : ComposeM (List Node) := do
  let first ← peekToken
  skipToken
  let mut items : Array Node := #[]
  let mut isFirst := true
  for _ in [0:(← tokenBound)] do
    let mut tok ← peekToken
    if tok.isOneOf [.flowSequenceEnd] then
      skipToken
      return items.toList
    if !isFirst then
      if tok.isOneOf [.flowEntry] then
        skipToken
        tok ← peekToken
      else
        failParse "while parsing a flow sequence" first.start "did not find expected ',' or ']'" tok.start
    isFirst := false
    if tok.isOneOf [.key] then
      skipToken
      let kt ← peekToken
      let key ←
        if kt.isOneOf [.value, .flowEntry, .flowSequenceEnd] then do
          skipToken
          pure (emptyAt kt.stop)
        else node false false
      let vt ← peekToken
      let value ←
        if vt.isOneOf [.value] then do
          skipToken
          let nt ← peekToken
          if nt.isOneOf [.flowEntry, .flowSequenceEnd] then pure (emptyAt vt.start) else node false false
        else pure (emptyAt vt.start)
      items := items.push (.mapping [(key, value)] "" (tok.start.line + 1))
    else if !tok.isOneOf [.flowSequenceEnd] then
      items := items.push (← node false false)
  return items.toList

/-- The pairs of a flow mapping; a key without `:` has an empty value. -/
def flowMappingPairs (node : NodeReader) : ComposeM (List (Node × Node)) := do
  let first ← peekToken
  skipToken
  let mut pairs : Array (Node × Node) := #[]
  let mut isFirst := true
  for _ in [0:(← tokenBound)] do
    let mut tok ← peekToken
    if tok.isOneOf [.flowMappingEnd] then
      skipToken
      return pairs.toList
    if !isFirst then
      if tok.isOneOf [.flowEntry] then
        skipToken
        tok ← peekToken
      else
        failParse "while parsing a flow mapping" first.start "did not find expected ',' or '\x7d'" tok.start
    isFirst := false
    if tok.isOneOf [.key] then
      skipToken
      let kt ← peekToken
      let key ← if kt.isOneOf [.value, .flowEntry, .flowMappingEnd] then pure (emptyAt kt.start)
        else node false false
      let vt ← peekToken
      let value ←
        if vt.isOneOf [.value] then do
          skipToken
          let nt ← peekToken
          if nt.isOneOf [.flowEntry, .flowMappingEnd] then pure (emptyAt nt.start) else node false false
        else pure (emptyAt vt.start)
      pairs := pairs.push (key, value)
    else if !tok.isOneOf [.flowMappingEnd] then
      let key ← node false false
      let vt ← peekToken
      pairs := pairs.push (key, emptyAt vt.start)
  return pairs.toList

/-- The anchor and the tag before a node, in either order. -/
def nodeProperties : ComposeM (Option String × Option (String × String × Mark)) := do
  let tok ← peekToken
  match tok.kind with
  | .anchor a =>
    skipToken
    let t2 ← peekToken
    match t2.kind with
    | .tag h s => skipToken; return (some a, some (h, s, t2.start))
    | _ => return (some a, none)
  | .tag h s =>
    skipToken
    let t2 ← peekToken
    match t2.kind with
    | .anchor a => skipToken; return (some a, some (h, s, tok.start))
    | _ => return (none, some (h, s, tok.start))
  | _ => return (none, none)

/-- Reads a node, at most `fuel` levels deep. -/
def parseNode : Nat → Bool → Bool → ComposeM Node
  | 0, _, _ => do
    let tok ← peekToken
    failParse "while parsing a node" tok.start "exceeded max depth" tok.start
  | fuel + 1, block, indentless => do
    let tok ← peekToken
    if let .alias name := tok.kind then
      skipToken
      return ← aliasNode name tok.start
    let startMark := tok.start
    let (anchor, tagged) ← nodeProperties
    let tag ← match tagged with
      | none => pure ""
      | some (h, s, m) =>
        if h.isEmpty then pure s
        else match (← get).handles.lookup h with
          | some pre => pure (pre ++ s)
          | none => failParse "while parsing a node" startMark "found undefined tag handle" m
    let tok ← peekToken
    let line := startMark.line + 1
    let id? ← match anchor with
      | some a => some <$> reserveAnchor a
      | none => pure none
    let node ←
      if indentless && tok.isOneOf [.blockEntry] then do
        pure (.sequence (← indentlessItems (parseNode fuel)) tag line)
      else match tok.kind with
        | .scalar v style => do
          skipToken
          pure (.scalar v style tag line)
        | .flowSequenceStart => do pure (.sequence (← flowSequenceItems (parseNode fuel)) tag line)
        | .flowMappingStart => do pure (.mapping (← flowMappingPairs (parseNode fuel)) tag line)
        | .blockSequenceStart =>
          if block then do pure (.sequence (← blockSequenceItems (parseNode fuel)) tag line)
          else noContent block anchor tagged tag line startMark tok
        | .blockMappingStart =>
          if block then do pure (.mapping (← blockMappingPairs (parseNode fuel)) tag line)
          else noContent block anchor tagged tag line startMark tok
        | _ => noContent block anchor tagged tag line startMark tok
    if let some id := id? then fillAnchor id node
    return node
where
  /-- Where no node content follows: an empty scalar after an anchor or a tag,
  else a problem. -/
  noContent (block : Bool) (anchor : Option String) (tagged : Option (String × String × Mark))
      (tag : String) (line : Nat) (startMark : Mark) (tok : Token) : ComposeM Node :=
    if anchor.isSome || tagged.isSome then pure (.scalar "" .plain tag line)
    else failParse (if block then "while parsing a block node" else "while parsing a flow node") startMark
      "did not find expected node content" tok.start

/-- The tag handles every document knows. -/
def defaultHandles : List (String × String) := [("!", "!"), ("!!", "tag:yaml.org,2002:")]

/-- Read the directives before a document and put the tag handles in force. -/
def processDirectives : ComposeM Unit := do
  let mut seenVersion := false
  let mut handles : List (String × String) := []
  for _ in [0:(← tokenBound)] do
    let tok ← peekToken
    match tok.kind with
    | .versionDirective major minor =>
      if seenVersion then failParse "" {} "found duplicate %YAML directive" tok.start
      if major ≠ 1 || minor ≠ 1 then failParse "" {} "found incompatible YAML document" tok.start
      seenVersion := true
      skipToken
    | .tagDirective h pre =>
      if (handles.lookup h).isSome then failParse "" {} "found duplicate %TAG directive" tok.start
      handles := handles ++ [(h, pre)]
      skipToken
    | _ => break
  let defaults := defaultHandles.filter fun (h, _) => (handles.lookup h).isNone
  modify fun c => { c with handles := handles ++ defaults }

/-- The first document of the stream, if there is one. -/
def parseDocument : ComposeM (Option Node) := do
  let fuel ← tokenBound
  let _ ← peekToken
  skipToken
  let tok ← peekToken
  if !tok.isOneOf [.versionDirective, .tagDirective, .documentStart, .streamEnd] then
    processDirectives
    let n ← parseNode fuel true false
    documentEnd
    return some n
  else if !tok.isOneOf [.streamEnd] then
    processDirectives
    let tok ← peekToken
    if !tok.isOneOf [.documentStart] then
      failParse "" {} "did not find expected <document start>" tok.start
    skipToken
    let tok ← peekToken
    let n ←
      if tok.isOneOf [.versionDirective, .tagDirective, .documentStart, .documentEnd, .streamEnd] then
        pure (emptyAt tok.start)
      else parseNode fuel true false
    documentEnd
    return some n
  else return none
where
  /-- The end of a document: an explicit `...` is passed. -/
  documentEnd : ComposeM Unit := do
    let tok ← peekToken
    if tok.isOneOf [.documentEnd] then skipToken

/-- The first document of a YAML text, with the table of its anchored nodes. -/
def compose (text : String) : Except ReadError (Option (Node × Array Node)) :=
  match parseDocument.run { scan := scan text } with
  | .ok (none, _) => .ok none
  | .ok (some n, c) => .ok (some (n, c.anchored))
  | .error e => .error e

end NetFleet.Yaml
