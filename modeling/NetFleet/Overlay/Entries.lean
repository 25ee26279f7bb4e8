import NetFleet.Overlay.Store
import NetFleet.Json.Raw
import NetFleet.Json.Print
import NetFleet.Reply
import NetFleet.Schema.Decode

/-!
# Lists of disabled entries

Each overlay key holds one JSON document that maps router ids to lists of
disabled entries (`{"SIN1": ["eth3"]}`), so that several routers share a key.
The overlay of one router reads and changes its own list only:

* a missing key, an empty value or a router without a list reads as no list; a
  router's value that is not a list of strings is treated as absent;
* a change reads the document, changes the router's list and writes the whole
  document back, members sorted and the other routers' values kept as written;
* adding an entry twice, or removing one that is not there, is refused and
  changes nothing; an empty entry is refused before anything is read;
* every failure of the store is a backend fault of `redis`, and a document that
  does not read is one too;
* a document stored as `null` reads as no lists, but a change that would store
  a list in it cannot be made: the change aborts (`Change.crashed`).

The replies (`Lists.addEntry`, …) answer in the envelope of operations.
-/

namespace NetFleet.Overlay

open NetFleet (Json Fault Reply Output)

/-- The key of disabled ethernet interfaces. -/
def ethernetKey : String := "ethernet_disabled"

/-- The key of disabled tunnels. -/
def tunnelKey : String := "tunnel_disabled"

/-- The key of disabled BGP peers. -/
def bgpKey : String := "bgp_disabled"

/-- The key of disabled IS-IS interfaces. -/
def isisKey : String := "isis_disabled"

/-- A stored document: each router's value as written, sorted by router; `none`
for the document `null`. -/
abbrev Document := Option (List (String × String))

/-- Put a member into a sorted document, replacing one of the same name. -/
def putMember (k v : String) : List (String × String) → List (String × String)
  | [] => [(k, v)]
  | (k', v') :: rest =>
    if k' = k then (k, v) :: rest
    else if k < k' then (k, v) :: (k', v') :: rest
    else (k', v') :: putMember k v rest

/-- A fault of the store. -/
def storeFault (f : Fault) : Fault := .backend "redis" f

/-- Read the document under `key` from its stored text, if any. -/
def decodeDocument (key : String) (raw : Option String) : Except Fault Document :=
  let fail := fun (msg : String) => storeFault (.within ("decoding " ++ key) (.plain msg))
  match raw with
  | none | some "" => .ok (some [])
  | some text =>
    match Json.parse text with
    | .error e => .error (fail e.message)
    | .ok .null => .ok none
    | .ok (.obj _) =>
      .ok (some ((Json.rawMembers text).foldl (fun acc (k, v) => putMember k v acc) []))
    | .ok j => .error (fail ((Schema.DecodeError.mismatch (Schema.foundName j)
        "map[string]jsontext.Value" []).message ""))

/-- The list of a router in a document: absent unless its value is a list of
strings, where `null` items read as empty strings. -/
def Document.list (d : Document) (router : String) : Option (List String) := do
  let members ← d
  let raw ← (members.find? (·.1 = router)).map (·.2)
  match Json.parse raw with
  | .ok (.arr items) =>
    items.mapM fun
      | .str s => some s
      | .null => some ""
      | _ => none
  | _ => none

/-- The text of a document: members sorted, values compacted. -/
def renderDocument (members : List (String × String)) : String :=
  "\x7b" ++ ",".intercalate (members.map fun (k, v) =>
    Json.quote .html k ++ ":" ++ Json.compactText v) ++ "\x7d"

/-- The text of a list of entries. -/
def renderList (entries : List String) : String := Json.render .html (Json.strs entries)

/-- The disabled lists of one router. -/
structure Lists where
  router : String

/-- The document under a key. -/
def loadDocument (store : Store) (key : String) : Except Fault Document := do
  let raw ← match store.get key with
    | .ok r => pure r
    | .error e => throw (storeFault (.plain e))
  decodeDocument key raw

/-- The router's list under a key, and whether it has one; no list reads as an
empty one. -/
def Lists.entries (o : Lists) (store : Store) (key : String) : Except Fault (List String × Bool) := do
  let doc ← loadDocument store key
  match doc.list o.router with
  | some es => pure (es, true)
  | none => pure ([], false)

/-- Whether an entry is in the router's list under a key. -/
def Lists.contains (o : Lists) (store : Store) (key entry : String) : Except Fault Bool := do
  let (es, _) ← o.entries store key
  pure (es.contains entry)

/-- What became of a change to a list. -/
inductive Change where
  /-- the list became `entries` and was written -/
  | applied (entries : List String) (store : Store)
  /-- nothing was written; `entries` is the list as it was, when it was read -/
  | refused (entries : Option (List String)) (fault : Fault)
  /-- the document is `null`, so no list can be stored in it -/
  | crashed

/-- The message of a change that crashed. -/
def crashMessage : String := "assignment to entry in nil map"

/-- Change the router's list under a key with `step`, which gets the current
list (none when there is none) and may refuse. -/
def Lists.update (o : Lists) (store : Store) (key : String)
    (step : List String → Except Fault (List String)) : Change :=
  match store.updateError with
  | some e => .refused none (storeFault (.plain e))
  | none =>
    match decodeDocument key (store.lookup key) with
    | .error f => .refused none f
    | .ok doc =>
      let cur := doc.list o.router
      match step (cur.getD []) with
      | .error f => .refused cur f
      | .ok entries =>
        match doc with
        | none => .crashed
        | some members =>
          let text := renderDocument (putMember o.router (renderList entries) members)
          .applied entries (store.set key text)

/-- A refusal of an entry that is already or not in a list. -/
def entryFault (entry key : String) (s : Sentinel) : Fault :=
  .wrap (entry ++ " in " ++ key ++ ": ") "" (.sentinel s)

/-- Refuse an empty entry. -/
def checkEntry (entry : String) : Except Fault Unit :=
  if entry = "" then .error (.validation ["entry: must not be empty"]) else .ok ()

/-- Add an entry to the end of the router's list under a key. -/
def Lists.add (o : Lists) (store : Store) (key entry : String) : Change :=
  match checkEntry entry with
  | .error f => .refused none f
  | .ok () => o.update store key fun es =>
    if es.contains entry then .error (entryFault entry key .alreadyExists) else .ok (es ++ [entry])

/-- Remove the first occurrence of an entry from the router's list under a key. -/
def Lists.remove (o : Lists) (store : Store) (key entry : String) : Change :=
  match checkEntry entry with
  | .error f => .refused none f
  | .ok () => o.update store key fun es =>
    if es.contains entry then .ok (es.erase entry) else .error (entryFault entry key .notFound)

/-- Mark an entry in the router's list under a key (`disable`), or take its mark
away: add the entry, or remove it. -/
def Lists.mark (o : Lists) (store : Store) (key entry : String) (disable : Bool) : Change :=
  if disable then o.add store key entry else o.remove store key entry

/-- The store after a change. -/
def Change.store (c : Change) (before : Store) : Store :=
  match c with
  | .applied _ s => s
  | _ => before

/-- The reply to a change: `none` when it crashed. -/
def Change.reply (c : Change) (done refusal : String) (refused : Sentinel) : Option Reply :=
  match c with
  | .applied es _ => some (Reply.ok done (some (.data (Json.strs es))))
  | .refused _ f => some (if f.isA refused then Reply.fail refusal else Reply.ofFault (some f))
  | .crashed => none

/-- Add an entry, answered in the envelope. -/
def Lists.addEntry (o : Lists) (store : Store) (key entry : String) : Change × Option Reply :=
  let c := o.add store key entry
  (c, c.reply "Entry successfully added" "Entry already added in REDIS" .alreadyExists)

/-- Remove an entry, answered in the envelope. -/
def Lists.removeEntry (o : Lists) (store : Store) (key entry : String) : Change × Option Reply :=
  let c := o.remove store key entry
  (c, c.reply "Entry removed" "Entry not found" .notFound)

/-- Whether an entry is in the list, answered in the envelope: a missing entry is
a successful answer with output `false`. -/
def Lists.checkEntry (o : Lists) (store : Store) (key entry : String) : Reply :=
  match o.contains store key entry with
  | .error f => Reply.ofFault (some f)
  | .ok true => Reply.ok "Entry found" (some (.data (.bool true)))
  | .ok false => Reply.ok "Entry not found" (some (.data (.bool false)))

/-- The router's list, answered in the envelope; a router without a list is
refused with an empty output. -/
def Lists.getEntries (o : Lists) (store : Store) (key : String) : Reply :=
  match o.entries store key with
  | .error f => Reply.ofFault (some f)
  | .ok (_, false) => { result := false, comment := "No entries found", out := some (.data (.arr [])) }
  | .ok (es, true) => Reply.ok "" (some (.data (Json.strs es)))

end NetFleet.Overlay
