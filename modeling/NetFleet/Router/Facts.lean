import NetFleet.Netdb.Client
import NetFleet.Schema.Encode
import NetFleet.Column.Shapes

/-!
# Facts about a router

Operations on a router need its database id, its entry in the device column and
its operating system. The id is normalised (upper case) and must not be empty;
the device entry is read through the database client and decoded with the
device shape. Only VyOS routers take operational commands.
-/

namespace NetFleet.Router

open NetFleet (Json Fault)
open NetFleet.Schema (Node)

/-- The facts about one router. -/
structure Facts where
  id : String
  /-- the router's entry in the device column -/
  device : Node
  os : String
deriving Inhabited

/-- The operating system that takes operational commands. -/
def vyos : String := "vyos"

/-- Whether operational commands can run on the router. -/
def Facts.isVyos (f : Facts) : Bool := f.os = vyos

/-- The facts as JSON: the id and operating system beside the device entry. -/
def Facts.toJson (f : Facts) : Json :=
  match Schema.encode Column.deviceRecord f.device with
  | .obj ms => .obj ([("id", .str f.id)] ++ ms ++ [("os", .str f.os)])
  | other => other

/-- A device variable of the router, by name. -/
def Facts.cvar (f : Facts) (name : String) : Node := (f.device.member "cvars").member name

/-- Load the facts of router `id` from the database. -/
def Facts.load [Monad m] (c : Netdb.Client m) (id os : String) : Netdb.Call m Facts := do
  let id := Column.normalizeSetId id
  if id = "" then throw (.validation ["netdb.id: required"])
  let doc ← tryCatch (c.container id "device") fun f => throw (f.within ("loading grains for " ++ id))
  match doc.set? id with
  | some d => pure ⟨id, d, os⟩
  | none => throw (.columnNotFound "device" id "")

end NetFleet.Router
