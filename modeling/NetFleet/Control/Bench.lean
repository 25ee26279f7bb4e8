import NetFleet.Control.Station
import NetFleet.Netdb.Stub
import NetFleet.Router.Scripted

/-!
# A bench for stations

A bench stands in for every service a station talks to: the stand-ins of the
inventory database and the utility service, an overlay store in memory, and a
scripted shell for the router. Running a station's operations on the bench
(`StateM Bench`) shows what they asked and changed: the requests the services
logged, the commands the shell ran, and the store afterwards.
-/

namespace NetFleet.Control

/-- The stand-ins a station runs against. -/
structure Bench where
  services : Netdb.Stubs := {}
  store : Overlay.Store := {}
  shell : Router.ScriptedShell := {}

namespace Bench

/-- A client of a stand-in service on the bench (`true` for the database). -/
def client (isData : Bool) (endpoint : Http.Endpoint) : Netdb.Client (StateM Bench) :=
  ⟨⟨fun r => modifyGet fun b =>
    let (ex, st) := b.services.serve isData r
    (ex, { b with services := st })⟩, endpoint⟩

/-- The bench's overlay store. -/
def keeper : Keeper (StateM Bench) :=
  ⟨do return (← get).store, fun st => modify fun b => { b with store := st }⟩

/-- The bench's scripted shell. -/
def shellOf : Router.Shell (StateM Bench) :=
  ⟨fun cmd => modifyGet fun b =>
    let (a, sh) := b.shell.run cmd
    (a, { b with shell := sh })⟩

/-- A station on the bench for a router: with the overlay store and the shell
when asked for. -/
def station (endpoint : Http.Endpoint) (facts : Router.Facts) (user : String)
    (withOverlay withShell audited : Bool) : Station (StateM Bench) :=
  { netdb := client true endpoint
    overlay := if withOverlay then some keeper else none
    shell := if withShell then some shellOf else none
    facts, user, audited }

end Bench

end NetFleet.Control
