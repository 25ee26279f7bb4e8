import NetFleet.Fault
import NetFleet.Json.Value
import NetFleet.Column.Kind
import NetFleet.Text.Numeral
import NetFleet.Text.Duration
import NetFleet.Http.Authority

/-!
# Settings of the agent

The agent's settings locate the netdb services (`netdb.*`, with an optional
local instance `netdb_local.*`), the overlay store (`redis.*`), the router
login (`device.*`) and the audit log (`audit.file`). Each is set and read by
its dotted key, in text form: durations as `1m30s`, booleans and integers in
decimal. A value that does not read leaves the zero value of its type behind
and is refused, naming the key. The device password reads back masked.

`Agent.validate` checks what every command needs (a set id, a netdb URL,
absolute URLs with a host, a timeout not negative, a store address and a
database number in `0…15`); `Agent.validateDevice` checks the router login.
Paths starting with `~` are taken from the home directory.
-/

namespace NetFleet.Settings

open NetFleet (Fault Json)
open NetFleet.Text (Duration)

/-- The settings of the agent. -/
structure Agent where
  netdbId : String := ""
  netdbUrl : String := ""
  utilUrl : String := ""
  key : String := ""
  ca : String := ""
  timeout : Duration := 30000000000
  localEnabled : Bool := false
  localUrl : String := "http://127.0.0.1:8001/api/"
  redisAddr : String := "172.17.0.1:6379"
  redisDb : Int := 0
  deviceHost : String := ""
  devicePort : Int := 22
  deviceUser : String := "vyos"
  devicePassword : String := ""
  deviceOs : String := "vyos"
  auditFile : String := ""

/-- The keys that may be set, sorted. -/
def keys : List String :=
  ["audit.file", "device.host", "device.os", "device.password", "device.port", "device.user",
   "netdb.ca", "netdb.id", "netdb.key", "netdb.timeout", "netdb.url", "netdb.util_url",
   "netdb_local.enabled", "netdb_local.url", "redis.addr", "redis.db"]

/-- The refusal of an unknown key. -/
def unknownKey (key : String) : Fault := .validation [key ++ ": unknown setting"]

/-- The settings after a value read from text, and the refusal when it did not
read. -/
def Agent.set (s : Agent) (key value : String) : Agent × Option Fault :=
  let refuse (err : Option String) : Option Fault := err.map fun e => .validation [key ++ ": " ++ e]
  match key with
  | "netdb.id" => ({ s with netdbId := Column.normalizeSetId value }, none)
  | "netdb.url" => ({ s with netdbUrl := value }, none)
  | "netdb.util_url" => ({ s with utilUrl := value }, none)
  | "netdb.key" => ({ s with key := value }, none)
  | "netdb.ca" => ({ s with ca := value }, none)
  | "netdb.timeout" =>
    match Text.Duration.read value with
    | .ok d => ({ s with timeout := d }, none)
    | .error e => ({ s with timeout := 0 }, refuse (some e))
  | "netdb_local.enabled" =>
    let (b, err) := Text.readBool value
    ({ s with localEnabled := b }, refuse err)
  | "netdb_local.url" => ({ s with localUrl := value }, none)
  | "redis.addr" => ({ s with redisAddr := value }, none)
  | "redis.db" =>
    let (n, err) := Text.readInt value
    ({ s with redisDb := n }, refuse err)
  | "device.host" => ({ s with deviceHost := value }, none)
  | "device.port" =>
    let (n, err) := Text.readInt value
    ({ s with devicePort := n }, refuse err)
  | "device.user" => ({ s with deviceUser := value }, none)
  | "device.password" => ({ s with devicePassword := value }, none)
  | "device.os" => ({ s with deviceOs := value }, none)
  | "audit.file" => ({ s with auditFile := value }, none)
  | _ => (s, some (unknownKey key))

/-- A setting in the text form that `set` reads; the password masked. -/
def Agent.get (s : Agent) (key : String) : Except Fault String :=
  match key with
  | "netdb.id" => .ok s.netdbId
  | "netdb.url" => .ok s.netdbUrl
  | "netdb.util_url" => .ok s.utilUrl
  | "netdb.key" => .ok s.key
  | "netdb.ca" => .ok s.ca
  | "netdb.timeout" => .ok (Text.Duration.show s.timeout)
  | "netdb_local.enabled" => .ok (if s.localEnabled then "true" else "false")
  | "netdb_local.url" => .ok s.localUrl
  | "redis.addr" => .ok s.redisAddr
  | "redis.db" => .ok (toString s.redisDb)
  | "device.host" => .ok s.deviceHost
  | "device.port" => .ok (toString s.devicePort)
  | "device.user" => .ok s.deviceUser
  | "device.password" => .ok (if s.devicePassword = "" then "" else "********")
  | "device.os" => .ok s.deviceOs
  | "audit.file" => .ok s.auditFile
  | _ => .error (unknownKey key)

/-- The refusal listing the messages of failed checks, if any. -/
def checks (cs : List (Bool × String)) : Except Fault Unit :=
  match cs.filterMap fun (ok, msg) => if ok then none else some msg with
  | [] => .ok ()
  | ms => .error (.validation ms)

/-- Check the settings every command needs. -/
def Agent.validate (s : Agent) : Except Fault Unit :=
  let urls := [("netdb.url", s.netdbUrl), ("netdb.util_url", s.utilUrl), ("netdb_local.url", s.localUrl)]
  checks ([(s.netdbId != "", "netdb.id: required"), (s.netdbUrl != "", "netdb.url: required")] ++
    (urls.filterMap fun (k, raw) =>
      if raw = "" then none
      else some (Http.isServiceUrl raw, k ++ ": invalid URL " ++ Text.quote raw)) ++
    [(decide (s.timeout ≥ 0), "netdb.timeout: must not be negative"),
     (s.redisAddr != "", "redis.addr: required"),
     (0 ≤ s.redisDb && s.redisDb ≤ 15, "redis.db: must be between 0 and 15")])

/-- Check the router login. -/
def Agent.validateDevice (s : Agent) : Except Fault Unit :=
  checks [(s.deviceHost != "", "device.host: required"), (s.deviceUser != "", "device.user: required"),
    (0 < s.devicePort && s.devicePort ≤ 65535, "device.port: must be between 1 and 65535")]

/-- A path cleaned: no empty or `.` parts, each `..` taking back the part before
it (none at the root), `.` for nothing. -/
def cleanPath (p : String) : String :=
  let rooted := p.startsWith "/"
  let parts := (p.splitOn "/").filter fun x => x ≠ "" && x ≠ "."
  let kept := parts.foldl (fun (acc : List String) x =>
    if x = ".." then
      match acc with
      | y :: rest => if y = ".." then x :: acc else rest
      | [] => if rooted then [] else [x]
    else x :: acc) []
  let body := "/".intercalate kept.reverse
  if rooted then "/" ++ body else if body = "" then "." else body

/-- A path with a leading `~` (alone or before `/`) taken from `home`. -/
def expandHome (home p : String) : String :=
  if p ≠ "~" && !p.startsWith "~/" then p
  else
    let rest := (p.drop 1).toString
    cleanPath (if rest = "" then home else home ++ "/" ++ rest)

/-- The audit log: the setting with `~` expanded, or `audit.log` beside the
default settings file. -/
def Agent.auditPath (s : Agent) (home : String) : String :=
  if s.auditFile = "" then cleanPath (home ++ "/.netdbctl") ++ "/audit.log"
  else expandHome home s.auditFile

/-- The URL requests go to: the local instance when it is enabled and has a URL. -/
def Agent.baseUrl (s : Agent) : String :=
  if s.localEnabled && s.localUrl ≠ "" then s.localUrl else s.netdbUrl

/-- The client configuration of the netdb services. -/
def Agent.netdbConfig (s : Agent) (home : String) : Json :=
  .obj [("url", .str s.netdbUrl), ("util_url", .str s.utilUrl), ("local_url", .str s.localUrl),
    ("local_enabled", .bool s.localEnabled), ("key", .str (expandHome home s.key)),
    ("ca", .str (expandHome home s.ca)), ("timeout", .str (Text.Duration.show s.timeout)),
    ("base_url", .str s.baseUrl)]

/-- The router login, with no timeout of its own. -/
def Agent.sshConfig (s : Agent) : Json :=
  .obj [("Host", .str s.deviceHost), ("Port", Json.ofInt s.devicePort), ("User", .str s.deviceUser),
    ("Password", .str s.devicePassword), ("Timeout", Json.ofNat 0)]

end NetFleet.Settings
