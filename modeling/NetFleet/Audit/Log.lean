import NetFleet.Audit.Event
import NetFleet.Json.Print
import NetFleet.Json.Parse
import NetFleet.Text.Glob

/-!
# The audit log

The audit log is a file of JSON lines, one per event. With a size limit, an
event that would take a non-empty file past the limit first moves the file
aside as a backup and starts a new one; with a backup limit, only that many of
the newest backups are kept. A closed log refuses new events.

`AuditLog` is the state of such a log: the text of the current file, the other
files beside it by name, and whether it is open. A backup is named by the path,
a dot and a stamp of the rotation; the stamps sort in the order the rotations
were made. The backups are found again by the names that the path followed by
`.*` matches as a shell pattern (`Text.glob`), sorted: the path's own characters
count as the pattern's, so a path with a bracket that is not closed fails every
query and stops pruning, and one with other pattern characters may miss its
backups or take other files for them.

A query reads the backups and then the current file, line by line, skipping
lines that do not hold an event, and pages the events that match. It reads each
line into a buffer of 1 MiB: a line that does not fit with its feed fails the
query, whatever was read before it.
-/

namespace NetFleet.Audit

/-- The state of an audit log. -/
structure AuditLog where
  path : String
  maxSize : Int := 0
  maxBackups : Int := 0
  current : String := ""
  /-- the other files beside the current one, by name, with their text: the
  backups the log moved aside, and any other file there -/
  files : List (String × String) := []
  /-- how many times the log has rotated; the count stamps the next backup -/
  rotations : Nat := 0
  isOpen : Bool := true
deriving Inhabited

namespace AuditLog

/-- The texts of the files beside the current one, in the order they were made. -/
def backups (l : AuditLog) : List String := l.files.map (·.2)

/-- The fault of a pattern that is not well formed. -/
def badPattern : Fault := .plain "syntax error in pattern"

/-- The names of the backups, oldest first: the files that the path followed by
`.*` matches, as a pattern, sorted. -/
def backupNames (l : AuditLog) : Except Fault (List String) :=
  match Text.glob (l.path ++ ".*") (l.files.map (·.1)) with
  | .error _ => .error badPattern
  | .ok names => .ok names

/-- After a rotation under a backup limit, the oldest backups beyond the limit are
removed; nothing is when the backups cannot be listed. -/
def prune (l : AuditLog) : AuditLog :=
  match l.backupNames with
  | .error _ => l
  | .ok names =>
    if (names.length : Int) ≤ l.maxBackups then l
    else
      let old := names.take (names.length - l.maxBackups.toNat)
      { l with files := l.files.filter fun f => !old.contains f.1 }

/-- The lowest `w` decimal digits of `n`, the most significant first. -/
def fixedDigits : Nat → Nat → List Char
  | 0, _ => []
  | w + 1, n => Char.ofNat (48 + n / Nat.pow 10 w % 10) :: fixedDigits w n

/-- The stamp of rotation `n` in the name of its backup: `n` in 23 digits, the
width of the time stamps the log writes, after a tilde for each `10^23` in it, so
that later rotations have later stamps. -/
def stampOf (n : Nat) : String :=
  String.ofList (List.replicate (n / Nat.pow 10 23) '~' ++ fixedDigits 23 n)

/-- The name of the backup of rotation `n`: the path, a dot and the stamp. -/
def backupName (l : AuditLog) (n : Nat) : String := l.path ++ "." ++ stampOf n

/-- A rotation: the current file moves aside under the name of its backup, a new
file starts, and under a backup limit the oldest backups go. -/
def rotate (l : AuditLog) : AuditLog :=
  let name := l.backupName l.rotations
  let l' := { l with
    files := l.files.filter (·.1 != name) ++ [(name, l.current)]
    current := ""
    rotations := l.rotations + 1 }
  if l.maxBackups > 0 then l'.prune else l'

/-- Write an event, rotating first when the file would grow past its limit. -/
def log (l : AuditLog) (e : Event) : Except Fault AuditLog :=
  match e.encode with
  | .error msg => .error (.plain ("json: error calling MarshalJSON for type *time.Time: " ++ msg))
  | .ok j =>
    if !l.isOpen then .error (.plain ("audit log " ++ l.path ++ " is closed"))
    else
    let line := Json.render .html j ++ "\n"
    let size := l.current.utf8ByteSize
    let l := if l.maxSize > 0 ∧ size + line.utf8ByteSize > l.maxSize ∧ size > 0 then l.rotate else l
    .ok { l with current := l.current ++ line }

/-- Append raw text to the current file. -/
def appendRaw (l : AuditLog) (text : String) : AuditLog := { l with current := l.current ++ text }

/-- Close the log. -/
def close (l : AuditLog) : AuditLog := { l with isOpen := false }

/-- The lines of a file as they are read: split at line feeds, with no empty last
line after a final feed. -/
def rawLines (text : String) : List String :=
  let parts := text.toList.splitOn '\n'
  (if parts.getLast? = some [] then parts.dropLast else parts).map String.ofList

/-- A line without the carriage return before its feed. -/
def dropReturn (line : String) : String :=
  if line.toList.getLast? = some '\r' then String.ofList line.toList.dropLast else line

/-- The event a line holds, if it holds one. -/
def eventOf (line : String) : Option Event :=
  match Json.parse (dropReturn line) with
  | .ok j => Event.ofJson? j
  | .error _ => none

/-- The bytes a query reads a line into: a line must fit with its feed. -/
def lineBuffer : Nat := 1024 * 1024

/-- The fault of a query that meets a line that does not fit its buffer. -/
def tooLong : Fault := .plain "bufio.Scanner: token too long"

/-- The events of the backups and the current file, oldest first, that the filter
selects, paged. A line that does not fit the buffer fails the whole query, and
so does a path that is not well formed as a pattern. -/
def query (l : AuditLog) (f : Filter) : Except Fault (List Event) := do
  let names ← l.backupNames
  let lines := (names.map (fun n => (l.files.lookup n).getD "") ++ [l.current]).flatMap rawLines
  if lines.any (·.utf8ByteSize ≥ lineBuffer) then .error tooLong
  else .ok (f.page ((lines.filterMap eventOf).filter f.selects))

end AuditLog

end NetFleet.Audit
