/-!
# Faults

A `Fault` is the cause of a failed operation. Some causes carry data (the
messages of a failed validation, an unmet precondition, a missing column, the
service that failed); the others are one of a fixed set of `Sentinel`s or a
plain message. A fault may be wrapped in context (`Fault.wrap`), which changes
its message and keeps its cause, so that questions about the cause
(`Fault.isA`, `Fault.precondition?`, `Fault.kind`) look through any number of
wrappings. A backend fault is both a backend failure and whatever its own cause
is.
-/

namespace NetFleet

/-- Causes without data. -/
inductive Sentinel where
  | alreadyExists
  | notFound
  | preconditionFailed
  | validationFailed
  | unknownColumnType
  | invalidCategory
  | columnNotFound
  | backend
  | unsupported
deriving DecidableEq, Inhabited, Repr

/-- The message of a cause without data. -/
def Sentinel.message : Sentinel → String
  | .alreadyExists => "resource already exists"
  | .notFound => "resource not found"
  | .preconditionFailed => "precondition not met"
  | .validationFailed => "validation failed"
  | .unknownColumnType => "unknown column type"
  | .invalidCategory => "invalid category"
  | .columnNotFound => "column not found"
  | .backend => "backend error"
  | .unsupported => "unsupported"

/-- The cause of a failed operation. -/
inductive Fault where
  /-- A document or request broke the listed rules. -/
  | validation (messages : List String)
  /-- An operation on a resource needs a condition that does not hold. -/
  | precondition (operation resource condition details : String)
  /-- The database answered that a column is not there. -/
  | columnNotFound (column setId comment : String)
  /-- A request method that the utility service does not take. -/
  | method (name : String)
  /-- A service failed; `cause` says how. -/
  | backend (service : String) (cause : Fault)
  /-- A cause without data. -/
  | sentinel (s : Sentinel)
  /-- A failure known only by its message. -/
  | plain (msg : String)
  /-- A fault with context written before and after its message. -/
  | wrap (before after : String) (inner : Fault)
deriving Inhabited, BEq

namespace Fault

/-- The text of a list of validation messages: one message follows the heading
on its line, several stand on lines of their own. -/
def validationText : List String → String
  | [m] => "validation failed: " ++ m
  | ms => "validation failed:\n  - " ++ "\n  - ".intercalate ms

/-- The message of a fault. -/
def message : Fault → String
  | .validation ms => validationText ms
  | .precondition op res cond details =>
    "precondition failed for " ++ op ++ " on " ++ res ++ ": " ++ cond ++
      (if details = "" then "" else " (" ++ details ++ ")")
  | .columnNotFound column setId comment =>
    if comment = "" then "column " ++ column ++ " not found for " ++ setId else comment
  | .method name => "Internal runner error: " ++ name ++ " not allowed."
  | .backend service cause => service ++ " error: " ++ cause.message
  | .sentinel s => s.message
  | .plain msg => msg
  | .wrap before after inner => before ++ inner.message ++ after

/-- A fault with `context: ` written before its message. -/
def within (context : String) (f : Fault) : Fault := .wrap (context ++ ": ") "" f

/-- Whether the fault has the cause `s` anywhere in its chain. Each fault with
data also stands for the sentinel of its kind. -/
def isA (s : Sentinel) : Fault → Bool
  | .validation _ => s == .validationFailed
  | .precondition .. => s == .preconditionFailed
  | .columnNotFound .. => s == .columnNotFound
  | .method _ => s == .unsupported
  | .backend _ cause => s == .backend || cause.isA s
  | .sentinel s' => s == s'
  | .plain _ => false
  | .wrap _ _ inner => inner.isA s

/-- The first validation fault in the chain, by its messages. -/
def validation? : Fault → Option (List String)
  | .validation ms => some ms
  | .backend _ cause => cause.validation?
  | .wrap _ _ inner => inner.validation?
  | _ => none

/-- The first unmet precondition in the chain: the condition. -/
def precondition? : Fault → Option String
  | .precondition _ _ cond _ => some cond
  | .backend _ cause => cause.precondition?
  | .wrap _ _ inner => inner.precondition?
  | _ => none

/-- The first missing column in the chain, as its message. -/
def columnNotFound? : Fault → Option String
  | f@(.columnNotFound ..) => some f.message
  | .backend _ cause => cause.columnNotFound?
  | .wrap _ _ inner => inner.columnNotFound?
  | _ => none

/-- Whether a refused method is in the chain. -/
def hasMethod : Fault → Bool
  | .method _ => true
  | .backend _ cause => cause.hasMethod
  | .wrap _ _ inner => inner.hasMethod
  | _ => false

/-- Whether a service failure is in the chain. -/
def hasBackend : Fault → Bool
  | .backend .. => true
  | .wrap _ _ inner => inner.hasBackend
  | _ => false

/-- The kind of a fault, by the first of these that its chain holds: a
validation, a precondition, a missing column, a refused method, a service
failure, then the sentinels `unknownColumnType`, `invalidCategory`, `notFound`,
`alreadyExists` and `unsupported`; otherwise a plain error. -/
def kind (f : Fault) : String :=
  if f.validation?.isSome then "ValidationError"
  else if f.precondition?.isSome then "PreconditionError"
  else if f.columnNotFound?.isSome then "ColumnNotFoundError"
  else if f.hasMethod then "MethodError"
  else if f.hasBackend then "BackendError"
  else if f.isA .unknownColumnType then "UnknownColumnType"
  else if f.isA .invalidCategory then "InvalidCategory"
  else if f.isA .notFound then "NotFound"
  else if f.isA .alreadyExists then "AlreadyExists"
  else if f.isA .unsupported then "Unsupported"
  else "Error"

/-- Whether the fault means that a column or element is missing. -/
def isNotFound (f : Fault) : Bool := f.isA .notFound || f.isA .columnNotFound

end Fault

end NetFleet
