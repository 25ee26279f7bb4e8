import NetFleet.Http.Url

/-!
# Requests and their answers

A request goes to one of the services behind a base URL: a method, a target read
as a URL, and perhaps a body. It either fails on the way (the transport gives a
reason) or is answered with a status and a body. A `Link` is any way of sending
requests; clients are written against it and never see how requests travel.
-/

namespace NetFleet.Http

/-- A service at a base URL: its name in faults, its origin (`http://host`) and
the path under which its endpoints lie. -/
structure Endpoint where
  name : String
  origin : String
  basePath : String
deriving Inhabited

/-- The base URL of an endpoint. -/
def Endpoint.base (e : Endpoint) : String := e.origin ++ e.basePath

/-- A request to an endpoint. -/
structure Request where
  endpoint : Endpoint
  method : String
  url : Url
  body : Option String

/-- What became of a request. -/
inductive Exchange where
  /-- the request did not reach an answer -/
  | failed (reason : String)
  /-- the service answered -/
  | answered (status : Nat) (body : String)

/-- A way of sending requests. -/
structure Link (m : Type → Type) where
  send : Request → m Exchange

/-- The name of a method as a verb: its first letter, then the rest in lower
case; no method at all is `Get`. -/
def verbOf (method : String) : String :=
  match method.toList with
  | [] => "Get"
  | c :: rest => String.ofList (c :: rest.map Char.toLower)

/-- The standard reason phrases of statuses; an unknown status has none. -/
def statusText : Nat → String
  | 100 => "Continue" | 101 => "Switching Protocols" | 102 => "Processing" | 103 => "Early Hints"
  | 200 => "OK" | 201 => "Created" | 202 => "Accepted" | 203 => "Non-Authoritative Information"
  | 204 => "No Content" | 205 => "Reset Content" | 206 => "Partial Content"
  | 207 => "Multi-Status" | 208 => "Already Reported" | 226 => "IM Used"
  | 300 => "Multiple Choices" | 301 => "Moved Permanently" | 302 => "Found" | 303 => "See Other"
  | 304 => "Not Modified" | 305 => "Use Proxy" | 307 => "Temporary Redirect"
  | 308 => "Permanent Redirect"
  | 400 => "Bad Request" | 401 => "Unauthorized" | 402 => "Payment Required" | 403 => "Forbidden"
  | 404 => "Not Found" | 405 => "Method Not Allowed" | 406 => "Not Acceptable"
  | 407 => "Proxy Authentication Required" | 408 => "Request Timeout" | 409 => "Conflict"
  | 410 => "Gone" | 411 => "Length Required" | 412 => "Precondition Failed"
  | 413 => "Request Entity Too Large" | 414 => "Request URI Too Long"
  | 415 => "Unsupported Media Type" | 416 => "Requested Range Not Satisfiable"
  | 417 => "Expectation Failed" | 418 => "I'm a teapot" | 421 => "Misdirected Request"
  | 422 => "Unprocessable Entity" | 423 => "Locked" | 424 => "Failed Dependency"
  | 425 => "Too Early" | 426 => "Upgrade Required" | 428 => "Precondition Required"
  | 429 => "Too Many Requests" | 431 => "Request Header Fields Too Large"
  | 451 => "Unavailable For Legal Reasons"
  | 500 => "Internal Server Error" | 501 => "Not Implemented" | 502 => "Bad Gateway"
  | 503 => "Service Unavailable" | 504 => "Gateway Timeout" | 505 => "HTTP Version Not Supported"
  | 506 => "Variant Also Negotiates" | 507 => "Insufficient Storage" | 508 => "Loop Detected"
  | 510 => "Not Extended" | 511 => "Network Authentication Required"
  | _ => ""

end NetFleet.Http
