import VectorReplay.Url

/-!
Posting to an address: what can go wrong before an answer comes, and answers that are errors.
-/
namespace VectorReplay.Http

structure Reply where
  status : Nat
  body : String
deriving DecidableEq, Repr

/-- Why no connection is made. -/
inductive ConnectError
  | refused
  | unreachable
  /-- This machine has no address to connect from. -/
  | noAddress
  /-- The scheme asks for encryption, which is not at hand. -/
  | encrypted
  /-- The host has a name that nobody knows. -/
  | unknownName
  /-- The host has a name that nobody can have. -/
  | noName
deriving DecidableEq, Repr

def ConnectError.message : ConnectError → String
  | .refused => "tcp connect error: Connection refused (os error 111)"
  | .unreachable => "tcp connect error: Network is unreachable (os error 101)"
  | .noAddress => "tcp connect error: Cannot assign requested address (os error 99)"
  | .encrypted => "invalid URL, scheme is not http"
  | .unknownName =>
    "dns error: failed to lookup address information: Temporary failure in name resolution"
  | .noName => "dns error: failed to lookup address information: Name or service not known"

inductive Failure
  | address (e : UrlError)
  | scheme (u : Url)
  /-- A request cannot name the address. -/
  | unfit (u : Url)
  | connect (u : Url) (e : ConnectError)
  | status (u : Url) (code : Nat)
deriving DecidableEq, Repr

/-- The phrase that belongs to the code of an error. -/
def reason? : Nat → Option String
  | 400 => "Bad Request"
  | 401 => "Unauthorized"
  | 402 => "Payment Required"
  | 403 => "Forbidden"
  | 404 => "Not Found"
  | 405 => "Method Not Allowed"
  | 406 => "Not Acceptable"
  | 407 => "Proxy Authentication Required"
  | 408 => "Request Timeout"
  | 409 => "Conflict"
  | 410 => "Gone"
  | 411 => "Length Required"
  | 412 => "Precondition Failed"
  | 413 => "Payload Too Large"
  | 414 => "URI Too Long"
  | 415 => "Unsupported Media Type"
  | 416 => "Range Not Satisfiable"
  | 417 => "Expectation Failed"
  | 418 => "I'm a teapot"
  | 421 => "Misdirected Request"
  | 422 => "Unprocessable Entity"
  | 423 => "Locked"
  | 424 => "Failed Dependency"
  | 426 => "Upgrade Required"
  | 428 => "Precondition Required"
  | 429 => "Too Many Requests"
  | 431 => "Request Header Fields Too Large"
  | 451 => "Unavailable For Legal Reasons"
  | 500 => "Internal Server Error"
  | 501 => "Not Implemented"
  | 502 => "Bad Gateway"
  | 503 => "Service Unavailable"
  | 504 => "Gateway Timeout"
  | 505 => "HTTP Version Not Supported"
  | 506 => "Variant Also Negotiates"
  | 507 => "Insufficient Storage"
  | 508 => "Loop Detected"
  | 510 => "Not Extended"
  | 511 => "Network Authentication Required"
  | _ => none

def Failure.message : Failure → String
  | .address e => "builder error: " ++ e.message
  | .scheme u => "builder error for url (" ++ u.text ++ "): URL scheme is not allowed"
  | .unfit u => "builder error for url (" ++ u.text ++ "): Parsed Url is not a valid Uri"
  | .connect u e =>
    "error sending request for url (" ++ u.text ++
      "): error trying to connect: " ++ e.message
  | .status u code =>
    "HTTP status " ++ (if code < 500 then "client" else "server") ++ " error (" ++ toString code ++
      " " ++ (reason? code).getD "<unknown status code>" ++ ") for url (" ++ u.text ++ ")"

/-- The characters that the address of a request does not hold, although hosts have them. -/
def unnamed : List Char := ['"', '`', '\x7b', '\x7d']

def maxAddress : Nat := 65534

/-- Whether a request can name an address. -/
def fits (u : Url) : Bool :=
  Text.utf8Size u.text.toList ≤ maxAddress &&
    u.host.all fun h => !h.text.toList.any unnamed.contains

/-- The address of a request, which must have one of the schemes that carry requests. Who asks is not
part of it. -/
def address (url : String) : Except Failure Url :=
  match Url.parse url with
  | .error e => .error (.address e)
  | .ok u =>
    let u := u.anonymous
    if !u.isHttp then .error (.scheme u) else if !fits u then .error (.unfit u) else .ok u

/-- Answers of these statuses have no body. -/
def isEmptyStatus (code : Nat) : Bool := code = 204 || code = 304

/-- The text of a body; a mark of the byte order in front does not belong to it. -/
def bodyText (s : String) : String :=
  match s.toList with
  | '\uFEFF' :: rest => String.ofList rest
  | _ => s

/-- The text of an answer, unless its status is an error. -/
def Reply.text (u : Url) (r : Reply) : Except Failure String :=
  if 400 ≤ r.status && r.status < 600 then .error (.status u r.status)
  else if isEmptyStatus r.status then .ok ""
  else .ok (bodyText r.body)

end VectorReplay.Http
