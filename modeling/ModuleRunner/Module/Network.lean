import ModuleRunner.Url.Reader
import ModuleRunner.Module.LoadError

/-!
# Networks

What a request for an address brings: an answer with a status and octets, or a reason why there is
none.  The loading of modules sees a network as a function, so that it does not depend on a real
one.

* `Request`, `Response`, `Network` — the data.
* `Network.unreachable` — the network that answers nothing.
* `fetch` — the answer to a request, if it can be sent.
* `statusText` — a status with its phrase.
-/

namespace ModuleRunner.Module

/-- What is asked of a network. -/
structure Request where
  /-- The address. -/
  url : Url
  /-- The name of who asks. -/
  userAgent : String
  /-- How many seconds the answer may take. -/
  timeout : Nat

/-- An answer. -/
structure Response where
  /-- The status, a number of three digits. -/
  status : Nat
  /-- What was asked for. -/
  octets : List UInt8

/-- What requests bring. -/
abbrev Network := Request → Except String Response

/-- The reason of a request that got no answer. -/
def unanswered (url : Url) (cause : String) : String :=
  "error sending request for url (" ++ url.text ++ "): error trying to connect: " ++ cause

/-- Why a host is not reached: its name is not known, unless it is this host's own, or the way to its
address is not. -/
def unreached : Option Url.Host → String
  | some (.name "localhost") => "tcp connect error: Network is unreachable (os error 101)"
  | some (.name _) =>
    "dns error: failed to lookup address information: Temporary failure in name resolution"
  | _ => "tcp connect error: Network is unreachable (os error 101)"

/-- The network that answers nothing. -/
def Network.unreachable : Network := fun request =>
  .error (unanswered request.url (unreached request.url.host))

/-- The greatest length of an address that can be asked for, in octets. -/
def longestAddress : Nat := 65534

/-- Whether a host can be asked for: its name has no quotes and no braces. -/
def isAskable : Option Url.Host → Bool
  | some (.name name) => !name.toList.any (Url.Percent.isOneOf "\"`\x7b\x7d")
  | _ => true

/-- Why a request cannot be sent at all, if so: only two schemes are fit for it, and not every
address can be asked for. -/
def unsendable? (url : Url) : Option String :=
  if !(["http", "https"].contains url.scheme) then some "URL scheme is not allowed"
  else if !isAskable url.host || longestAddress < url.text.utf8ByteSize then
    some "Parsed Url is not a valid Uri"
  else none

/-- The answer to a request.  User names and passwords are sent apart from the address, so that no
reason shows them. -/
def fetch (network : Network) (request : Request) : Except String Response :=
  let url := request.url.withoutUser
  match unsendable? url with
  | some cause => .error ("builder error for url (" ++ url.text ++ "): " ++ cause)
  | none => network { request with url }

/-- The phrase of a status. -/
def phrase? : Nat → Option String
  | 100 => some "Continue"
  | 101 => some "Switching Protocols"
  | 102 => some "Processing"
  | 200 => some "OK"
  | 201 => some "Created"
  | 202 => some "Accepted"
  | 203 => some "Non Authoritative Information"
  | 204 => some "No Content"
  | 205 => some "Reset Content"
  | 206 => some "Partial Content"
  | 207 => some "Multi-Status"
  | 208 => some "Already Reported"
  | 226 => some "IM Used"
  | 300 => some "Multiple Choices"
  | 301 => some "Moved Permanently"
  | 302 => some "Found"
  | 303 => some "See Other"
  | 304 => some "Not Modified"
  | 305 => some "Use Proxy"
  | 307 => some "Temporary Redirect"
  | 308 => some "Permanent Redirect"
  | 400 => some "Bad Request"
  | 401 => some "Unauthorized"
  | 402 => some "Payment Required"
  | 403 => some "Forbidden"
  | 404 => some "Not Found"
  | 405 => some "Method Not Allowed"
  | 406 => some "Not Acceptable"
  | 407 => some "Proxy Authentication Required"
  | 408 => some "Request Timeout"
  | 409 => some "Conflict"
  | 410 => some "Gone"
  | 411 => some "Length Required"
  | 412 => some "Precondition Failed"
  | 413 => some "Payload Too Large"
  | 414 => some "URI Too Long"
  | 415 => some "Unsupported Media Type"
  | 416 => some "Range Not Satisfiable"
  | 417 => some "Expectation Failed"
  | 418 => some "I'm a teapot"
  | 421 => some "Misdirected Request"
  | 422 => some "Unprocessable Entity"
  | 423 => some "Locked"
  | 424 => some "Failed Dependency"
  | 426 => some "Upgrade Required"
  | 428 => some "Precondition Required"
  | 429 => some "Too Many Requests"
  | 431 => some "Request Header Fields Too Large"
  | 451 => some "Unavailable For Legal Reasons"
  | 500 => some "Internal Server Error"
  | 501 => some "Not Implemented"
  | 502 => some "Bad Gateway"
  | 503 => some "Service Unavailable"
  | 504 => some "Gateway Timeout"
  | 505 => some "HTTP Version Not Supported"
  | 506 => some "Variant Also Negotiates"
  | 507 => some "Insufficient Storage"
  | 508 => some "Loop Detected"
  | 510 => some "Not Extended"
  | 511 => some "Network Authentication Required"
  | _ => none

/-- A status with its phrase. -/
def statusText (status : Nat) : String :=
  "HTTP " ++ toString status ++ " " ++ (phrase? status).getD "<unknown status code>"

end ModuleRunner.Module
