import PullSecretSync.Api.Wire
import PullSecretSync.Json.Record

/-!
# Reading replies

A reply with a status between 400 and 599 is a refusal. Its body is the server's account of it;
where the body is none, an account is made from the status and the body's text.
-/

namespace PullSecretSync

/-- The name of a status. -/
def statusReason? : Nat → Option String
  | 400 => some "Bad Request"
  | 401 => some "Unauthorized"
  | 402 => some "Payment Required"
  | 403 => some "Forbidden"
  | 404 => some "Not Found"
  | 405 => some "Method Not Allowed"
  | 406 => some "Not Acceptable"
  | 407 => some "Proxy Authentication Required"
  | 408 => some "Request Timeout"
  | 409 => some "Conflict"
  | 410 => some "Gone"
  | 411 => some "Length Required"
  | 412 => some "Precondition Failed"
  | 413 => some "Payload Too Large"
  | 414 => some "URI Too Long"
  | 415 => some "Unsupported Media Type"
  | 416 => some "Range Not Satisfiable"
  | 417 => some "Expectation Failed"
  | 418 => some "I'm a teapot"
  | 421 => some "Misdirected Request"
  | 422 => some "Unprocessable Entity"
  | 423 => some "Locked"
  | 424 => some "Failed Dependency"
  | 425 => some "Too Early"
  | 426 => some "Upgrade Required"
  | 428 => some "Precondition Required"
  | 429 => some "Too Many Requests"
  | 431 => some "Request Header Fields Too Large"
  | 451 => some "Unavailable For Legal Reasons"
  | 500 => some "Internal Server Error"
  | 501 => some "Not Implemented"
  | 502 => some "Bad Gateway"
  | 503 => some "Service Unavailable"
  | 504 => some "Gateway Timeout"
  | 505 => some "HTTP Version Not Supported"
  | 506 => some "Variant Also Negotiates"
  | 507 => some "Insufficient Storage"
  | 508 => some "Loop Detected"
  | 510 => some "Not Extended"
  | 511 => some "Network Authentication Required"
  | _ => none

namespace Fault

/-- The fields of an account. -/
def fields : Fields Fault :=
  Fault.mk <$>
    .required "status" .text <*>
    .defaulted "message" .text "" <*>
    .defaulted "reason" .text "" <*>
    .required "code" .uint16

/-- The account of a document. -/
def decoder : Decoder Fault := .record "struct ErrorResponse" fields

/-- The account of a refusal whose body is none. -/
def ofStatus (status : Nat) (content : String) : Fault where
  status :=
    toString status ++ " " ++ (statusReason? status).getD "<unknown status code>"
  message := Text.quoted content
  reason := "Failed to parse error data"
  code := status

/-- The account of a refusal. -/
def ofReply (status : Nat) (content : String) : Fault :=
  match decoder.parse content with
  | .ok fault => fault
  | .error _ => ofStatus status content

end Fault

/-- Whether a status says that a request was refused. -/
def isRefusal (status : Nat) : Bool := 400 ≤ status && status < 600

/-- The body of a reply that is no refusal. -/
def Reply.content : Reply → Except ApiError String
  | .failed => .error .unreachable
  | .answered status content =>
    if isRefusal status then .error (.refused (Fault.ofReply status content)) else .ok content

/-- What is read from the body of a reply. -/
def Reply.readBy {α : Type} (read : String → Except TextError α) (reply : Reply) :
    Except ApiError α := do
  (read (← reply.content)).mapError .badBody

end PullSecretSync
