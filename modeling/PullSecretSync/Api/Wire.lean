import PullSecretSync.Api.Error
import PullSecretSync.Interaction
import PullSecretSync.Log

/-!
# Requests and replies

What is sent to the server and what comes back. The body of a request is a document; that of a
reply is any text.
-/

namespace PullSecretSync

/-- What a request does. -/
inductive Method where
  | get
  | post
  | put
  | patch
  | delete
  deriving DecidableEq, Repr

/-- The name of a method on the wire. -/
def Method.text : Method → String
  | .get => "GET"
  | .post => "POST"
  | .put => "PUT"
  | .patch => "PATCH"
  | .delete => "DELETE"

/-- The path of a resource and what is asked of it. -/
structure Address where
  path : String
  query : Option String
  deriving DecidableEq, Repr

namespace Address

/-- Whether a byte may stand in a path. -/
def pathByte (byte : UInt8) : Bool :=
  let code := byte.toNat
  code = 0x21 || (0x24 ≤ code && code ≤ 0x3B) || code = 0x3D || (0x40 ≤ code && code ≤ 0x5F) ||
    (0x61 ≤ code && code ≤ 0x7A) || code = 0x7C || 0x7E ≤ code ||
    code = 0x22 || code = 0x7B || code = 0x7D

/-- Whether a byte may stand in a query. -/
def queryByte (byte : UInt8) : Bool :=
  let code := byte.toNat
  code = 0x21 || (0x24 ≤ code && code ≤ 0x3B) || code = 0x3D || 0x3F ≤ code

/-- The most bytes of an address. -/
def lengthLimit : Nat := 65534

/-- The address that a text is: a path, and after a question mark a query. What follows a number
sign belongs to neither. -/
def ofText (text : String) : Except AddressError Address :=
  let whole := text.toList.takeWhile (· ≠ '#')
  let path := whole.takeWhile (· ≠ '?')
  let query := (whole.drop path.length).drop 1
  let allowed (property : UInt8 → Bool) (part : List Char) : Bool :=
    (part.flatMap String.utf8EncodeChar).all property
  if lengthLimit < text.utf8ByteSize then .error .length
  else if allowed pathByte path && allowed queryByte query then
    .ok ⟨String.ofList path, if query.isEmpty then none else some (String.ofList query)⟩
  else .error .character

end Address

/-- A request. -/
structure Request where
  method : Method
  address : Address
  body : Option Json

/-- What comes back from a request. -/
inductive Reply where
  | answered (status : Nat) (content : String)
  | failed

/-- A question to the surroundings of the API's client. -/
inductive HttpCall where
  | send (request : Request)
  | note (entry : LogEntry)

/-- The answers to a question. -/
abbrev HttpCall.Answer : HttpCall → Type
  | .send _ => Reply
  | .note _ => Unit

/-- A computation that talks to the server. -/
abbrev Http := Interaction HttpCall HttpCall.Answer

namespace Http

/-- Send a request. -/
def send (request : Request) : Http Reply := Interaction.query (HttpCall.send request)

/-- Leave an entry in the log. -/
def note (severity : Severity) (text : String) : Http Unit :=
  Interaction.query (HttpCall.note ⟨severity, text⟩)

end Http

end PullSecretSync
