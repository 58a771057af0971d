import PullSecretSync.Api.Fault
import PullSecretSync.Object.Meta

/-!
# Reading and writing objects

Objects live in collections, under their names. Names and namespaces go into the path as they are;
an empty name, and a path that is no address, is refused before anything is sent. A deletion is
answered with the deleted object or with a status document.
-/

namespace PullSecretSync

namespace Deletion

/-- A cause in the details of a status document, of which only the form counts. -/
def cause : Decoder Unit := .record "struct StatusCause"
  ((fun _ _ _ => ()) <$>
    .defaulted "reason" .text "" <*>
    .defaulted "message" .text "" <*>
    .defaulted "field" .text "")

/-- The details of a status document, of which only the form counts. -/
def details : Decoder Unit := .record "struct StatusDetails"
  ((fun _ _ _ _ _ _ => ()) <$>
    .defaulted "name" .text "" <*>
    .defaulted "group" .text "" <*>
    .defaulted "kind" .text "" <*>
    .defaulted "uid" .text "" <*>
    .defaulted "causes" (.list cause) [] <*>
    .defaulted "retryAfterSeconds" (.integer "u32" 0 (Int.pow 2 32 - 1)) 0)

/-- A status document, of which only the form counts. -/
def status : Decoder Unit := .record "struct Status"
  ((fun _ _ _ _ _ => ()) <$>
    .defaulted "status" (.nullable (.variant [("Success", ()), ("Failure", ())])) none <*>
    .defaulted "code" .uint16 0 <*>
    .defaulted "message" .text "" <*>
    .defaulted "reason" .text "" <*>
    .defaulted "details" (.nullable details) none)

/-- Read what a deletion is answered with: a status document if the answer says so, else the
deleted object. -/
def read {α : Type} (decoder : Decoder α) (content : String) : Except TextError Unit := do
  match (← Json.parse content).member? "kind" with
  | some (.str "Status") => status.parse content
  | _ => discard (decoder.parse content)

end Deletion

namespace Http

/-- What a request with some method has behind its path: one that changes something may have
options there, and has none. -/
def targetEnd : Method → String
  | .get => ""
  | _ => "?"

/-- Send a request to an address given as text. -/
def sendTo (method : Method) (target : String) (body : Option Json) :
    Http (Except ApiError Reply) :=
  match Address.ofText (target ++ targetEnd method) with
  | .ok address => do return .ok (← send ⟨method, address, body⟩)
  | .error error => return .error (.badRequest (.badAddress error))

/-- Send a request about a named object of a collection, or about a part of it. -/
def sendNamed (method : Method) (collection name part : String) (body : Option Json) :
    Http (Except ApiError Reply) :=
  if name = "" then return .error (.badRequest .emptyName)
  else sendTo method (collection ++ "/" ++ name ++ part) body

/-- Read the value of a reply. -/
def decoded {α : Type} (decoder : Decoder α) (reply : Except ApiError Reply) :
    Except ApiError α := do
  (← reply).readBy decoder.parse

/-- Read an object. -/
def get {α : Type} (decoder : Decoder α) (collection name : String) :
    Http (Except ApiError α) := do
  return decoded decoder (← sendNamed .get collection name "" none)

/-- Read an object that may be missing. It is missing when the server gives that as its reason,
whatever the code. -/
def get? {α : Type} (decoder : Decoder α) (collection name : String) :
    Http (Except ApiError (Option α)) := do
  match ← get decoder collection name with
  | .ok value => return .ok (some value)
  | .error (.refused fault) =>
    if fault.reason = "NotFound" then return .ok none else return .error (.refused fault)
  | .error error => return .error error

/-- Add an object to a collection. -/
def create {α : Type} (decoder : Decoder α) (collection : String) (doc : Json) :
    Http (Except ApiError α) := do
  return decoded decoder (← sendTo .post collection (some doc))

/-- Replace an object. -/
def replace {α : Type} (decoder : Decoder α) (collection name : String) (doc : Json) :
    Http (Except ApiError α) := do
  return decoded decoder (← sendNamed .put collection name "" (some doc))

/-- Apply a merge patch to the status of an object. -/
def patchStatus {α : Type} (decoder : Decoder α) (collection name : String) (patch : Json) :
    Http (Except ApiError α) := do
  return decoded decoder (← sendNamed .patch collection name "/status" (some patch))

/-- Delete an object. -/
def delete {α : Type} (decoder : Decoder α) (collection name : String) :
    Http (Except ApiError Unit) := do
  let reply ← sendNamed .delete collection name "" (some (.obj []))
  return do (← reply).readBy (Deletion.read decoder)

end Http

end PullSecretSync
