import PullSecretSync.Api.Fault
import PullSecretSync.Sync.Transition

/-!
# Watching objects

A collection is listed and then watched for changes. Listing replaces all that was known: what was
there before and is not listed again is gone. When the server has lost track of the changes, or
when the list could not be read, the collection is listed again.
-/

namespace PullSecretSync

/-- What a watch tells about the objects of a collection. -/
inductive WatchEvent (α : Type) where
  /-- The collection is about to be listed. -/
  | listing
  /-- The list has this object. -/
  | listed (object : α)
  /-- The list is complete. -/
  | complete
  /-- An object was created or changed. -/
  | applied (object : α)
  | deleted (object : α)

/-- The events that a list of objects gives rise to. -/
def WatchEvent.ofList {α : Type} (objects : List α) : List (WatchEvent α) :=
  .listing :: objects.map .listed ++ [.complete]

/-- The event on a secret that a watch event tells of. -/
def SecretEvent.ofWatch? : WatchEvent Secret → Option SecretEvent
  | .applied secret => some (.applied secret)
  | .listed secret => some (.applied secret)
  | .deleted secret => some (.removed secret)
  | .listing => none
  | .complete => none

/-- Why a watch brought no event. -/
inductive WatchError where
  /-- The server reports an error. -/
  | reported (fault : Fault)
  /-- The line is no notice. -/
  | badLine (error : TextError)
  /-- The list is none. -/
  | badList (error : TextError)
  /-- An object came without its version. -/
  | unversioned
  deriving DecidableEq, Repr

namespace WatchError

/-- The wording of an error. -/
def message : WatchError → String
  | .reported fault =>
    "error returned by apiserver during watch: " ++ fault.message ++ ": " ++ fault.reason
  | .badLine error => "watch stream failed: " ++ (ApiError.badBody error).message
  | .badList error => "failed to perform initial object list: " ++ (ApiError.badBody error).message
  | .unversioned =>
    "no metadata.resourceVersion in watch result (does resource support watch?)"

/-- An error with the names of its kinds. -/
def listing : WatchError → String
  | .reported fault => "WatchError(" ++ fault.listing ++ ")"
  | .badLine error => "WatchFailed(" ++ (ApiError.badBody error).listing ++ ")"
  | .badList error => "InitialListFailed(" ++ (ApiError.badBody error).listing ++ ")"
  | .unversioned => "NoResourceVersion"

/-- Whether a collection has to be listed again after an error. -/
def needsList : WatchError → Bool
  | .reported fault => fault.code = 410
  | .badLine _ => false
  | .badList _ => true
  | .unversioned => true

end WatchError

/-- The objects of a list that the server answers with. -/
def readList {α : Type} (decoder : Decoder α) (content : String) : Except WatchError (List α) :=
  let list : Decoder (List α) := .object "struct ObjectList" (.required "items" (.list decoder))
  (list.parse content).mapError .badList

/-- The form of a bookmark, by which the server marks its progress. -/
def checkBookmark (doc : Json) : Except DecodeError Unit := do
  let version : Decoder Unit := .record "struct BookmarkMeta"
    ((fun _ _ => ()) <$>
      .required "resourceVersion" .text <*>
      .defaulted "annotations" (.map .text) [])
  let mark : Decoder Unit := .object "struct Bookmark" (.required "metadata" version)
  let kind : Decoder Unit := .object "struct Bookmark"
    ((fun _ _ => ()) <$>
      .required "apiVersion" .text <*>
      .required "kind" .text)
  mark.read .held doc
  kind.read .held doc

/-- A notice of the server about an object. -/
structure Notice where
  type : String
  object : Json
  /-- The number of bytes of the line that the notice comes as. -/
  size : Nat

namespace Notice

/-- The refusal of a notice at some byte of its line. -/
def badLine (error : DecodeError) (column : Nat) : WatchError := .badLine ⟨.unfit error, 1, column⟩

/-- What is read from the object of a notice. As the line says only at its end what the object is,
all of the line is read before faults of the object are noticed. -/
def readBy {α : Type} (read : Json → Except DecodeError α) (notice : Notice) :
    Except WatchError α :=
  (read notice.object).mapError fun error => badLine error notice.size

/-- The object of a notice, which has to carry its version. -/
def versioned {α : Type} (decoder : Decoder α) (version : α → Option String)
    (notice : Notice) : Except WatchError α := do
  let value ← notice.readBy (decoder.read .held)
  if (version value).getD "" = "" then throw .unversioned
  return value

/-- What a notice tells; a bookmark tells nothing about objects. -/
def read {α : Type} (decoder : Decoder α) (version : α → Option String)
    (notice : Notice) : Except WatchError (Option (WatchEvent α)) := do
  match notice.type with
  | "ADDED" => return some (.applied (← notice.versioned decoder version))
  | "MODIFIED" => return some (.applied (← notice.versioned decoder version))
  | "DELETED" => return some (.deleted (← notice.versioned decoder version))
  | "BOOKMARK" => do
    notice.readBy checkBookmark
    return none
  | "ERROR" => throw (.reported (← notice.readBy (Fault.decoder.read .held)))
  | type =>
    throw (badLine (.unknownVariant type ["ADDED", "MODIFIED", "DELETED", "BOOKMARK", "ERROR"])
      (notice.size - 1))

end Notice

/-- A collection that is watched for the object of one name. -/
structure Watched where
  path : String
  name : String
  deriving DecidableEq, Repr

/-- How the server is told to leave out other objects. -/
def Watched.selector (watched : Watched) : String := "metadata.name=" ++ watched.name

end PullSecretSync
