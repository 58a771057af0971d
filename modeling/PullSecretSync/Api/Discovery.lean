import PullSecretSync.Api.Client
import PullSecretSync.Config.Codec
import PullSecretSync.Text.Numeral

/-!
# Discovery

What kinds of objects a server serves. It lists its groups with their versions, and for every
version its resources. A group recommends the version that it prefers, else the most stable one;
the configuration counts as served when the recommended version of its group serves it.
-/

namespace PullSecretSync

/-- A version of a group. -/
structure GroupVersion where
  groupVersion : String
  version : String
  deriving DecidableEq, Repr

/-- A group of a server. -/
structure ApiGroup where
  name : String
  preferred : Option GroupVersion
  versions : List GroupVersion
  deriving DecidableEq, Repr

/-- A resource of a group's version. It may belong to another version than the list it is in. -/
structure ApiResource where
  name : String
  kind : String
  version : Option String
  deriving DecidableEq, Repr

/-- The resources of a group's version. -/
structure ResourceList where
  groupVersion : String
  resources : List ApiResource
  deriving DecidableEq, Repr

/-- The version of a document. -/
def GroupVersion.decoder : Decoder GroupVersion := .object "GroupVersionForDiscovery"
  (GroupVersion.mk <$>
    .orElse "groupVersion" .text "" <*>
    .orElse "version" .text "")

/-- An address of the server for some of its clients, of which only the form counts. -/
def clientAddress : Decoder Unit := .object "ServerAddressByClientCIDR"
  ((fun _ _ => ()) <$>
    .orElse "clientCIDR" .text "" <*>
    .orElse "serverAddress" .text "")

/-- The group of a document. -/
def ApiGroup.decoder : Decoder ApiGroup := .object "APIGroup"
  (.constant "apiVersion" "v1" *>
  .constant "kind" "APIGroup" *>
  (ApiGroup.mk <$>
    .orElse "name" .text "" <*>
    .optional "preferredVersion" GroupVersion.decoder <*>
    .orElse "versions" (.list GroupVersion.decoder) []) <*
  .optional "serverAddressByClientCIDRs" (.list clientAddress))

/-- The groups of a document. -/
def ApiGroup.listDecoder : Decoder (List ApiGroup) := .object "APIGroupList"
  (.constant "apiVersion" "v1" *>
  .constant "kind" "APIGroupList" *>
  .orElse "groups" (.list ApiGroup.decoder) [])

/-- The resource of a document. Of most of its fields only the form counts. -/
def ApiResource.decoder : Decoder ApiResource := .object "APIResource"
  ((ApiResource.mk <$>
    .orElse "name" .text "" <*>
    .orElse "kind" .text "" <*>
    .optional "version" .text) <*
  .optional "categories" (.list .text) <*
  .optional "group" .text <*
  .optional "namespaced" .bool <*
  .optional "shortNames" (.list .text) <*
  .optional "singularName" .text <*
  .optional "storageVersionHash" .text <*
  .optional "verbs" (.list .text))

/-- The resources of a document. -/
def ResourceList.decoder : Decoder ResourceList := .object "APIResourceList"
  (.constant "apiVersion" "v1" *>
  .constant "kind" "APIResourceList" *>
  (ResourceList.mk <$>
    .orElse "groupVersion" .text "" <*>
    .orElse "resources" (.list ApiResource.decoder) []))

/-- How stable a version is by its name; names of another form are the least stable. -/
inductive Stability where
  | stable (major : Nat)
  | beta (major : Nat) (minor : Option Nat)
  | alpha (major : Nat) (minor : Option Nat)
  | other (name : List Char)
  deriving DecidableEq, Repr

namespace Stability

/-- The number of the rest of a version's name, which may be missing. -/
def minor? : List Char → Option (Option Nat)
  | [] => some none
  | digits => some <$> (Numeral.read (Nat.pow 2 32) digits).toOption

/-- The stability of a version of the usual form. -/
def ofConforming? (name : List Char) : Option Stability := do
  let digits := (name.drop 1).takeWhile Char.isDigit
  let major ← (Numeral.read (Nat.pow 2 32) digits).toOption
  if name.head? ≠ some 'v' then none
  else
    match (name.drop 1).drop digits.length with
    | [] => return .stable major
    | 'a' :: 'l' :: 'p' :: 'h' :: 'a' :: rest => return .alpha major (← minor? rest)
    | 'b' :: 'e' :: 't' :: 'a' :: rest => return .beta major (← minor? rest)
    | _ => none

/-- The stability of a version. -/
def ofName (name : String) : Stability :=
  (ofConforming? name.toList).getD (.other name.toList)

/-- The place of a missing number below every number. -/
def minorRank : Option Nat → Nat
  | none => 0
  | some minor => minor + 1

/-- Whether a version comes before another: stable ones before betas before alphas, newer ones
before older ones, and names of another form last, in their alphabetical order. -/
def before : Stability → Stability → Bool
  | .stable major, .stable major' => major' < major
  | .stable _, _ => true
  | .beta _ _, .stable _ => false
  | .beta major minor, .beta major' minor' =>
    major' < major || (major' = major && minorRank minor' < minorRank minor)
  | .beta _ _, _ => true
  | .alpha _ _, .stable _ => false
  | .alpha _ _, .beta _ _ => false
  | .alpha major minor, .alpha major' minor' =>
    major' < major || (major' = major && minorRank minor' < minorRank minor)
  | .alpha _ _, .other _ => true
  | .other name, .other name' => name < name'
  | .other _, _ => false

end Stability

/-- The first of the most stable versions. -/
def latestVersion? : List String → Option String
  | [] => none
  | version :: rest =>
    some (rest.foldl (fun best other =>
      if (Stability.ofName other).before (Stability.ofName best) then other else best) version)

namespace ApiGroup

/-- The version that a group recommends. -/
def recommended? (group : ApiGroup) : Option String :=
  match group.preferred with
  | some preferred => some preferred.version
  | none => latestVersion? (group.versions.map (·.version))

end ApiGroup

namespace ResourceList

/-- The version part of a group's version. -/
def versionOf (groupVersion : String) : String :=
  let parts := groupVersion.toList
  let tail := parts.dropWhile (· ≠ '/')
  if tail.isEmpty then groupVersion else String.ofList (tail.drop 1)

/-- Whether a list has the configuration's kind among its resources. What has a slash in its name
is part of another resource. -/
def servesConfig (list : ResourceList) : Bool :=
  list.resources.any fun resource =>
    !resource.name.toList.contains '/' && resource.kind = Config.kind &&
      resource.version.getD (versionOf list.groupVersion) = Config.version

end ResourceList

/-- Whether a group, given its versions with their resources, serves the configuration in the
version it recommends. -/
def ApiGroup.servesConfig (group : ApiGroup) (lists : List (String × ResourceList)) : Bool :=
  match group.recommended?.bind fun version => lists.find? (·.1 = version) with
  | some (_, list) => list.servesConfig
  | none => false

namespace Http

/-- Read a list of the server's groups or resources. -/
def getListing {α : Type} (decoder : Decoder α) (target : String) : Http (Except ApiError α) :=
  match Address.ofText target with
  | .ok address => do return (← send ⟨.get, address, none⟩).readBy decoder.parse
  | .error error => return .error (.badAddress error)

/-- Read the resources of the versions of a group, in their order. -/
def listVersions : List GroupVersion → Http (Except ApiError (List (String × ResourceList)))
  | [] => return .ok []
  | version :: rest => do
    match ← getListing ResourceList.decoder ("/apis/" ++ version.groupVersion) with
    | .error error => return .error error
    | .ok list =>
      match ← listVersions rest with
      | .error error => return .error error
      | .ok lists => return .ok ((version.version, list) :: lists)

/-- Look through groups; of those that have the configuration's name the last one counts. -/
def searchGroups (found : Bool) : List ApiGroup → Http (Except ApiError Bool)
  | [] => return .ok found
  | group :: rest =>
    if group.name ≠ Config.group then searchGroups found rest
    else if group.versions.isEmpty then return .error (.emptyGroup group.name)
    else do
      match ← listVersions group.versions with
      | .error error => return .error error
      | .ok lists => searchGroups (group.servesConfig lists) rest

/-- Whether the server serves the configuration. -/
def servesConfig : Http (Except ApiError Bool) := do
  match ← getListing ApiGroup.listDecoder "/apis" with
  | .error error => return .error error
  | .ok groups => searchGroups false groups

end Http

end PullSecretSync
