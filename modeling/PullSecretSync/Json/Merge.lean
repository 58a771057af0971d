import PullSecretSync.Json.Basic

/-!
# Merge patches

The merge patch of RFC 7386: an object patches member by member, a null removes its member, and
every other document replaces what was there.
-/

namespace PullSecretSync.Json

/-- The members of an object; other documents count as empty. -/
def members : Json → List (String × Json)
  | .obj members => members
  | _ => []

/-- Leave out the member of a name. -/
def removeMember (name : String) (members : List (String × Json)) : List (String × Json) :=
  members.filter fun member => member.1 ≠ name

mutual

/-- Apply a merge patch to a document. -/
def merge (doc : Json) : (patch : Json) → Json
  | .obj changes => .obj (mergeMembers doc.members changes)
  | patch => patch

/-- Apply the members of a merge patch, in their order. -/
def mergeMembers (members : List (String × Json)) :
    (changes : List (String × Json)) → List (String × Json)
  | [] => members
  | (name, .null) :: rest => mergeMembers (removeMember name members) rest
  | (name, change) :: rest =>
    mergeMembers (insertMember name (merge ((lookup name members).getD .null) change) members) rest

end

end PullSecretSync.Json
