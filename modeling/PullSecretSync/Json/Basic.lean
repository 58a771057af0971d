import PullSecretSync.Binary

/-!
# JSON documents

The value of a JSON text. A number without fraction and exponent that fits 64 bits is an integer;
any other number is held in binary. Members of an object are pairs, read by first match;
objects built here list them in increasing order of their names, without repetition.
-/

namespace PullSecretSync

/-- A JSON document. -/
inductive Json where
  | null
  | bool (value : Bool)
  | int (value : Int)
  | real (value : Binary)
  | str (value : String)
  | arr (items : List Json)
  | obj (members : List (String × Json))
  deriving Repr, Inhabited, BEq

namespace Json

/-- The value under a name, in the first member that has it. -/
def lookup {α : Type} (name : String) (members : List (String × α)) : Option α :=
  (members.find? fun member => member.1 == name).map (·.2)

/-- The member of an object; other documents have none. -/
def member? (doc : Json) (name : String) : Option Json :=
  match doc with
  | .obj members => lookup name members
  | _ => none

/-- Put a member at its place in a sorted list, over one of the same name. -/
def insertMember {α : Type} (name : String) (value : α) :
    List (String × α) → List (String × α)
  | [] => [(name, value)]
  | (other, old) :: rest =>
    if name < other then (name, value) :: (other, old) :: rest
    else if name = other then (name, value) :: rest
    else (other, old) :: insertMember name value rest

/-- An object from members in any order; of members with one name the last counts. -/
def ofMembers (members : List (String × Json)) : Json :=
  .obj (members.foldl (fun sorted member => insertMember member.1 member.2 sorted) [])

/-- A member that is left out when there is nothing to write. -/
def optional (name : String) : Option Json → List (String × Json)
  | none => []
  | some value => [(name, value)]

theorem lookup_nil {α : Type} (name : String) : lookup name ([] : List (String × α)) = none :=
  rfl

theorem lookup_cons {α : Type} (name other : String) (value : α) (rest : List (String × α)) :
    lookup name ((other, value) :: rest) =
      if other = name then some value else lookup name rest := by
  by_cases h : other = name <;> simp [lookup, beq_eq_false_iff_ne.mpr, h]

end Json

end PullSecretSync
