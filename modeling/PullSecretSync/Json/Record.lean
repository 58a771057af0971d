import PullSecretSync.Json.Decoder
import PullSecretSync.Json.Reader.Ignored

/-!
# Decoding records

A record is described by its fields, in their order, and by how it is built from them. It is given
as an object, whose unknown members are ignored, or, where that is allowed, as an array of all its
fields. Of several faults in an object the first in the order of its members is named, and a
missing field only if there is no other fault.
-/

namespace PullSecretSync

open Json (Reader)

/-- A field of a record as far as its place and its form matter. -/
structure Field where
  name : String
  /-- Check the document of the field. -/
  check : Form → Json → Except DecodeError Unit
  /-- Read the document of the field from a text. -/
  scan : Reader Json
  /-- Whether an object has to have the field. -/
  required : Bool
  /-- Whether an array may end before the field. -/
  defaulted : Bool

/-- The fields of a record, and how it is built from the documents under their names. -/
structure Fields (α : Type) where
  list : List Field
  build : Form → List (String × Json) → Except DecodeError α

namespace Fields

variable {α β : Type}

instance : Applicative Fields where
  pure value := ⟨[], fun _ _ => .ok value⟩
  seq f x := ⟨f.list ++ (x ()).list, fun form members => do
    let function ← f.build form members
    let value ← (x ()).build form members
    return function value⟩

@[simp] theorem build_pure (value : α) (form : Form) (members : List (String × Json)) :
    (pure value : Fields α).build form members = .ok value := rfl

@[simp] theorem build_seq (f : Fields (α → β)) (x : Fields α) (form : Form)
    (members : List (String × Json)) :
    (f <*> x).build form members = f.build form members <*> x.build form members := by
  change (do
    let function ← f.build form members
    let value ← x.build form members
    return function value) = _
  cases f.build form members <;> rfl

/-- A single field. -/
def ofField (name : String) (decoder : Decoder α) (required defaulted : Bool)
    (missing : Except DecodeError α) : Fields α where
  list := [{
    name
    check := fun form doc => (fun _ => ()) <$> decoder.read form doc
    scan := decoder.scan
    required
    defaulted }]
  build form members :=
    match Json.lookup name members with
    | some doc => decoder.read form doc
    | none => missing

/-- A field that has to be there. -/
def required (name : String) (decoder : Decoder α) : Fields α :=
  ofField name decoder true false (.error (.missingField name))

/-- A field that has another value when it is missing. -/
def defaulted (name : String) (decoder : Decoder α) (value : α) : Fields α :=
  ofField name decoder false true (.ok value)

/-- A field that may be missing from an object, or null. -/
def optional (name : String) (decoder : Decoder α) : Fields (Option α) :=
  ofField name decoder.nullable false false (.ok none)

/-- A field that may be missing or null and then has a value of its own. -/
def orElse (name : String) (decoder : Decoder α) (value : α) : Fields α :=
  (·.getD value) <$> optional name decoder

/-- A string that has one allowed value. -/
def constant (name expected : String) : Fields Unit :=
  let decoder : Decoder Unit :=
    { read := fun form doc => do
        let value ← Decoder.text.read form doc
        if value ≠ expected then throw (.wrongValue (.str value) expected)
      scan := Decoder.text.scan }
  ofField name decoder false true (.ok ())

/-- The first field that an object has to have and does not have. -/
def missing? (fields : List Field) (members : List (String × Json)) : Option Field :=
  fields.find? fun field => field.required && (Json.lookup field.name members).isNone

/-- The first of some fields without which an array may not end, with its place. -/
def unfilled? (fields : List Field) (length : Nat) : Option (Field × Nat) :=
  (fields.zipIdx length).find? (!·.1.defaulted)

/-! ## From documents -/

/-- Check the members of an object in their order. -/
def checkMembers (fields : List Field) (form : Form) (members : List (String × Json)) :
    Except DecodeError Unit :=
  members.forM fun (name, doc) =>
    match fields.find? (·.name == name) with
    | some field => field.check form doc
    | none => .ok ()

/-- The value of an object. -/
def readMembers (fields : Fields α) (form : Form) (members : List (String × Json)) :
    Except DecodeError α := do
  checkMembers fields.list form members
  fields.build form members

/-- How a message tells the number of fields that an array has to fill. -/
def lengthText (expected : String) (fields : List Field) : String :=
  expected ++ " with " ++ toString fields.length ++ " elements"

/-- How a message tells the number of items that there should have been. -/
def boundText (form : Form) (bound : Nat) : String :=
  match form with
  | .document => "fewer elements in array"
  | .held => toString bound ++ (if bound = 1 then " element" else " elements") ++ " in sequence"

/-- The members that the items of an array stand for. -/
def membersOf (expected : String) (fields : List Field) (form : Form) (items : List Json) :
    Except DecodeError (List (String × Json)) := do
  (fields.zip items).forM fun (field, doc) => field.check form doc
  match unfilled? (fields.drop items.length) items.length with
  | some (_, length) => throw (.wrongLength length (lengthText expected fields))
  | none => pure ()
  if fields.length < items.length then
    throw (.wrongLength items.length (boundText form fields.length))
  return (fields.zip items).map fun (field, doc) => (field.name, doc)

/-! ## From texts -/

/-- Read the document of a field and check it. A fault that only the check shows is noticed when what
the field is part of is left. -/
def scanField (field : Field) (leave : Reader Unit) : Reader (String × Json) := do
  let doc ← field.scan
  match field.check .document doc with
  | .ok () => return (field.name, doc)
  | .error error => do
    leave
    Reader.refuseValue error

/-- Read a member of an object behind others, which are held in reverse. In a record no field may
come twice. -/
def scanMember (fields : List Field) (unique : Bool) (taken : List (String × Json)) :
    Reader (List (String × Json)) := do
  let name ← Reader.string
  match fields.find? (·.name == name) with
  | none => do
    Reader.colon
    Reader.ignore
    return taken
  | some field => do
    if unique && (Json.lookup name taken).isSome then
      Reader.leaveObject
      Reader.refuseValue (.duplicateField name)
    Reader.colon
    return (← scanField field Reader.leaveObject) :: taken

/-- Read an object, of which all known members count. -/
def scanMembers (fields : List Field) (unique : Bool) : Reader Json := Reader.nested do
  let taken ← Reader.fold Reader.moreMembers (scanMember fields unique) []
  Reader.leaveObject
  match missing? fields taken with
  | some field => Reader.refuseValue (.missingField field.name)
  | none => return .ofMembers taken.reverse

/-- Read the items of an array that stand for some fields, behind `length` others, which are held
in reverse. -/
def scanItems (whole : String) :
    (fields : List Field) → (length : Nat) → (taken : List (String × Json)) →
      Reader (List (String × Json))
  | [], _, taken => return taken.reverse
  | field :: rest, length, taken => do
    if ← Reader.moreItems (length = 0) then
      scanItems whole rest (length + 1) ((← scanField field Reader.leaveList) :: taken)
    else
      match unfilled? (field :: rest) length with
      | none => return taken.reverse
      | some (_, length) => do
        Reader.leaveList
        Reader.refuseValue (.wrongLength length whole)

/-- Read an array whose items stand for fields. -/
def scanArray (expected : String) (fields : List Field) : Reader Json := Reader.nested do
  let members ← scanItems (lengthText expected fields) fields 0 []
  Reader.closeList
  return .ofMembers members

end Fields

namespace Decoder

variable {α : Type}

/-- A record that has to be an object. Of fields that come twice in a text the last counts. -/
def object (expected : String) (fields : Fields α) : Decoder α where
  read form
    | .obj members => fields.readMembers form members
    | doc => wrongType expected doc
  scan := do
    match ← Reader.peekToken with
    | some '\x7b' => Fields.scanMembers fields.list false
    | some '[' => Reader.nested do
      Reader.leaveList
      Reader.refuseValue (.wrongType .sequence expected)
    | _ => refuseType expected

/-- A record that is an object or an array. -/
def record (expected : String) (fields : Fields α) : Decoder α where
  read form
    | .obj members => fields.readMembers form members
    | .arr items => do
      fields.build form (← Fields.membersOf expected fields.list form items)
    | doc => wrongType expected doc
  scan := do
    match ← Reader.peekToken with
    | some '\x7b' => Fields.scanMembers fields.list true
    | some '[' => Fields.scanArray expected fields.list
    | _ => refuseType expected

end Decoder

end PullSecretSync
