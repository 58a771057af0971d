import PullSecretSync.Json.Reader.Value

/-!
# Decoding values

A decoder reads a value of a type from a document, or says what is wrong with the document. It
also reads the value from a text, and then the first fault of the text counts, whether it is one
of its form or of its meaning.
-/

namespace PullSecretSync

open Json (Reader)

/-- What a document is when it is decoded. -/
inductive Form where
  /-- It is there as a whole from the start. -/
  | document
  /-- It was held back until the rest of its text told what it is. -/
  | held
  deriving DecidableEq, Repr

/-- A decoder of a type. From a text it first scans a document that holds all that counts. -/
structure Decoder (α : Type) where
  read : Form → Json → Except DecodeError α
  scan : Reader Json

namespace Decoder

variable {α β : Type}

instance : Functor Decoder where
  map f decoder := ⟨fun form doc => f <$> decoder.read form doc, decoder.scan⟩

@[simp] theorem read_map (f : α → β) (decoder : Decoder α) (form : Form) (doc : Json) :
    (f <$> decoder).read form doc = f <$> decoder.read form doc := rfl

/-- The value of a document. -/
def decode (decoder : Decoder α) (doc : Json) : Except DecodeError α := decoder.read .document doc

/-- The value of a text. -/
def parse (decoder : Decoder α) (text : String) : Except TextError α :=
  Reader.readAll
    (do
      match decoder.decode (← decoder.scan) with
      | .ok value => return value
      | .error error => Reader.refuseValue error)
    text

/-- The refusal of a document of another type. -/
def wrongType (expected : String) (doc : Json) : Except DecodeError α :=
  .error (.wrongType (.ofJson doc) expected)

/-- Refuse the value that comes next as one of another type. -/
def refuseType (expected : String) : Reader α := do
  match ← Reader.peekToken with
  | some '[' => Reader.refuseValue (.wrongType .sequence expected)
  | some '\x7b' => Reader.refuseValue (.wrongType .map expected)
  | _ => do
    let doc ← Reader.scalar
    Reader.refuseValue (.wrongType (.ofJson doc) expected)

/-! ## Scalars -/

/-- A value that is neither an array nor an object, under the name that messages give it. -/
def ofScalar (expected : String) (accept : Json → Except DecodeError α) : Decoder α where
  read _ doc := accept doc
  scan := do
    let next ← Reader.peekToken
    if next = some '[' ∨ next = some '\x7b' then refuseType expected
    let doc ← Reader.scalar
    match accept doc with
    | .ok _ => return doc
    | .error error => Reader.refuseValue error

/-- A value that is written as a string. -/
def ofText (expected : String) (accept : String → Except DecodeError α) : Decoder α :=
  ofScalar expected fun
    | .str value => accept value
    | doc => wrongType expected doc

/-- A string. -/
def text : Decoder String := ofText "a string" .ok

/-- A truth value. -/
def bool : Decoder Bool := ofScalar "a boolean" fun
  | .bool value => .ok value
  | doc => wrongType "a boolean" doc

/-- An integer of a range, under the name that messages give it. -/
def integer (expected : String) (low high : Int) : Decoder Int := ofScalar expected fun
  | .int value =>
    if low ≤ value ∧ value ≤ high then .ok value else .error (.wrongValue (.int value) expected)
  | doc => wrongType expected doc

/-- A signed integer of 64 bits. -/
def int64 : Decoder Int := integer "i64" (-Int.pow 2 63) (Int.pow 2 63 - 1)

/-- An unsigned integer of 16 bits. -/
def uint16 : Decoder Nat := Int.toNat <$> integer "u16" 0 (Int.pow 2 16 - 1)

/-- A time. -/
def time : Decoder Instant :=
  ofText "an RFC 3339 formatted date and time string" fun value =>
    (Rfc3339.parse value).mapError .time

/-- Nothing. -/
def unit : Decoder Unit := ofScalar "unit" fun
  | .null => .ok ()
  | doc => wrongType "unit" doc

/-- Any document. -/
def any : Decoder Json where
  read _ doc := .ok doc
  scan := Reader.value

/-- A value that may be null. -/
def nullable (decoder : Decoder α) : Decoder (Option α) where
  read form
    | .null => .ok none
    | doc => some <$> decoder.read form doc
  scan := do
    if (← Reader.peekToken) = some 'n' then
      Reader.null
      return .null
    else decoder.scan

/-- Bytes in base64. A null stands for none, unless it was held back. -/
def bytes : Decoder (List UInt8) :=
  let written := ofText "a base64-encoded string" fun value =>
    (Base64.read value).mapError .base64
  { read := fun form doc =>
      match form, doc with
      | .document, .null => .ok []
      | form, doc => written.read form doc
    scan := (nullable written).scan }

/-! ## Lists, maps and variants -/

/-- A list of values. -/
def list (item : Decoder α) : Decoder (List α) where
  read form
    | .arr items => items.mapM (item.read form)
    | doc => wrongType "a sequence" doc
  scan := do
    if (← Reader.peekToken) = some '[' then
      Reader.nested do
        let items ← Reader.collect Reader.moreItems item.scan
        Reader.leaveList
        return .arr items
    else refuseType "a sequence"

/-- Values under names. -/
def map (value : Decoder α) : Decoder (List (String × α)) where
  read form
    | .obj members => members.mapM fun (name, doc) => (name, ·) <$> value.read form doc
    | doc => wrongType "a map" doc
  scan := do
    if (← Reader.peekToken) = some '\x7b' then
      Reader.nested do
        let members ← Reader.collect Reader.moreMembers do
          let name ← Reader.string
          Reader.colon
          return (name, ← value.scan)
        Reader.leaveObject
        return .ofMembers members
    else refuseType "a map"

/-- The variant of a name. -/
def findVariant (variants : List (String × α)) (name : String) : Except DecodeError α :=
  match Json.lookup name variants with
  | some value => .ok value
  | none => .error (.unknownVariant name (variants.map (·.1)))

/-- Read an object with a single member whose name is that of a variant and that holds nothing. -/
def scanVariant (name : Decoder α) : Reader Json := Reader.nested do
  let doc ← name.scan
  Reader.colon
  let _ ← unit.scan
  match ← Reader.peekToken with
  | none => Reader.refuse .endInObject
  | some c => if c = '\x7d' then Reader.skip else Reader.refuse .expectedValue
  return doc

/-- One of some named variants, given by its name alone or as an object with the name as its
single member and nothing under it. In an object that was held back, nothing may also be an empty
object. -/
def variant (variants : List (String × α)) : Decoder α :=
  let name := ofText "variant identifier" (findVariant variants)
  { read := fun form doc =>
      match doc with
      | .str found => findVariant variants found
      | .obj [(found, payload)] => do
        let value ← findVariant variants found
        match form, payload with
        | .held, .obj [] => return value
        | form, payload => (fun _ => value) <$> unit.read form payload
      | .obj _ => .error (.wrongValue .map "map with a single key")
      | doc => wrongType "string or map" doc
    scan := do
      match ← Reader.peekToken with
      | none => Reader.refuseNext .endInValue
      | some '"' => name.scan
      | some '\x7b' => scanVariant name
      | some _ => Reader.refuseNext .expectedValue }

end Decoder

end PullSecretSync
