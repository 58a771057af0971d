import PullSecretSync.Proofs.Base64
import PullSecretSync.Proofs.Reproduction
import PullSecretSync.Sync.Copy

/-!
# Secrets survive their documents

A secret is read again from its document. What a document cannot hold is the fraction of a second,
a number beyond 64 bits and a null; whatever else the metadata say comes back, and so do the bytes,
which are written in base64. The metadata of a replica hold texts only, so a replica comes back in
any case.
-/

namespace PullSecretSync

/-! ## Values -/

namespace Decoder

variable {α : Type} {decoder : Decoder α} {encode : α → Json} {form : Form}

/-- A value is read again from its document, also where its place may hold a null. -/
structure Rereads (decoder : Decoder α) (encode : α → Json) (value : α) : Prop where
  nonnull : encode value ≠ .null
  reads : ∀ form, decoder.read form (encode value) = .ok value

/-- A map of values each of which is read again is read again. -/
theorem read_ofMap {values : List (String × α)}
    (reads : ∀ member ∈ values, decoder.read form (encode member.2) = .ok member.2) :
    (map decoder).read form (Json.ofMap encode values) = .ok values := by
  change (values.map fun member => (member.1, encode member.2)).mapM
    (fun member => (member.1, ·) <$> decoder.read form member.2) = .ok values
  induction values with
  | nil => rfl
  | cons member values ih =>
    obtain ⟨first, later⟩ := List.forall_mem_cons.mp reads
    rw [List.map_cons, List.mapM_cons, first, ih later]
    rfl

/-- A value that may be missing is read again. -/
theorem read_optional (form : Form) (value : Option α)
    (rereads : ∀ some ∈ value, decoder.Rereads encode some) :
    decoder.nullable.read form ((value.map encode).getD .null) = .ok value :=
  read_nullable fun some known => ⟨(rereads some known).nonnull, (rereads some known).reads form⟩

theorem rereads_text (value : String) : text.Rereads .str value := ⟨by simp, fun _ => rfl⟩

theorem rereads_bool (value : Bool) : bool.Rereads .bool value := ⟨by simp, fun _ => rfl⟩

theorem rereads_any {value : Json} (nonnull : value ≠ .null) : any.Rereads id value :=
  ⟨nonnull, fun _ => rfl⟩

/-- The number has at most 64 bits. -/
def FitsInt64 (value : Int) : Prop := -Int.pow 2 63 ≤ value ∧ value ≤ Int.pow 2 63 - 1

theorem rereads_int64 {value : Int} (fits : FitsInt64 value) : int64.Rereads .int value := by
  refine ⟨by simp, fun form => ?_⟩
  change (if _ then _ else _) = _
  exact if_pos fits

theorem rereads_bytes (value : List UInt8) :
    bytes.Rereads (fun bytes => .str (Base64.text bytes)) value := by
  refine ⟨by simp, fun form => ?_⟩
  have written : bytes.read form (.str (Base64.text value)) =
      (Base64.read (Base64.text value)).mapError .base64 := by
    cases form <;> rfl
  rw [written, Base64.read_text]
  rfl

theorem rereads_list {values : List α} (rereads : ∀ value ∈ values, decoder.Rereads encode value) :
    (list decoder).Rereads (Json.ofList encode) values where
  nonnull := by simp [Json.ofList]
  reads form := read_ofList fun value known => (rereads value known).reads form

theorem rereads_map {values : List (String × α)}
    (rereads : ∀ member ∈ values, decoder.Rereads encode member.2) :
    (map decoder).Rereads (Json.ofMap encode) values where
  nonnull := by simp [Json.ofMap]
  reads form := read_ofMap fun member known => (rereads member known).reads form

/-! The values that most fields hold are read again without a condition. -/

section Optional

variable (form : Form)

theorem read_optional_text (value : Option String) :
    text.nullable.read form ((value.map .str).getD .null) = .ok value :=
  read_optional form value fun value _ => rereads_text value

theorem read_optional_bool (value : Option Bool) :
    bool.nullable.read form ((value.map .bool).getD .null) = .ok value :=
  read_optional form value fun value _ => rereads_bool value

theorem read_optional_texts (values : Option (List String)) :
    (list text).nullable.read form ((values.map (Json.ofList .str)).getD .null) = .ok values :=
  read_optional form values fun _ _ => rereads_list fun value _ => rereads_text value

theorem read_optional_labels (values : Option (List (String × String))) :
    (map text).nullable.read form ((values.map (Json.ofMap .str)).getD .null) = .ok values :=
  read_optional form values fun _ _ => rereads_map fun member _ => rereads_text member.2

end Optional

end Decoder

/-- The text of a time to the whole second is read as this time. -/
def Instant.Whole (time : Instant) : Prop :=
  Rfc3339.parse (Rfc3339.formatSeconds time) = .ok time

theorem Instant.Whole.rereads {time : Instant} (whole : time.Whole) :
    Decoder.time.Rereads Json.ofSeconds time := by
  refine ⟨by simp [Json.ofSeconds], fun form => ?_⟩
  have read (text : String) :
      Decoder.time.read form (.str text) = (Rfc3339.parse text).mapError .time := rfl
  rw [Json.ofSeconds, read, whole]
  rfl

namespace Fields

variable {α β : Type} {f : Fields α} {x : Fields β}

theorem Sound.seqRight (first : f.Sound) (last : x.Sound) : (f *> x).Sound :=
  (Sound.map (Function.const α id) first).seq last

theorem build_seqRight (form : Form) (members : List (String × Json)) :
    (f *> x).build form members = f.build form members *> x.build form members := by
  change ((Function.const α id) <$> f <*> x).build form members = _
  rw [build_seq, build_map]
  cases f.build form members <;> cases x.build form members <;> rfl

/-- A string that has one allowed value may have it. -/
theorem build_constant {name expected : String} {form : Form} {members : List (String × Json)}
    (found : Json.lookup name members = some (.str expected)) :
    (constant name expected).build form members = .ok () := by
  rw [constant, build_ofField, found]
  simp [bind, Except.bind, pure, Except.pure]

end Fields

/-- A record is read again from an object whose members have names of their own, if it is built
from them. -/
theorem Decoder.rereads_object {α : Type} {expected : String} {fields : Fields α}
    {encode : α → Json} {value : α} {members : List (String × Json)}
    (doc : encode value = .obj members) (sound : fields.Sound) (distinct : (members.map (·.1)).Nodup)
    (built : ∀ form, fields.build form members = .ok value) :
    (object expected fields).Rereads encode value where
  nonnull := by simp [doc]
  reads form := by
    rw [doc]
    exact Fields.readMembers_of_nodup sound distinct (built form)

/-! ## Metadata -/

namespace OwnerReference

theorem nodup_encode (owner : OwnerReference) : (owner.encode.members.map (·.1)).Nodup := by
  have names : ["apiVersion", "blockOwnerDeletion", "controller", "kind", "name", "uid"].Nodup := by
    decide
  refine List.Sublist.nodup ?_ names
  simp only [encode, Json.members, List.map_append]
  exact (((List.Sublist.refl _).append (Json.names_optional_sublist _ _)).append
    (Json.names_optional_sublist _ _)).append (.refl _)

/-- An owner is read again from its document. -/
theorem rereads (owner : OwnerReference) : decoder.Rereads encode owner := by
  have sound : fields.Sound :=
    (((((Fields.Sound.map _ (.map _ .ofField)).seq .ofField).seq .ofField).seq
      (.map _ .ofField)).seq (.map _ .ofField)).seq (.map _ .ofField)
  refine Decoder.rereads_object rfl sound owner.nodup_encode fun form => ?_
  simp only [fields, Fields.orElse, Fields.build_seq, Fields.build_map, Fields.build_optional_eq,
    Json.lookup_append, Json.lookup_optional, Json.lookup_cons, Json.lookup_nil, String.reduceEq,
    if_true, if_false, Option.none_or, Option.or_none, Decoder.read_optional_bool]
  rfl

end OwnerReference

namespace ManagedFields

/-- An entry that a document can hold. -/
structure Readable (entry : ManagedFields) : Prop where
  fieldsV1 : ∀ doc ∈ entry.fieldsV1, doc ≠ .null
  time : ∀ time ∈ entry.time, time.Whole

theorem nodup_encode (entry : ManagedFields) : (entry.encode.members.map (·.1)).Nodup := by
  have names : ["apiVersion", "fieldsType", "fieldsV1", "manager", "operation", "subresource",
      "time"].Nodup := by
    decide
  refine List.Sublist.nodup ?_ names
  simp only [encode, Json.members, List.map_append]
  exact ((((((Json.names_optional_sublist _ _).append (Json.names_optional_sublist _ _)).append
    (Json.names_optional_sublist _ _)).append (Json.names_optional_sublist _ _)).append
    (Json.names_optional_sublist _ _)).append (Json.names_optional_sublist _ _)).append
    (Json.names_optional_sublist _ _)

/-- An entry is read again from its document. -/
theorem Readable.rereads {entry : ManagedFields} (readable : entry.Readable) :
    decoder.Rereads encode entry := by
  have sound : fields.Sound :=
    ((((((Fields.Sound.map _ .ofField).seq .ofField).seq .ofField).seq .ofField).seq .ofField).seq
      .ofField).seq .ofField
  refine Decoder.rereads_object rfl sound entry.nodup_encode fun form => ?_
  have fieldsV1 : Decoder.any.nullable.read form (entry.fieldsV1.getD .null) =
      .ok entry.fieldsV1 := by
    have read := Decoder.read_optional form _ fun doc known =>
      Decoder.rereads_any (readable.fieldsV1 doc known)
    rwa [Option.map_id] at read
  have time := Decoder.read_optional form _ fun time known =>
    (readable.time time known).rereads
  simp only [fields, Fields.build_seq, Fields.build_map, Fields.build_optional_eq,
    Json.lookup_append, Json.lookup_optional, String.reduceEq, if_true, if_false, Option.none_or,
    Option.or_none, Decoder.read_optional_text, fieldsV1, time]
  rfl

end ManagedFields

namespace ObjectMeta

/-- Metadata that a document can hold. -/
structure Readable (metadata : ObjectMeta) : Prop where
  creation : ∀ time ∈ metadata.creationTimestamp, time.Whole
  deletion : ∀ time ∈ metadata.deletionTimestamp, time.Whole
  period : ∀ seconds ∈ metadata.deletionGracePeriodSeconds, Decoder.FitsInt64 seconds
  generation : ∀ number ∈ metadata.generation, Decoder.FitsInt64 number
  managedFields : ∀ entries ∈ metadata.managedFields, ∀ entry ∈ entries, entry.Readable

theorem nodup_encode (metadata : ObjectMeta) : (metadata.encode.members.map (·.1)).Nodup := by
  have names : ["annotations", "creationTimestamp", "deletionGracePeriodSeconds",
      "deletionTimestamp", "finalizers", "generateName", "generation", "labels", "managedFields",
      "name", "namespace", "ownerReferences", "resourceVersion", "selfLink", "uid"].Nodup := by
    decide
  refine List.Sublist.nodup ?_ names
  simp only [encode, Json.members, List.map_append]
  have name (name : String) (value : Option Json) := Json.names_optional_sublist name value
  exact ((((((((((((((name _ _).append (name _ _)).append (name _ _)).append (name _ _)).append
    (name _ _)).append (name _ _)).append (name _ _)).append (name _ _)).append (name _ _)).append
    (name _ _)).append (name _ _)).append (name _ _)).append (name _ _)).append (name _ _)).append
    (name _ _)

/-- Metadata are read again from their document. -/
theorem Readable.rereads {metadata : ObjectMeta} (readable : metadata.Readable) :
    decoder.Rereads encode metadata := by
  refine Decoder.rereads_object rfl fields_sound metadata.nodup_encode fun form => ?_
  have creation := Decoder.read_optional form _ fun time known =>
    (readable.creation time known).rereads
  have deletion := Decoder.read_optional form _ fun time known =>
    (readable.deletion time known).rereads
  have period := Decoder.read_optional form _ fun value known =>
    Decoder.rereads_int64 (readable.period value known)
  have generation := Decoder.read_optional form _ fun value known =>
    Decoder.rereads_int64 (readable.generation value known)
  have managed := Decoder.read_optional form _ fun entries known =>
    Decoder.rereads_list fun entry mem => (readable.managedFields entries known entry mem).rereads
  have owners := Decoder.read_optional form metadata.ownerReferences fun _ _ =>
    Decoder.rereads_list fun owner _ => owner.rereads
  simp only [fields, Fields.build_seq, Fields.build_map, Fields.build_optional_eq,
    Json.lookup_append, Json.lookup_optional, String.reduceEq, if_true, if_false, Option.none_or,
    Option.or_none, Decoder.read_optional_text, Decoder.read_optional_texts,
    Decoder.read_optional_labels, creation, deletion, period, generation, managed, owners]
  rfl

end ObjectMeta

/-! ## Secrets -/

namespace Secret

variable {secret : Secret}

theorem fields_sound : fields.Sound :=
  .seqRight (.seqRight .ofField .ofField)
    (((((Fields.Sound.map _ (.map _ .ofField)).seq .ofField).seq .ofField).seq .ofField).seq
      .ofField)

theorem nodup_encode (secret : Secret) : (secret.encode.members.map (·.1)).Nodup := by
  have names :
      ["apiVersion", "data", "immutable", "kind", "metadata", "stringData", "type"].Nodup := by
    decide
  refine List.Sublist.nodup ?_ names
  simp only [encode, Json.members, List.map_append]
  have name (name : String) (value : Option Json) := Json.names_optional_sublist name value
  exact (((((List.Sublist.refl _).append (name _ _)).append (name _ _)).append (.refl _)).append
    (name _ _)).append (name _ _)

/-- A secret is read again from its document. -/
theorem rereads (readable : secret.metadata.Readable) : decoder.Rereads encode secret := by
  refine Decoder.rereads_object rfl fields_sound secret.nodup_encode fun form => ?_
  have data := Decoder.read_optional form secret.data fun _ _ =>
    Decoder.rereads_map fun member _ => Decoder.rereads_bytes member.2
  have metadata : ObjectMeta.decoder.nullable.read form
      ((some secret.metadata.encode).getD .null) = .ok (some secret.metadata) :=
    Decoder.read_optional form (some secret.metadata) fun metadata known =>
      (Option.some.inj known ▸ readable).rereads
  have version : (Fields.constant "apiVersion" "v1").build form secret.encode.members = .ok () :=
    Fields.build_constant rfl
  have kind : (Fields.constant "kind" "Secret").build form secret.encode.members = .ok () :=
    Fields.build_constant (by simp [encode, Json.members, Json.lookup_append, Json.lookup_optional,
      Json.lookup_cons])
  rw [encode, Json.members] at version kind
  simp only [fields, version, kind, Fields.orElse, Fields.build_seqRight, Fields.build_seq,
    Fields.build_map, Fields.build_optional_eq, Json.lookup_append, Json.lookup_optional,
    Json.lookup_cons, Json.lookup_nil, String.reduceEq, if_true, if_false, Option.none_or,
    Option.or_none, Decoder.read_optional_text, Decoder.read_optional_bool,
    Decoder.read_optional_labels, data, metadata]
  rfl

/-- The secret of a document, if it is that of one. -/
def read? (doc : Json) : Option Secret := (decoder.decode doc).toOption

/-- **Secrets survive their documents.** -/
theorem read?_encode (readable : secret.metadata.Readable) : read? secret.encode = some secret := by
  rw [read?, Decoder.decode, (rereads readable).reads]
  rfl

/-- A replica has no metadata that a document could not hold. -/
theorem readable_replica (secret : Secret) (version : String) :
    (secret.replica version).metadata.Readable where
  creation := by simp [replica]
  deletion := by simp [replica]
  period := by simp [replica]
  generation := by simp [replica]
  managedFields := by simp [replica]

end Secret

end PullSecretSync
