import PullSecretSync.Proofs.Documents

/-!
# Configurations survive their documents

A configuration is read again from its document, whatever of it is empty or missing, as long as its
management state is not one of the three known names put down as unrecognized. No configuration that
was read has such a state, from whatever document or text it was read; so reading and writing a
document once settles it, and the management state that a document gives is kept to the letter.

Times and metadata are written as text and as a document of their own. All that is assumed of them
is that they are read again from these.
-/

namespace PullSecretSync

/-! ## Management states -/

namespace ManagementState

/-- A state is written in one way: a known name is not put down as unrecognized. -/
def Canonical (state : ManagementState) : Prop :=
  ∀ value, state = .unrecognized value → value ∉ ["Managed", "Unmanaged", "Removed"]

theorem canonical_iff {state : ManagementState} : state.Canonical ↔ ofText state.text = state := by
  cases state with
  | unrecognized value =>
    change _ ↔ ofText value = .unrecognized value
    constructor
    · intro canonical
      have unknown := canonical value rfl
      simp only [List.mem_cons, List.not_mem_nil, or_false, not_or] at unknown
      rw [ofText, if_neg unknown.1, if_neg unknown.2.1, if_neg unknown.2.2]
    · rintro same _ ⟨⟩ known
      simp only [List.mem_cons, List.not_mem_nil, or_false] at known
      rcases known with rfl | rfl | rfl <;> cases same
  | _ => exact iff_of_true nofun rfl

theorem canonical_ofText (value : String) : (ofText value).Canonical :=
  canonical_iff.mpr (congrArg ofText (text_ofText value))

/-- The document of a state that is read is its text. -/
theorem of_read {state : ManagementState} {form : Form} {doc : Json}
    (reads : decoder.read form doc = .ok state) : doc = .str state.text ∧ state.Canonical := by
  obtain ⟨value, read, rfl⟩ := map_eq_ok reads
  refine ⟨?_, canonical_ofText value⟩
  cases doc with
  | str found =>
    obtain rfl : found = value := Except.ok.inj read
    rw [text_ofText]
  | _ => cases read

end ManagementState

/-! ## Writing and reading again -/

namespace InstallType

theorem read_encode (type : InstallType) (form : Form) :
    decoder.read form type.encode = .ok type := by
  cases type <;> rfl

end InstallType

namespace ConfigSpec

variable {form : Form}

theorem fields_sound : fields.Sound := ((Fields.Sound.map _ .ofField).seq .ofField).seq .ofField

theorem nodup_encode (spec : ConfigSpec) : (spec.encode.members.map (·.1)).Nodup := by
  have names : ["installType", "managementState", "samplesRegistry"].Nodup := by decide
  refine List.Sublist.nodup ?_ names
  rw [encode, Json.members, List.map_append]
  exact (List.Sublist.refl _).append (Json.names_optional_sublist _ _)

/-- A specification is read again from its document, with its state as it is written. -/
theorem read_encode (spec : ConfigSpec) (form : Form) : decoder.read form spec.encode =
    .ok { spec with managementState := .ofText spec.managementState.text } := by
  refine Fields.readMembers_of_nodup fields_sound spec.nodup_encode ?_
  have state : ManagementState.decoder.read form spec.managementState.encode =
      .ok (.ofText spec.managementState.text) := rfl
  simp only [fields, Fields.build_seq, Fields.build_map, Fields.build_optional_eq, Fields.defaulted,
    Fields.build_ofField, Json.lookup_append, Json.lookup_optional, Json.lookup_cons,
    Json.lookup_nil, String.reduceEq, if_true, if_false, Option.none_or, Option.or_none,
    Decoder.read_optional_text, state, InstallType.read_encode]
  rfl

end ConfigSpec

namespace ConfigStatus

/-- A status is read again from its document, also what is left out because it is empty. -/
theorem read_encode {status : ConfigStatus} {form : Form}
    (readable : ∀ condition ∈ status.conditions, condition.Readable) :
    decoder.read form status.encode = .ok status := by
  have conditions : (Fields.defaulted "conditions" (.list Condition.decoder) []).build form
      status.encode.members = .ok status.conditions := by
    rw [Fields.defaulted, Fields.build_ofField, lookup_encode, if_pos rfl]
    by_cases blank : status.conditions = []
    · rw [if_pos blank, blank]
    · rw [if_neg blank]
      exact Decoder.read_ofList fun condition known => (readable condition known).read_encode form
  have version : (Fields.optional "version" .text).build form status.encode.members =
      .ok status.version := by
    rw [Fields.build_optional_eq, lookup_encode, if_neg (by decide), if_pos rfl]
    exact Decoder.read_optional_text form status.version
  have built : fields.build form status.encode.members = .ok status := by
    rw [fields, Fields.build_seq, Fields.build_map, conditions, version]
    rfl
  exact Fields.readMembers_of_nodup fields_sound status.nodup_encode built

end ConfigStatus

/-! ## What a document gives -/

namespace Json

/-- What a document gives for a field: the member of its name, or the item at its place. -/
def field? (doc : Json) (name : String) (place : Nat) : Option Json :=
  match doc with
  | .obj members => lookup name members
  | .arr items => items[place]?
  | _ => none

end Json

namespace Fields

variable {α : Type} {fields : Fields α} {expected : String} {form : Form} {doc : Json} {value : α}

/-- What is found under the name of a field is the item at its place. -/
theorem lookup_zip {list : List Field} {items : List Json} {name : String} {place : Nat}
    (distinct : (list.map (·.name)).Nodup) (named : (list.map (·.name))[place]? = some name) :
    Json.lookup name ((list.zip items).map fun entry => (entry.1.name, entry.2)) =
      items[place]? := by
  induction list generalizing items place with
  | nil => cases named
  | cons field rest ih =>
    obtain ⟨absent, distinct⟩ := List.nodup_cons.mp distinct
    cases items with
    | nil => rfl
    | cons item items =>
      rw [List.zip_cons_cons, List.map_cons, Json.lookup_cons]
      cases place with
      | zero => exact if_pos (Option.some.inj named)
      | succ place =>
        have apart : field.name ≠ name := by
          rintro rfl
          exact absent (List.mem_of_getElem? named)
        rw [if_neg apart]
        exact ih distinct named

/-- The items of an array stand for the fields in their order. -/
theorem eq_zip_of_membersOf {list : List Field} {items : List Json}
    {members : List (String × Json)} (given : membersOf expected list form items = .ok members) :
    members = (list.zip items).map fun entry => (entry.1.name, entry.2) := by
  simp only [membersOf, bind, Except.bind] at given
  split at given
  · cases given
  · split at given
    · cases given
    · split at given
      · cases given
      · exact (Except.ok.inj given).symm

/-- A record that is read is built from what the document gives for its fields. -/
theorem exists_build (distinct : (fields.list.map (·.name)).Nodup)
    (reads : (Decoder.record expected fields).read form doc = .ok value) :
    ∃ members, fields.build form members = .ok value ∧
      ∀ name place, (fields.list.map (·.name))[place]? = some name →
        Json.lookup name members = doc.field? name place := by
  cases doc with
  | obj members => exact ⟨members, build_of_read reads, fun _ _ _ => rfl⟩
  | arr items =>
    cases given : membersOf expected fields.list form items with
    | error error =>
      simp only [Decoder.record, given] at reads
      cases reads
    | ok members =>
      simp only [Decoder.record, given] at reads
      refine ⟨members, reads, fun name place named => ?_⟩
      rw [eq_zip_of_membersOf given]
      exact lookup_zip distinct named
  | _ => cases reads

end Fields

namespace ConfigSpec

variable {spec : ConfigSpec} {form : Form} {doc : Json}

/-- The state of a specification is the text that its document gives, and managed without one. -/
theorem of_read (reads : decoder.read form doc = .ok spec) :
    spec.managementState.Canonical ∧ .str spec.managementState.text =
      (doc.field? "managementState" 0).getD ManagementState.managed.encode := by
  have distinct : (fields.list.map (·.name)).Nodup :=
    show ["managementState", "installType", "samplesRegistry"].Nodup by decide
  obtain ⟨members, built, given⟩ := Fields.exists_build distinct reads
  simp only [fields, Fields.build_seq, Fields.build_map] at built
  obtain ⟨_, registry, built₂, -, rfl⟩ := seq_eq_ok built
  obtain ⟨_, type, built₁, -, rfl⟩ := seq_eq_ok built₂
  obtain ⟨state, readState, rfl⟩ := map_eq_ok built₁
  rw [Fields.defaulted, Fields.build_ofField, given "managementState" 0 rfl] at readState
  cases stated : doc.field? "managementState" 0 with
  | none =>
    rw [stated] at readState
    obtain rfl := Except.ok.inj readState
    exact ⟨ManagementState.canonical_iff.mpr rfl, rfl⟩
  | some found =>
    rw [stated] at readState
    obtain ⟨same, canonical⟩ := ManagementState.of_read readState
    exact ⟨canonical, same.symm⟩

end ConfigSpec

/-! ## Reading a text -/

namespace Json.Reader

/-- Both steps of a reader succeed if it does. -/
theorem run_bind_eq_ok {α β : Type} {reader : Reader α} {next : α → Reader β}
    {start last : Cursor} {result : β}
    (reads : (reader >>= next).run start = .ok (result, last)) :
    ∃ value reached, reader.run start = .ok (value, reached) ∧
      (next value).run reached = .ok (result, last) := by
  rw [StateT.run_bind] at reads
  obtain ⟨⟨value, reached⟩, first, later⟩ := bind_eq_ok_iff.mp reads
  exact ⟨value, reached, first, later⟩

/-- What is read from a whole text was read from its start. Another character behind it would have
been refused. -/
theorem exists_run_of_readAll {α : Type} {reader : Reader α} {text : String} {value : α}
    (reads : reader.readAll text = .ok value) :
    ∃ start reached, reader.run start = .ok (value, reached) := by
  obtain ⟨⟨result, last⟩, ran, same⟩ := bind_eq_ok_iff.mp reads
  obtain rfl : result = value := Except.ok.inj same
  obtain ⟨found, reached, first, rest⟩ := run_bind_eq_ok ran
  obtain ⟨next, seen, -, ended⟩ := run_bind_eq_ok rest
  have same : found = result := by
    dsimp only at ended
    split at ended
    · obtain ⟨_, _, refused, -⟩ := run_bind_eq_ok ended
      cases refused
    · exact congrArg Prod.fst (Except.ok.inj ended)
  exact ⟨_, reached, same ▸ first⟩

end Json.Reader

/-- What is read from a text is the value of the document that was scanned. -/
theorem Decoder.exists_decode_of_parse {α : Type} {decoder : Decoder α} {text : String} {value : α}
    (reads : decoder.parse text = .ok value) : ∃ doc, decoder.decode doc = .ok value := by
  obtain ⟨start, reached, ran⟩ := Json.Reader.exists_run_of_readAll reads
  obtain ⟨doc, scanned, -, decoded⟩ := Json.Reader.run_bind_eq_ok ran
  refine ⟨doc, ?_⟩
  cases read : decoder.decode doc with
  | ok other =>
    rw [read] at decoded
    exact congrArg (Except.ok ·.1) (Except.ok.inj decoded)
  | error error =>
    rw [read] at decoded
    cases decoded

/-! ## Configurations -/

namespace Config

variable {config : Config} {form : Form} {doc : Json}

/-- The times of a configuration and its metadata are read again from what is written for them. -/
structure Holdable (config : Config) : Prop where
  metadata : ObjectMeta.decoder.Rereads ObjectMeta.encode config.metadata
  times : ∀ condition ∈ config.conditions, condition.Readable

/-- The configuration with its state as it is written. -/
def settled (config : Config) : Config :=
  { config with
    spec := { config.spec with
      managementState := .ofText config.spec.managementState.text } }

theorem settled_eq_iff : config.settled = config ↔ config.spec.managementState.Canonical := by
  obtain ⟨metadata, ⟨state, type, registry⟩, status⟩ := config
  rw [ManagementState.canonical_iff]
  simp [settled]

theorem nodup_encode (config : Config) : (config.encode.members.map (·.1)).Nodup := by
  have names : ["apiVersion", "kind", "metadata", "spec", "status"].Nodup := by decide
  refine List.Sublist.nodup ?_ names
  rw [encode, Json.members, List.map_append]
  exact (List.Sublist.refl _).append (Json.names_optional_sublist _ _)

/-- A configuration is read again from its document, with its state as it is written. -/
theorem Holdable.read_encode (holdable : config.Holdable) (form : Form) :
    decoder.read form config.encode = .ok config.settled := by
  have status : ConfigStatus.decoder.nullable.read form
      ((config.status.map ConfigStatus.encode).getD .null) = .ok config.status :=
    Decoder.read_nullable fun status known => ⟨by simp [ConfigStatus.encode],
      ConfigStatus.read_encode fun condition mem => holdable.times condition (by
        rwa [conditions, Option.mem_def.mp known])⟩
  refine Fields.readMembers_of_nodup fields_sound config.nodup_encode ?_
  simp only [fields, Fields.build_seq, Fields.build_map, Fields.build_optional_eq, Fields.required,
    Fields.build_ofField, Json.lookup_append, Json.lookup_optional, Json.lookup_cons,
    Json.lookup_nil, String.reduceEq, if_true, if_false, Option.none_or, Option.or_none,
    holdable.metadata.reads, ConfigSpec.read_encode, status]
  rfl

/-- What the document of a configuration gives for the management state. -/
def statedState (doc : Json) : Option Json :=
  (doc.field? "spec" 1).bind (·.field? "managementState" 0)

theorem statedState_encode (config : Config) :
    statedState config.encode = some config.spec.managementState.encode := rfl

/-- The state of a configuration is the text that its document gives, and managed without one. -/
theorem of_read (reads : decoder.read form doc = .ok config) :
    config.spec.managementState.Canonical ∧ config.spec.managementState.encode =
      (statedState doc).getD ManagementState.managed.encode := by
  have distinct : (fields.list.map (·.name)).Nodup :=
    show ["metadata", "spec", "status"].Nodup by decide
  obtain ⟨members, built, given⟩ := Fields.exists_build distinct reads
  simp only [fields, Fields.build_seq, Fields.build_map] at built
  obtain ⟨_, status, built₂, -, rfl⟩ := seq_eq_ok built
  obtain ⟨_, spec, built₁, readSpec, rfl⟩ := seq_eq_ok built₂
  obtain ⟨metadata, -, rfl⟩ := map_eq_ok built₁
  obtain ⟨found, stated, readSpec⟩ := Fields.build_required_eq_ok_iff.mp readSpec
  rw [given "spec" 1 rfl] at stated
  rw [statedState, stated]
  exact ConfigSpec.of_read readSpec

/-- The document of the configuration that is read from a document. -/
def rewritten (doc : Json) : Except DecodeError Json := encode <$> decoder.decode doc

/-- A configuration is read again from its document, which is written again as it is and is that of
no other configuration that could be read. -/
structure Survives (config : Config) : Prop where
  reads : ∀ form, decoder.read form config.encode = .ok config
  rewritten : rewritten config.encode = .ok config.encode
  distinct : ∀ other : Config, other.Holdable → other.spec.managementState.Canonical →
    other.encode = config.encode → other = config

/-- A configuration whose state is written in one way is read again as it is. -/
theorem Holdable.read_encode_of_canonical (holdable : config.Holdable)
    (canonical : config.spec.managementState.Canonical) (form : Form) :
    decoder.read form config.encode = .ok config := by
  rw [holdable.read_encode, settled_eq_iff.mpr canonical]

/-- A configuration survives if and only if its state is written in one way. -/
theorem Holdable.survives_iff_canonical (holdable : config.Holdable) :
    config.Survives ↔ config.spec.managementState.Canonical := by
  constructor
  · intro survives
    have settled := holdable.read_encode .document
    rw [survives.reads] at settled
    exact settled_eq_iff.mp (Except.ok.inj settled).symm
  · intro canonical
    have reads := holdable.read_encode_of_canonical canonical
    refine ⟨reads, ?_, fun other held clear same => ?_⟩
    · rw [rewritten, Decoder.decode, reads]
      rfl
    · have found := held.read_encode_of_canonical clear .document
      rw [same, reads] at found
      exact (Except.ok.inj found).symm

/-- **Configurations survive their documents.** A configuration is what its document says, unless
its state is a known name put down as unrecognized; and one that was read is, from whatever document
or text it was read. The state that the document gave is written as it was given. -/
theorem Holdable.survives (holdable : config.Holdable) :
    (config.Survives ↔ config.spec.managementState.Canonical) ∧
      (∀ form doc, decoder.read form doc = .ok config → config.Survives ∧
        statedState config.encode =
          some ((statedState doc).getD ManagementState.managed.encode)) ∧
      ∀ text, decoder.parse text = .ok config → config.Survives := by
  have survives := holdable.survives_iff_canonical
  refine ⟨survives, fun form doc reads => ?_, fun text parses => ?_⟩
  · obtain ⟨canonical, stated⟩ := of_read reads
    exact ⟨survives.mpr canonical, stated ▸ config.statedState_encode⟩
  · obtain ⟨doc, reads⟩ := Decoder.exists_decode_of_parse parses
    exact survives.mpr (of_read reads).1

/-- A configuration is read from a specification and a condition that are given as arrays, with an
unknown state, a distribution that is given as an object, an unknown member and nulls. Of these only
the state is written, and the configuration is read again. -/
theorem survives_arrays_and_nulls :
    let config : Config := {
      metadata := { name := some "cluster", creationTimestamp := some ⟨1577836800, 0⟩ }
      spec := ⟨.unrecognized "force", .rhel, none⟩
      status := some {
        conditions := [⟨credentialType, .unknown, some ⟨1700000000, 500000000⟩, none, ""⟩] } }
    let doc : Json := .obj [
      ("spec", .arr [.str "force", .obj [("rhel", .null)], .null]),
      ("status", .obj [("version", .null), ("conditions", .arr [
        .arr [.str "ImportCredentialsExist", .str "Unknown", .str "2023-11-14T22:13:20.500Z",
          .null]])]),
      ("metadata", .obj [("name", .str "cluster"),
        ("creationTimestamp", .str "2020-01-01T00:00:00Z"), ("labels", .null)]),
      ("unknown", .int 1)]
    config.Holdable ∧ decoder.decode doc = .ok config ∧ config.Survives ∧
      statedState config.encode = some (.str "force") := by
  intro config doc
  have metadata : config.metadata.Readable := by
    refine ⟨?_, ?_, ?_, ?_, ?_⟩ <;> rintro _ ⟨⟩
    rfl
  have times : ∀ condition ∈ config.conditions, condition.Readable := by
    intro condition known
    obtain rfl := List.mem_singleton.mp known
    exact ⟨by rintro _ ⟨⟩; rfl, by rintro _ ⟨⟩⟩
  have holdable : config.Holdable := ⟨metadata.rereads, times⟩
  have reads : decoder.decode doc = .ok config := rfl
  exact ⟨holdable, reads, holdable.survives.2.1 .document doc reads⟩

end Config

end PullSecretSync
