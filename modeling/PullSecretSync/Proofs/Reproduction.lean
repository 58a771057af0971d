import PullSecretSync.Proofs.Merging
import PullSecretSync.Proofs.Server
import PullSecretSync.Proofs.Tracking
import PullSecretSync.Sync.Gate

/-!
# A patch reproduces the status

The patch of a status leaves out what is empty, and a merge patch keeps what is left out. This is
right because nothing that was there once is taken away in memory: a status that is changed keeps
its version and keeps having conditions. A configuration that is patched is therefore read with the
status that was in memory, and is otherwise what it was.

Times are written as text. All that is assumed of them is that the text of a time in the status is
read as that time.
-/

namespace PullSecretSync

/-! ## Changing a status in memory -/

/-- A change of the conditions in memory. -/
inductive StatusChange where
  | set (type : String) (status : ConditionStatus) (message : String)
  | settle (type : String) (status : ConditionStatus)
  | reportError (type : String) (status : ConditionStatus) (message : String)
  | gate

/-- The configuration after a change. -/
def Config.change (config : Config) (now : Instant) : StatusChange → Config
  | .set type status message => config.setCondition now type status message
  | .settle type status => config.settle now type status
  | .reportError type status message => config.reportError now type status message
  | .gate => (config.gate now).2

/-- The configuration after some changes, each at its time. -/
def Config.changed (config : Config) (changes : List (Instant × StatusChange)) : Config :=
  changes.foldl (fun config change => config.change change.1 change.2) config

/-- A status goes on from another: it keeps the version and keeps having conditions. -/
structure ConfigStatus.Continues (before after : Option ConfigStatus) : Prop where
  version : (after.getD {}).version = (before.getD {}).version
  conditions : (after.getD {}).conditions = [] → (before.getD {}).conditions = []
  absent : after = none → before = none

/-- A configuration goes on from another: nothing but its status changes. -/
structure Config.Continues (before after : Config) : Prop where
  metadata : after.metadata = before.metadata
  spec : after.spec = before.spec
  status : ConfigStatus.Continues before.status after.status

namespace Config

variable {config middle last : Config}

theorem Continues.refl (config : Config) : config.Continues config :=
  ⟨rfl, rfl, rfl, id, id⟩

theorem Continues.trans (first : config.Continues middle) (second : middle.Continues last) :
    config.Continues last where
  metadata := second.metadata.trans first.metadata
  spec := second.spec.trans first.spec
  status := {
    version := second.status.version.trans first.status.version
    conditions := first.status.conditions ∘ second.status.conditions
    absent := first.status.absent ∘ second.status.absent }

theorem continues_setCondition (config : Config) (now : Instant) (type : String)
    (status : ConditionStatus) (message : String) :
    config.Continues (config.setCondition now type status message) where
  metadata := rfl
  spec := rfl
  status := {
    version := rfl
    conditions := fun none => absurd none (Condition.setIn_ne_nil now type status message _)
    absent := fun absent => by cases absent }

theorem continues_reportError (config : Config) (now : Instant) (type : String)
    (status : ConditionStatus) (message : String) :
    config.Continues (config.reportError now type status message) := by
  simp only [reportError]
  split
  · exact .refl config
  · exact config.continues_setCondition now type status message

/-- No change takes anything away. -/
theorem continues_change (config : Config) (now : Instant) (change : StatusChange) :
    config.Continues (config.change now change) := by
  cases change with
  | set type status message => exact config.continues_setCondition now type status message
  | settle type status => exact config.continues_setCondition now type status ""
  | reportError type status message => exact config.continues_reportError now type status message
  | gate =>
    simp only [Config.change, gate]
    split
    · exact .refl config
    · split
      · exact .refl config
      · exact config.continues_reportError now _ _ _

theorem continues_changed (config : Config) (changes : List (Instant × StatusChange)) :
    config.Continues (config.changed changes) := by
  induction changes generalizing config with
  | nil => exact .refl config
  | cons change rest ih =>
    exact (config.continues_change change.1 change.2).trans (ih _)

end Config

/-! ## Reading what was written -/

/-- The text of a time is read as this time. -/
def Instant.Readable (time : Instant) : Prop := Rfc3339.parse (Rfc3339.format time) = .ok time

/-- The texts of a condition's times are read as these times. -/
structure Condition.Readable (condition : Condition) : Prop where
  lastUpdate : ∀ time ∈ condition.lastUpdate, time.Readable
  lastTransition : ∀ time ∈ condition.lastTransition, time.Readable

theorem Json.names_optional_sublist (name : String) (value : Option Json) :
    ((optional name value).map (·.1)).Sublist [name] := by
  cases value <;> simp [optional]

theorem Json.member?_eq_lookup (doc : Json) (name : String) :
    doc.member? name = lookup name doc.members := by
  cases doc <;> rfl

theorem Decoder.eq_str_of_read_nullable {form : Form} {doc : Json} {value : String}
    (reads : text.nullable.read form doc = .ok (some value)) : doc = .str value := by
  cases doc with
  | str found =>
    obtain rfl : found = value := Option.some.inj (Except.ok.inj reads)
    rfl
  | _ => cases reads

@[simp] theorem Decoder.read_text (form : Form) (value : String) :
    text.read form (.str value) = .ok value := rfl

/-- A list of items each of which is read again is read again. -/
theorem Decoder.read_ofList {α : Type} {item : Decoder α} {encode : α → Json} {form : Form}
    {values : List α} (reads : ∀ value ∈ values, item.read form (encode value) = .ok value) :
    (list item).read form (Json.ofList encode values) = .ok values := by
  change (values.map encode).mapM (item.read form) = .ok values
  induction values with
  | nil => rfl
  | cons value values ih =>
    obtain ⟨first, later⟩ := List.forall_mem_cons.mp reads
    rw [List.map_cons, List.mapM_cons, first, ih later]
    rfl

/-- A value that may be missing is read again. -/
theorem Decoder.read_nullable {α : Type} {decoder : Decoder α} {encode : α → Json} {form : Form}
    {value : Option α}
    (reads : ∀ some ∈ value, encode some ≠ .null ∧ decoder.read form (encode some) = .ok some) :
    decoder.nullable.read form ((value.map encode).getD .null) = .ok value := by
  cases value with
  | none => rfl
  | some value =>
    obtain ⟨nonnull, read⟩ := reads value rfl
    have present : decoder.nullable.read form (encode value) =
        some <$> decoder.read form (encode value) := by
      cases doc : encode value <;> first | rfl | exact absurd doc nonnull
    rw [Option.map_some, Option.getD_some, present, read]
    rfl

/-- A missing document of a field that may be missing counts as null. -/
theorem Fields.build_optional_eq {α : Type} {name : String} {decoder : Decoder α} {form : Form}
    {members : List (String × Json)} : (optional name decoder).build form members =
      decoder.nullable.read form ((Json.lookup name members).getD .null) := by
  rw [optional, build_ofField]
  cases Json.lookup name members <;> rfl

/-- A field that may be missing is read again from where it was written. -/
theorem Fields.build_optional {α : Type} {name : String} {decoder : Decoder α} {encode : α → Json}
    {form : Form} {members : List (String × Json)} {value : Option α}
    (found : Json.lookup name members = value.map encode)
    (reads : ∀ some ∈ value, encode some ≠ .null ∧ decoder.read form (encode some) = .ok some) :
    (optional name decoder).build form members = .ok value := by
  rw [build_optional_eq, found]
  exact Decoder.read_nullable reads

theorem Fields.build_required_eq_ok_iff {α : Type} {name : String} {decoder : Decoder α}
    {form : Form} {members : List (String × Json)} {value : α} :
    (required name decoder).build form members = .ok value ↔
      ∃ doc, Json.lookup name members = some doc ∧ decoder.read form doc = .ok value := by
  rw [required, build_ofField]
  cases Json.lookup name members <;> simp

/-- The text of a readable time is read as this time. -/
theorem Instant.Readable.read {time : Instant} (readable : time.Readable) (form : Form) :
    Decoder.time.read form (Condition.encodeTime time) = .ok time := by
  have read (text : String) :
      Decoder.time.read form (.str text) = (Rfc3339.parse text).mapError .time := rfl
  rw [Condition.encodeTime, read, readable]
  rfl

theorem ConditionStatus.read_encode (status : ConditionStatus) (form : Form) :
    decoder.read form status.encode = .ok status := by
  cases status <;> rfl

namespace Condition

theorem fields_sound : fields.Sound :=
  ((((Fields.Sound.map _ .ofField).seq .ofField).seq .ofField).seq .ofField).seq .ofField

theorem encodeTime_ne_null {time : Instant} : encodeTime time ≠ .null := by simp [encodeTime]

theorem nodup_encode (condition : Condition) : (condition.encode.members.map (·.1)).Nodup := by
  have names : ["lastTransitionTime", "lastUpdateTime", "message", "status", "type"].Nodup := by
    decide
  refine List.Sublist.nodup ?_ names
  simp only [encode, Json.members, List.map_append]
  exact (((Json.names_optional_sublist _ _).append (Json.names_optional_sublist _ _)).append
    (Json.names_optional_sublist _ _)).append (.refl _)

theorem lookup_encode (condition : Condition) (name : String) :
    Json.lookup name condition.encode.members =
      if "lastTransitionTime" = name then condition.lastTransition.map encodeTime
      else if "lastUpdateTime" = name then condition.lastUpdate.map encodeTime
      else if "message" = name then
        if condition.message = "" then none else some (.str condition.message)
      else if "status" = name then some condition.status.encode
      else if "type" = name then some (.str condition.type) else none := by
  simp only [encode, Json.members, Json.lookup_append, Json.lookup_optional, Json.lookup_cons,
    Json.lookup_nil]
  by_cases lastTransition : "lastTransitionTime" = name
  · subst lastTransition
    simp
  by_cases lastUpdate : "lastUpdateTime" = name
  · subst lastUpdate
    simp
  by_cases message : "message" = name
  · subst message
    simp
  · simp [lastTransition, lastUpdate, message]

/-- A condition is read again, its message also where it is empty. -/
theorem Readable.read_encode {condition : Condition} (readable : condition.Readable)
    (form : Form) :
    decoder.read form condition.encode = .ok condition := by
  have type : (Fields.required "type" .text).build form condition.encode.members =
      .ok condition.type := by
    simp [Fields.required, Fields.build_ofField, lookup_encode]
  have status : (Fields.required "status" ConditionStatus.decoder).build form
      condition.encode.members = .ok condition.status := by
    simp [Fields.required, Fields.build_ofField, lookup_encode, ConditionStatus.read_encode]
  have lastUpdate : (Fields.optional "lastUpdateTime" .time).build form
      condition.encode.members = .ok condition.lastUpdate := by
    have found : Json.lookup "lastUpdateTime" condition.encode.members =
        condition.lastUpdate.map encodeTime := by
      simp [lookup_encode]
    exact Fields.build_optional found fun time known =>
      ⟨encodeTime_ne_null, (readable.lastUpdate time known).read form⟩
  have lastTransition : (Fields.optional "lastTransitionTime" .time).build form
      condition.encode.members = .ok condition.lastTransition := by
    have found : Json.lookup "lastTransitionTime" condition.encode.members =
        condition.lastTransition.map encodeTime := by
      simp [lookup_encode]
    exact Fields.build_optional found fun time known =>
      ⟨encodeTime_ne_null, (readable.lastTransition time known).read form⟩
  have message : (Fields.defaulted "message" .text "").build form condition.encode.members =
      .ok condition.message := by
    by_cases blank : condition.message = ""
    · simp [blank, Fields.defaulted, Fields.build_ofField, lookup_encode]
    · simp [blank, Fields.defaulted, Fields.build_ofField, lookup_encode]
  have built : fields.build form condition.encode.members = .ok condition := by
    rw [fields, Fields.build_seq, Fields.build_seq, Fields.build_seq, Fields.build_seq,
      Fields.build_map, type, status, lastUpdate, lastTransition, message]
    rfl
  exact Fields.readMembers_of_nodup fields_sound condition.nodup_encode built

end Condition

/-! ## Statuses -/

namespace ConfigStatus

variable {status : ConfigStatus} {before : Option ConfigStatus} {doc : Json} {form : Form}

theorem fields_sound : fields.Sound := (Fields.Sound.map _ .ofField).seq .ofField

theorem nodup_encode (status : ConfigStatus) : (status.encode.members.map (·.1)).Nodup := by
  have names : ["conditions", "version"].Nodup := by decide
  refine List.Sublist.nodup ?_ names
  rw [encode, Json.members, List.map_append]
  exact (Json.names_optional_sublist _ _).append (Json.names_optional_sublist _ _)

/-- What is left out when it is empty counts as not named. -/
theorem lookup_encode (status : ConfigStatus) (name : String) :
    Json.lookup name status.encode.members =
      if "conditions" = name then
        if status.conditions = [] then none
        else some (Json.ofList Condition.encode status.conditions)
      else if "version" = name then status.version.map .str else none := by
  rw [encode, Json.members, Json.lookup_append, Json.lookup_optional, Json.lookup_optional]
  by_cases conditions : "conditions" = name
  · subst conditions
    simp
  · simp [conditions]

/-- A patch of a status leaves its unknown members alone. -/
theorem member?_merge_of_ne {name : String} (notConditions : name ≠ "conditions")
    (notVersion : name ≠ "version") (doc : Json) (status : ConfigStatus) :
    (doc.merge status.encode).member? name = doc.member? name := by
  have merged : (doc.merge status.encode).member? name =
      Json.lookup name (Json.mergeMembers doc.members status.encode.members) := by
    rw [encode, Json.merge]
    rfl
  rw [merged, Json.lookup_mergeMembers status.nodup_encode, status.lookup_encode,
    if_neg notConditions.symm, if_neg notVersion.symm, Json.member?_eq_lookup]
  rfl

/-- The members of a status that was read are read as what it was, or as nothing. -/
theorem read_members (reads : decoder.nullable.read form doc = .ok before) :
    ∃ old, fields.readMembers form doc.members = .ok old ∧
      ((before.getD {}).conditions = [] → old.conditions = []) ∧
      ((before.getD {}).version = none → old.version = none) := by
  cases doc with
  | obj members =>
    obtain ⟨old, read, rfl⟩ := map_eq_ok reads
    exact ⟨old, read, id, id⟩
  | _ => exact ⟨{}, rfl, fun _ => rfl, fun _ => rfl⟩

/-- A status that goes on from the one that was read takes its place when it is merged. -/
theorem read_merge (reads : decoder.nullable.read form doc = .ok before)
    (continues : Continues before (some status))
    (readable : ∀ condition ∈ status.conditions, condition.Readable) :
    decoder.read form (doc.merge status.encode) = .ok status := by
  obtain ⟨old, read, noConditions, noVersion⟩ := read_members reads
  obtain ⟨checked, built⟩ := Fields.readMembers_eq_ok_iff.mp read
  rw [fields, Fields.build_seq, Fields.build_map] at built
  obtain ⟨_, version, builtConditions, readVersion, rfl⟩ := seq_eq_ok built
  obtain ⟨conditions, readConditions, rfl⟩ := map_eq_ok builtConditions
  have nextConditions : (Fields.defaulted "conditions" (.list Condition.decoder) []).build form
      (Json.mergeMembers doc.members status.encode.members) = .ok status.conditions := by
    rw [Fields.defaulted, Fields.build_ofField] at readConditions ⊢
    rw [Json.lookup_mergeMembers status.nodup_encode, status.lookup_encode, if_pos rfl]
    by_cases blank : status.conditions = []
    · obtain rfl : conditions = [] := noConditions (continues.conditions blank)
      rw [if_pos blank, blank]
      exact readConditions
    · rw [if_neg blank]
      exact Decoder.read_ofList fun condition known => (readable condition known).read_encode form
  have nextVersion : (Fields.optional "version" .text).build form
      (Json.mergeMembers doc.members status.encode.members) = .ok status.version := by
    rw [Fields.optional, Fields.build_ofField] at readVersion ⊢
    rw [Json.lookup_mergeMembers status.nodup_encode, status.lookup_encode,
      if_neg (by decide), if_pos rfl]
    cases same : status.version with
    | none =>
      obtain rfl : version = none := noVersion (continues.version.symm.trans same)
      exact readVersion
    | some version => rfl
  have next : fields.build form (Json.mergeMembers doc.members status.encode.members) =
      .ok status := by
    rw [fields, Fields.build_seq, Fields.build_map, nextConditions, nextVersion]
    rfl
  exact Fields.readMembers_mergeMembers fields_sound status.nodup_encode checked next

variable {old : Option Json} {after : Option ConfigStatus}

/-- A status that goes on from the one that was read is read after it was patched. -/
theorem read_patched (reads : decoder.nullable.read form (old.getD .null) = .ok before)
    (continues : Continues before after)
    (readable : ∀ condition ∈ (after.getD {}).conditions, condition.Readable) :
    decoder.nullable.read form
      ((Json.patched old (some ((after.map encode).getD .null))).getD .null) = .ok after := by
  cases after with
  | none => rfl
  | some status =>
    change some <$> decoder.read form ((old.getD .null).merge status.encode) = _
    rw [read_merge reads continues readable]
    rfl

/-- The unknown members of a status stay when it is patched. -/
theorem member?_patched_of_ne {name : String} (notConditions : name ≠ "conditions")
    (notVersion : name ≠ "version")
    (reads : decoder.nullable.read form (old.getD .null) = .ok before)
    (continues : Continues before after) :
    (Json.patched old (some ((after.map encode).getD .null))).bind (·.member? name) =
      old.bind (·.member? name) := by
  cases after with
  | none =>
    obtain rfl : before = none := continues.absent rfl
    cases old with
    | none => rfl
    | some doc =>
      cases doc with
      | null => rfl
      | _ =>
        obtain ⟨_, -, ⟨⟩⟩ := map_eq_ok reads
  | some status =>
    change ((old.getD .null).merge status.encode).member? name = _
    rw [member?_merge_of_ne notConditions notVersion]
    cases old <;> rfl

end ConfigStatus

/-! ## Metadata -/

namespace ObjectMeta

variable {metadata : ObjectMeta} {version : String} {doc : Json} {form : Form}
  {members : List (String × Json)}

theorem fields_sound : fields.Sound :=
  ((((((((((((((Fields.Sound.map _ .ofField).seq .ofField).seq .ofField).seq .ofField).seq
    .ofField).seq .ofField).seq .ofField).seq .ofField).seq .ofField).seq .ofField).seq
    .ofField).seq .ofField).seq .ofField).seq .ofField).seq .ofField

/-- Metadata depend on nothing but what is found under each name. -/
theorem build_congr {others : List (String × Json)}
    (same : ∀ name, Json.lookup name members = Json.lookup name others) :
    fields.build form members = fields.build form others := by
  simp only [fields, Fields.build_seq, Fields.build_map, Fields.optional, Fields.build_ofField,
    same]

/-- The version that was read stands in the document. Two fields are read behind the version, and
eleven between the first one and it. -/
theorem lookup_version (built : fields.build form members = .ok metadata)
    (read : metadata.resourceVersion = some version) :
    Json.lookup "resourceVersion" members = some (.str version) := by
  simp only [fields, Fields.build_seq, Fields.build_map] at built
  obtain ⟨_, uid, beforeUid, -, rfl⟩ := seq_eq_ok built
  obtain ⟨_, selfLink, beforeLink, -, rfl⟩ := seq_eq_ok beforeUid
  obtain ⟨_, found, earlier, readVersion, rfl⟩ := seq_eq_ok beforeLink
  clear built beforeUid beforeLink
  iterate 11
    obtain ⟨_, _, evenEarlier, -, rfl⟩ := seq_eq_ok earlier
    clear earlier
    rename' evenEarlier => earlier
  obtain ⟨_, -, rfl⟩ := map_eq_ok earlier
  obtain rfl : found = some version := read
  rw [Fields.optional, Fields.build_ofField] at readVersion
  split at readVersion
  · rename_i doc there
    rw [there, Decoder.eq_str_of_read_nullable readVersion]
  · cases readVersion

/-- Merging the version that was read changes nothing. -/
theorem merge_version (reads : decoder.read form doc = .ok metadata)
    (read : metadata.resourceVersion = some version) :
    (∀ name, (doc.merge (.obj [("resourceVersion", .str version)])).member? name =
      doc.member? name) ∧
      decoder.read form (doc.merge (.obj [("resourceVersion", .str version)])) = .ok metadata := by
  cases doc with
  | obj members =>
    obtain ⟨checked, built⟩ := Fields.readMembers_eq_ok_iff.mp reads
    have distinct : ([("resourceVersion", Json.str version)].map (·.1)).Nodup :=
      List.nodup_singleton _
    have same (name : String) :
        Json.lookup name (Json.mergeMembers members [("resourceVersion", .str version)]) =
          Json.lookup name members := by
      rw [Json.lookup_mergeMembers distinct, Json.lookup_cons]
      split
      · rename_i named
        rw [← named, lookup_version built read]
        rfl
      · rfl
    rw [← build_congr same] at built
    exact ⟨same, Fields.readMembers_mergeMembers fields_sound distinct checked built⟩
  | _ => cases reads

/-- Metadata are what they were after the version that was read was merged, if there is one. -/
theorem read_patched (reads : decoder.read form doc = .ok metadata) :
    ∃ next, Json.patched (some doc) (metadata.resourceVersion.map fun version =>
        .obj [("resourceVersion", .str version)]) = some next ∧
      decoder.read form next = .ok metadata ∧ ∀ name, next.member? name = doc.member? name := by
  cases read : metadata.resourceVersion with
  | none => exact ⟨doc, rfl, reads, fun _ => rfl⟩
  | some version =>
    obtain ⟨same, readsNext⟩ := merge_version reads read
    exact ⟨_, rfl, readsNext, same⟩

end ObjectMeta

/-! ## Configurations -/

namespace Config

variable {config kept : Config} {members : List (String × Json)} {form : Form}

theorem fields_sound : fields.Sound :=
  ((Fields.Sound.map _ .ofField).seq .ofField).seq .ofField

theorem nodup_statusPatch (config : Config) : (config.statusPatch.members.map (·.1)).Nodup := by
  have names : ["metadata", "status"].Nodup := by decide
  refine List.Sublist.nodup ?_ names
  rw [statusPatch, Json.members, List.map_append]
  exact (Json.names_optional_sublist _ _).append (.refl _)

theorem lookup_statusPatch (config : Config) (name : String) :
    Json.lookup name config.statusPatch.members =
      if "metadata" = name then
        config.resourceVersion.map fun version => .obj [("resourceVersion", .str version)]
      else if "status" = name then some ((config.status.map ConfigStatus.encode).getD .null)
      else none := by
  rw [statusPatch, Json.members, Json.lookup_append, Json.lookup_optional, Json.lookup_cons,
    Json.lookup_nil]
  by_cases metadata : "metadata" = name
  · subst metadata
    simp
  · simp [metadata]

theorem merge_statusPatch (members : List (String × Json)) (config : Config) :
    (Json.obj members).merge config.statusPatch =
      .obj (Json.mergeMembers members config.statusPatch.members) := by
  rw [statusPatch, Json.merge]
  rfl

/-- A document was patched: it is read as the configuration whose status was written, and has kept
what is not written. -/
structure Reproduced (held : Json) (kept : Config) (merged : Json) : Prop where
  reads : decoder.decode merged = .ok kept
  /-- The specification is as it was held, and so is all that is unknown. -/
  others : ∀ name, name ≠ "metadata" → name ≠ "status" → merged.member? name = held.member? name
  metadata : ∀ name, (merged.member? "metadata").bind (·.member? name) =
    (held.member? "metadata").bind (·.member? name)
  /-- Unknown members of the status are kept. -/
  unknown : ∀ name, name ≠ "conditions" → name ≠ "version" →
    (merged.member? "status").bind (·.member? name) =
      (held.member? "status").bind (·.member? name)

/-- A configuration that goes on from the one that was read takes its place when it is patched. -/
theorem Continues.reproduced (reads : decoder.decode (.obj members) = .ok config)
    (continues : config.Continues kept)
    (readable : ∀ condition ∈ kept.conditions, condition.Readable) :
    Reproduced (.obj members) kept ((Json.obj members).merge kept.statusPatch) := by
  obtain ⟨checked, built⟩ := Fields.readMembers_eq_ok_iff.mp reads
  rw [fields, Fields.build_seq, Fields.build_seq, Fields.build_map] at built
  obtain ⟨_, status, builtSpec, readStatus, rfl⟩ := seq_eq_ok built
  obtain ⟨_, spec, builtMetadata, readSpec, rfl⟩ := seq_eq_ok builtSpec
  obtain ⟨metadata, readMetadata, rfl⟩ := map_eq_ok builtMetadata
  obtain ⟨doc, found, readMetadata⟩ := Fields.build_required_eq_ok_iff.mp readMetadata
  rw [Fields.build_optional_eq] at readStatus
  obtain ⟨next, patched, readNext, same⟩ := ObjectMeta.read_patched readMetadata
  obtain ⟨keptMetadata, keptSpec, after⟩ := kept
  obtain rfl : keptMetadata = metadata := continues.metadata
  obtain rfl : keptSpec = spec := continues.spec
  let kept : Config := ⟨keptMetadata, keptSpec, after⟩
  let merged := Json.mergeMembers members kept.statusPatch.members
  have metadataNow : Json.lookup "metadata" merged = some next := by
    rw [Json.lookup_mergeMembers kept.nodup_statusPatch, lookup_statusPatch, if_pos rfl, found]
    exact patched
  have statusNow : Json.lookup "status" merged = Json.patched (Json.lookup "status" members)
      (some ((after.map ConfigStatus.encode).getD .null)) := by
    rw [Json.lookup_mergeMembers kept.nodup_statusPatch, lookup_statusPatch, if_neg (by decide),
      if_pos rfl]
  have othersNow (name : String) (notMetadata : name ≠ "metadata") (notStatus : name ≠ "status") :
      Json.lookup name merged = Json.lookup name members := by
    rw [Json.lookup_mergeMembers kept.nodup_statusPatch, lookup_statusPatch,
      if_neg notMetadata.symm, if_neg notStatus.symm]
    rfl
  have builtNow : fields.build .document merged = .ok kept := by
    have metadataBuilt := Fields.build_required_eq_ok_iff.mpr ⟨next, metadataNow, readNext⟩
    have specBuilt : (Fields.required "spec" ConfigSpec.decoder).build .document merged =
        .ok keptSpec := by
      rw [Fields.required, Fields.build_ofField, othersNow "spec" (by decide) (by decide)]
      exact readSpec
    rw [fields, Fields.build_seq, Fields.build_seq, Fields.build_map, Fields.build_optional_eq,
      metadataBuilt, specBuilt, statusNow,
      ConfigStatus.read_patched readStatus continues.status readable]
    rfl
  rw [merge_statusPatch]
  refine ⟨?_, othersNow, fun name => ?_, fun name notConditions notVersion => ?_⟩
  · exact Fields.readMembers_mergeMembers fields_sound kept.nodup_statusPatch checked builtNow
  · change (Json.lookup "metadata" merged).bind (·.member? name) =
      (Json.lookup "metadata" members).bind (·.member? name)
    rw [metadataNow, found]
    exact same name
  · change (Json.lookup "status" merged).bind (·.member? name) =
      (Json.lookup "status" members).bind (·.member? name)
    rw [statusNow]
    exact ConfigStatus.member?_patched_of_ne notConditions notVersion readStatus continues.status

/-- However a configuration that was read is changed in memory, patching its document with the
status gives a document that is read as the changed configuration: it has the conditions in their
order, with their statuses, messages and times, and the version, whatever of this is empty, and has
the specification and the metadata that were held. The patch names the version at which the
configuration was read, if it has one. -/
theorem statusPatch_reproduces (reads : decoder.decode (.obj members) = .ok config)
    (changes : List (Instant × StatusChange))
    (readable : ∀ condition ∈ (config.changed changes).conditions, condition.Readable) :
    let kept := config.changed changes
    Reproduced (.obj members) kept ((Json.obj members).merge kept.statusPatch) ∧
      kept.metadata = config.metadata ∧ kept.spec = config.spec ∧
      kept.statusPatch.version? = config.resourceVersion.map .str := by
  intro kept
  have continues := config.continues_changed changes
  refine ⟨continues.reproduced reads readable, continues.metadata, continues.spec, ?_⟩
  rw [Server.version?_statusPatch, resourceVersion, continues.metadata]
  rfl

/-- An error that was on record is cleared, and so its message is gone from the document; an unknown
member of the status stays. -/
theorem statusPatch_reproduces_cleared_message :
    let condition (message : List (String × Json)) (status transition : String) : Json :=
      .obj ([("lastTransitionTime", .str transition),
        ("lastUpdateTime", .str "2023-11-14T22:13:20.500Z")] ++ message ++
        [("status", .str status), ("type", .str "ImportCredentialsExist")])
    let held (status : Json) : Json :=
      .obj [("kind", .str "Config"),
        ("metadata", .obj [("name", .str "cluster"), ("resourceVersion", .str "7")]),
        ("spec", .obj [("managementState", .str "Managed")]), ("status", status)]
    let before : Json :=
      .obj [("conditions", .arr [condition [("message", .str "denied")] "Unknown"
        "2020-01-01T00:00:00Z"]), ("observed", .bool true), ("version", .str "4.1.0")]
    let after : Json :=
      .obj [("conditions", .arr [condition [] "True" "2023-11-14T22:13:20.500Z"]),
        ("observed", .bool true), ("version", .str "4.1.0")]
    let config : Config :=
      { metadata := { name := some "cluster", resourceVersion := some "7" }
        spec := {}
        status := some {
          conditions := [⟨credentialType, .unknown, some ⟨1700000000, 500000000⟩,
            some ⟨1577836800, 0⟩, "denied"⟩]
          version := some "4.1.0" } }
    let changes : List (Instant × StatusChange) :=
      [(⟨1600000000, 0⟩, .reportError credentialType .unknown "denied"),
        (⟨1700000000, 500000000⟩, .settle credentialType .holds), (⟨1700000001, 0⟩, .gate)]
    decoder.decode (held before) = .ok config ∧
      (∀ condition ∈ (config.changed changes).conditions, condition.Readable) ∧
      Reproduced (held before) (config.changed changes)
        ((held before).merge (config.changed changes).statusPatch) ∧
      (held before).merge (config.changed changes).statusPatch = held after := by
  intro condition held before after config changes
  have reads : decoder.decode (held before) = .ok config := rfl
  have readable : ∀ condition ∈ (config.changed changes).conditions, condition.Readable := by
    intro condition known
    obtain rfl := List.mem_singleton.mp known
    exact ⟨by rintro time ⟨⟩; rfl, by rintro time ⟨⟩; rfl⟩
  exact ⟨reads, readable, (statusPatch_reproduces reads changes readable).1, rfl⟩

end Config

end PullSecretSync
