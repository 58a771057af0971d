import PullSecretSync.Config.Codec
import PullSecretSync.Config.Condition
import PullSecretSync.Json.Merge

/-!
# Patching a status

A merge patch leaves the members of a document that it does not name, but a list it replaces as a
whole. A status that is patched is therefore read with the conditions that were written, whatever
conditions it had before; only their times may be read as others than those that were written.
-/

namespace PullSecretSync

namespace Json

section Lookup

variable {α : Type} {name other : String} {value : α} {members rest : List (String × α)}

theorem lookup_append : lookup name (members ++ rest) =
    (lookup name members).or (lookup name rest) := by
  simp only [lookup, List.find?_append]
  cases members.find? fun member => member.1 == name <;> rfl

@[simp] theorem lookup_insertMember_self :
    lookup name (insertMember name value members) = some value := by
  induction members with
  | nil => simp [insertMember, lookup_cons]
  | cons head members ih =>
    obtain ⟨first, old⟩ := head
    rw [insertMember]
    split
    · simp [lookup_cons]
    · split
      · simp [lookup_cons]
      · rename_i distinct
        simp [lookup_cons, Ne.symm distinct, ih]

/-- A member that is put in place leaves the members of other names alone. -/
theorem lookup_insertMember_of_ne (distinct : other ≠ name) :
    lookup other (insertMember name value members) = lookup other members := by
  induction members with
  | nil => simp [insertMember, lookup_cons, distinct.symm]
  | cons head members ih =>
    obtain ⟨first, old⟩ := head
    rw [insertMember]
    split
    · simp [lookup_cons, distinct.symm]
    · split
      · rename_i same
        simp [lookup_cons, ← same, distinct.symm]
      · simp [lookup_cons, ih]

end Lookup

/-- An optional member is found under its name alone. -/
theorem lookup_optional {name other : String} {value : Option Json} :
    lookup other (optional name value) = if name = other then value else none := by
  cases value <;> simp [optional, lookup_cons, lookup_nil]

end Json

section Results

variable {ε α β : Type}

/-- Both parts of an application succeeded if it did. -/
theorem seq_eq_ok {f : Except ε (α → β)} {x : Except ε α} {result : β}
    (h : f <*> x = .ok result) : ∃ g a, f = .ok g ∧ x = .ok a ∧ g a = result := by
  cases f with
  | error => cases h
  | ok g =>
    cases x with
    | error => cases h
    | ok a => exact ⟨g, a, rfl, rfl, Except.ok.inj h⟩

theorem map_eq_ok {f : α → β} {x : Except ε α} {result : β}
    (h : f <$> x = .ok result) : ∃ a, x = .ok a ∧ f a = result := by
  cases x with
  | error => cases h
  | ok a => exact ⟨a, rfl, Except.ok.inj h⟩

/-- Both steps of a computation succeed if and only if it does. -/
theorem bind_eq_ok_iff {x : Except ε α} {f : α → Except ε β} {result : β} :
    x >>= f = .ok result ↔ ∃ a, x = .ok a ∧ f a = .ok result := by
  cases x <;> simp [bind, Except.bind]

/-- Items that are read one by one keep what each of them keeps. -/
private theorem map_eq_of_mapM_eq_ok {γ : Type} {read : β → Except ε α} {encode : α → β}
    {gist : α → γ} (keeps : ∀ value found, read (encode value) = .ok found →
      gist found = gist value) {values found : List α}
    (reads : (values.map encode).mapM read = .ok found) : found.map gist = values.map gist := by
  induction values generalizing found with
  | nil =>
    obtain rfl := Except.ok.inj reads
    rfl
  | cons value values ih =>
    rw [List.map_cons, List.mapM_cons] at reads
    cases first : read (encode value) with
    | error => simp [first, bind, Except.bind] at reads
    | ok head =>
      cases later : (values.map encode).mapM read with
      | error => simp [first, later, bind, Except.bind] at reads
      | ok tail =>
        simp only [first, later, bind, Except.bind, pure, Except.pure, Except.ok.injEq] at reads
        subst reads
        rw [List.map_cons, List.map_cons, keeps value head first, ih later]

end Results

namespace Fields

variable {α β : Type} {form : Form} {members : List (String × Json)}

@[simp] theorem build_map (f : α → β) (x : Fields α) :
    (f <$> x).build form members = f <$> x.build form members := by
  change (pure f <*> x).build form members = _
  rw [build_seq, build_pure]
  cases x.build form members <;> rfl

theorem build_ofField {name : String} {decoder : Decoder α} {required defaulted : Bool}
    {missing : Except DecodeError α} :
    (ofField name decoder required defaulted missing).build form members =
      match Json.lookup name members with
      | some doc => decoder.read form doc
      | none => missing := rfl

/-- A record that is read from an object is built from its members. -/
theorem build_of_read {fields : Fields α} {expected : String} {value : α}
    (reads : (Decoder.record expected fields).read form (.obj members) = .ok value) :
    fields.build form members = .ok value := by
  simp only [Decoder.record, readMembers, bind, Except.bind] at reads
  split at reads
  · cases reads
  · exact reads

end Fields

/-! ## Conditions -/

theorem ConditionStatus.eq_of_read {status read : ConditionStatus} {form : Form}
    (reads : decoder.read form status.encode = .ok read) : read = status := by
  cases status <;> exact (Except.ok.inj reads).symm

namespace Condition

/-- What a condition says, apart from its times. -/
def gist (condition : Condition) : String × ConditionStatus × String :=
  (condition.type, condition.status, condition.message)

theorem gist_eq_iff {condition other : Condition} : condition.gist = other.gist ↔
    condition.type = other.type ∧ condition.status = other.status ∧
      condition.message = other.message := by
  simp [gist]

/-- The document of a condition says what the condition does. -/
theorem gist_of_read {condition read : Condition} {form : Form}
    (reads : decoder.read form condition.encode = .ok read) : read.gist = condition.gist := by
  have built := Fields.build_of_read reads
  simp only [fields, Fields.build_seq, Fields.build_map] at built
  obtain ⟨_, message, built₄, readMessage, rfl⟩ := seq_eq_ok built
  obtain ⟨_, transition, built₃, -, rfl⟩ := seq_eq_ok built₄
  obtain ⟨_, update, built₂, -, rfl⟩ := seq_eq_ok built₃
  obtain ⟨_, status, built₁, readStatus, rfl⟩ := seq_eq_ok built₂
  obtain ⟨type, readType, rfl⟩ := map_eq_ok built₁
  simp only [Fields.required, Fields.defaulted, Fields.build_ofField, Json.lookup_append,
    Json.lookup_optional, Json.lookup_cons, Json.lookup_nil, String.reduceEq, if_true, if_false,
    Option.none_or, Option.or_none] at readType readStatus readMessage
  have sameType : type = condition.type := (Except.ok.inj readType).symm
  have sameStatus : status = condition.status := ConditionStatus.eq_of_read readStatus
  have sameMessage : message = condition.message := by
    split at readMessage
    · rename_i empty
      split at empty
      · cases empty
      · obtain rfl := Option.some.inj empty
        exact (Except.ok.inj readMessage).symm
    · rename_i empty
      split at empty
      · rename_i blank
        rw [blank]
        exact (Except.ok.inj readMessage).symm
      · cases empty
  rw [gist, gist, sameType, sameStatus, sameMessage]

end Condition

/-! ## Statuses -/

namespace ConfigStatus

variable {status : ConfigStatus}

/-- A patch with conditions puts them in place of those that were there. -/
theorem lookup_merge (doc : Json) (told : status.conditions ≠ []) :
    ∃ members, doc.merge status.encode = .obj members ∧
      Json.lookup "conditions" members =
        some (Json.ofList Condition.encode status.conditions) := by
  have full : status.conditions.isEmpty = false := by simpa using told
  rw [encode, full]
  simp only [Json.optional, Json.ofList, Json.merge]
  refine ⟨_, rfl, ?_⟩
  cases status.version with
  | none => simp [Json.mergeMembers, Json.merge]
  | some version =>
    simp [Json.mergeMembers, Json.merge, Json.lookup_insertMember_of_ne]

/-- A status that was patched with conditions is read with what they say. -/
theorem gist_of_read_merge {doc : Json} {read : Option ConfigStatus} (told : status.conditions ≠ [])
    (reads : decoder.nullable.decode (doc.merge status.encode) = .ok read) :
    (read.getD {}).conditions.map Condition.gist = status.conditions.map Condition.gist := by
  obtain ⟨members, merged, found⟩ := lookup_merge doc told
  rw [merged] at reads
  obtain ⟨value, readObject, rfl⟩ := map_eq_ok reads
  have built := Fields.build_of_read readObject
  simp only [fields, Fields.build_seq, Fields.build_map] at built
  obtain ⟨_, version, built₁, -, rfl⟩ := seq_eq_ok built
  obtain ⟨conditions, readConditions, rfl⟩ := map_eq_ok built₁
  simp only [Fields.defaulted, Fields.build_ofField, found] at readConditions
  exact map_eq_of_mapM_eq_ok (fun _ _ => Condition.gist_of_read) readConditions

end ConfigStatus

namespace Config

/-- Configurations whose conditions say the same have conditions of each type that say the
same. -/
theorem gist_condition {config other : Config} (type : String)
    (same : config.conditions.map Condition.gist = other.conditions.map Condition.gist) :
    (config.condition type).gist = (other.condition type).gist := by
  have first (conditions : List Condition) :
      ((conditions.find? (·.type = type)).getD (.unset type)).gist =
        ((conditions.map Condition.gist).find? (·.1 = type)).getD (Condition.unset type).gist := by
    rw [List.find?_map]
    exact (Option.getD_map ..).symm
  rw [condition, condition, first, first, same]

end Config

end PullSecretSync
