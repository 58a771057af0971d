import PullSecretSync.Proofs.Tracking

/-!
# Conditions over a history of updates

A configuration is updated any number of times, at any times, in conditions of any types. What is
known of the first condition of a type is then told by the updates of that type: its status and its
message are those of the last one, and its times are those of the last one that set it and of the
last one that moved it. Nothing else changes: conditions of other types and later ones of the same
type stay where they are as they are, new ones come in at the end, and the rest of the configuration
stays. A report that repeats what is on record counts as an update, although it changes nothing.
-/

namespace PullSecretSync

/-! ## Updates -/

/-- An update of the condition of a type. -/
inductive ConditionUpdate where
  | set (type : String) (status : ConditionStatus) (message : String)
  | settle (type : String) (status : ConditionStatus)
  | report (type : String) (status : ConditionStatus) (message : String)

namespace ConditionUpdate

/-- The type of the condition that is updated. -/
def type : ConditionUpdate → String
  | .set type _ _ => type
  | .settle type _ => type
  | .report type _ _ => type

/-- The status that the condition gets. -/
def status : ConditionUpdate → ConditionStatus
  | .set _ status _ => status
  | .settle _ status => status
  | .report _ status _ => status

/-- The message that the condition gets; none after a success. -/
def message : ConditionUpdate → String
  | .set _ _ message => message
  | .settle _ _ => ""
  | .report _ _ message => message

/-- Whether the update is the report of an error. -/
def isReport : ConditionUpdate → Bool
  | .report _ _ _ => true
  | _ => false

end ConditionUpdate

/-- The configuration after an update. -/
def Config.update (config : Config) (now : Instant) : ConditionUpdate → Config
  | .set type status message => config.setCondition now type status message
  | .settle type status => config.settle now type status
  | .report type status message => config.reportError now type status message

/-- The configuration after some updates, each at its time. -/
def Config.updated (config : Config) (history : List (Instant × ConditionUpdate)) : Config :=
  history.foldl (fun config entry => config.update entry.1 entry.2) config

/-- An update at its time, with the configuration that it is made in. -/
structure Edit where
  before : Config
  time : Instant
  update : ConditionUpdate

namespace Edit

/-- The configuration after the edit. -/
def after (edit : Edit) : Config := edit.before.update edit.time edit.update

/-- What is on record about the type of the update when it is made. -/
def current (edit : Edit) : Condition := edit.before.condition edit.update.type

/-- A condition of the type is there when the update is made. -/
def Finds (edit : Edit) : Prop :=
  edit.update.type ∈ edit.before.conditions.map (·.type)

/-- The update reports the status and the message that are on record. -/
def Repeats (edit : Edit) : Prop :=
  edit.update.isReport = true ∧ edit.current.status = edit.update.status ∧
    edit.current.message = edit.update.message

/-- The update adds a condition. -/
def Inserts (edit : Edit) : Prop := ¬ edit.Finds ∧ ¬ edit.Repeats

/-- The update adds a condition or changes the status of the one that is there. -/
def Moves (edit : Edit) : Prop :=
  edit.Inserts ∨ edit.Finds ∧ edit.current.status ≠ edit.update.status

instance (edit : Edit) : Decidable edit.Finds := inferInstanceAs (Decidable (_ ∈ _))

instance (edit : Edit) : Decidable edit.Repeats := inferInstanceAs (Decidable (_ ∧ _))

instance (edit : Edit) : Decidable edit.Inserts := inferInstanceAs (Decidable (_ ∧ _))

end Edit

/-- The edits that some updates make, one after the other. -/
def Config.edits (config : Config) : List (Instant × ConditionUpdate) → List Edit
  | [] => []
  | (now, update) :: rest => ⟨config, now, update⟩ :: (config.update now update).edits rest

/-! ## Conditions in a list -/

namespace Condition

variable {now later : Instant} {type other : String} {status next : ConditionStatus}
  {message text : String} {conditions : List Condition} {condition : Condition} {place : Nat}

/-- The types stay in their order; one that was missing comes in at the end. -/
theorem types_setIn : (setIn now type status message conditions).map (·.type) =
    conditions.map (·.type) ++ if type ∈ conditions.map (·.type) then [] else [type] := by
  induction conditions with
  | nil => simp [setIn]
  | cons condition rest ih =>
    rw [setIn]
    by_cases same : condition.type = type
    · simp [same, renew]
    · simp [same, ih, Ne.symm same]

/-- A condition stays where it is as it is, unless it is the first of the type that is set. -/
theorem getElem?_setIn (found : conditions[place]? = some condition)
    (apart : condition.type = type → type ∈ (conditions.take place).map (·.type)) :
    (setIn now type status message conditions)[place]? = some condition := by
  induction conditions generalizing place with
  | nil => simp at found
  | cons first rest ih =>
    rw [setIn]
    cases place with
    | zero =>
      obtain rfl := Option.some.inj found
      have different : first.type ≠ type := fun same => by simpa using apart same
      rw [if_neg different]
      rfl
    | succ place =>
      split
      · exact found
      · rename_i different
        refine ih found fun same => ?_
        have earlier := apart same
        rw [List.take_succ_cons, List.map_cons, List.mem_cons] at earlier
        exact earlier.resolve_left fun equal => different equal.symm

/-- Conditions of two types may be set in any order, unless both are missing. -/
theorem setIn_comm (apart : type ≠ other)
    (present : type ∈ conditions.map (·.type) ∨ other ∈ conditions.map (·.type)) :
    setIn later other next text (setIn now type status message conditions) =
      setIn now type status message (setIn later other next text conditions) := by
  induction conditions with
  | nil => simp at present
  | cons condition rest ih =>
    by_cases first : condition.type = type
    · simp [setIn, first, renew, apart]
    · by_cases second : condition.type = other
      · simp [setIn, second, renew, apart.symm]
      · simp only [List.map_cons, List.mem_cons, Ne.symm first, Ne.symm second, false_or] at present
        simp [setIn, first, second, ih present]

end Condition

namespace Config

variable {config : Config} {now : Instant} {type other : String} {status : ConditionStatus}
  {message : String}

/-- The first condition of a type is set again; where there is none it is added. -/
theorem condition_setCondition_self : (config.setCondition now type status message).condition type =
    if type ∈ config.conditions.map (·.type) then
      (config.condition type).renew now status message
    else ⟨type, status, some now, some now, message⟩ := by
  have set : (config.setCondition now type status message).conditions =
      Condition.setIn now type status message config.conditions := rfl
  rw [condition, set, Condition.find?_setIn_self, condition]
  split
  · rename_i found first
    have there := List.mem_map_of_mem (f := (·.type)) (List.mem_of_find?_eq_some first)
    have same : found.type = type := by simpa using List.find?_some first
    rw [if_pos (same ▸ there), first]
    rfl
  · rename_i absent
    have missing : type ∉ config.conditions.map (·.type) := by
      simpa [List.mem_map] using List.find?_eq_none.mp absent
    rw [if_neg missing]
    rfl

/-- The first condition of another type is the same. -/
theorem condition_setCondition_of_ne (apart : other ≠ type) :
    (config.setCondition now type status message).condition other = config.condition other := by
  have set : (config.setCondition now type status message).conditions =
      Condition.setIn now type status message config.conditions := rfl
  rw [condition, set, Condition.find?_setIn_of_ne apart, condition]

/-- Conditions of two types may be set in any order, unless both are missing. -/
theorem setCondition_comm {later : Instant} {next : ConditionStatus} {text : String}
    (apart : type ≠ other) (present : type ∈ config.conditions.map (·.type) ∨
      other ∈ config.conditions.map (·.type)) :
    (config.setCondition now type status message).setCondition later other next text =
      (config.setCondition later other next text).setCondition now type status message := by
  rw [conditions] at present
  simp only [setCondition, Option.getD_some]
  rw [Condition.setIn_comm apart present]

end Config

/-! ## Single edits -/

namespace Edit

variable {edit : Edit} {type : String}

/-- What repeats what is on record changes nothing. -/
theorem after_of_repeats (repeats : edit.Repeats) : edit.after = edit.before := by
  obtain ⟨before, time, update⟩ := edit
  cases update with
  | report type status message => exact if_pos repeats.2
  | _ => cases repeats.1

theorem after_of_not_repeats (news : ¬ edit.Repeats) :
    edit.after = edit.before.setCondition edit.time edit.update.type edit.update.status
      edit.update.message := by
  obtain ⟨before, time, update⟩ := edit
  cases update with
  | report type status message => exact if_neg fun same => news ⟨rfl, same⟩
  | _ => rfl

/-- What an edit does with the condition of its type: it repeats it, sets it again or adds it. -/
theorem after_cases (edit : Edit) :
    edit.Repeats ∧ edit.after = edit.before ∨
      ¬ edit.Repeats ∧ edit.Finds ∧ edit.after.condition edit.update.type =
        edit.current.renew edit.time edit.update.status edit.update.message ∨
      ¬ edit.Repeats ∧ ¬ edit.Finds ∧ edit.after.condition edit.update.type =
        ⟨edit.update.type, edit.update.status, some edit.time, some edit.time,
          edit.update.message⟩ := by
  by_cases repeats : edit.Repeats
  · exact .inl ⟨repeats, after_of_repeats repeats⟩
  · rw [after_of_not_repeats repeats, Config.condition_setCondition_self]
    by_cases finds : edit.Finds
    · exact .inr (.inl ⟨repeats, finds, if_pos finds⟩)
    · exact .inr (.inr ⟨repeats, finds, if_neg finds⟩)

/-- Conditions of other types are the same. -/
theorem condition_after_of_ne (apart : edit.update.type ≠ type) :
    edit.after.condition type = edit.before.condition type := by
  by_cases repeats : edit.Repeats
  · rw [after_of_repeats repeats]
  · rw [after_of_not_repeats repeats, Config.condition_setCondition_of_ne apart.symm]

/-- The types stay in their order; one comes in at the end if it is added. -/
theorem types_after (edit : Edit) : edit.after.conditions.map (·.type) =
    edit.before.conditions.map (·.type) ++ if edit.Inserts then [edit.update.type] else [] := by
  by_cases repeats : edit.Repeats
  · rw [after_of_repeats repeats, if_neg fun inserts => inserts.2 repeats, List.append_nil]
  · have set : edit.after.conditions = Condition.setIn edit.time edit.update.type
        edit.update.status edit.update.message edit.before.conditions := by
      rw [after_of_not_repeats repeats]
      rfl
    rw [set, Condition.types_setIn]
    by_cases finds : edit.update.type ∈ edit.before.conditions.map (·.type)
    · rw [if_pos finds, if_neg fun inserts => inserts.1 finds]
    · rw [if_neg finds, if_pos ⟨finds, repeats⟩]

/-- A condition stays where it is as it is, unless it is the first of the type and gets news. -/
theorem getElem?_conditions_after {place : Nat} {condition : Condition}
    (found : edit.before.conditions[place]? = some condition)
    (apart : edit.update.type = condition.type →
      condition.type ∈ (edit.before.conditions.take place).map (·.type) ∨ edit.Repeats) :
    edit.after.conditions[place]? = some condition := by
  by_cases repeats : edit.Repeats
  · rwa [after_of_repeats repeats]
  · rw [after_of_not_repeats repeats]
    exact Condition.getElem?_setIn found fun same =>
      same ▸ (apart same.symm).resolve_right repeats

/-- Nothing but the conditions changes. -/
theorem rest_after (edit : Edit) : edit.after.spec = edit.before.spec ∧
    edit.after.metadata = edit.before.metadata ∧
    edit.after.status.bind (·.version) = edit.before.status.bind (·.version) := by
  by_cases repeats : edit.Repeats
  · rw [after_of_repeats repeats]
    exact ⟨rfl, rfl, rfl⟩
  · rw [after_of_not_repeats repeats]
    refine ⟨rfl, rfl, ?_⟩
    rw [Config.setCondition]
    cases edit.before.status <;> rfl

end Edit

/-! ## Whole histories -/

/-- The last of some edits that is of a kind. -/
def LastOf (kind : Edit → Prop) (edits : List Edit) (edit : Edit) : Prop :=
  ∃ earlier later, edits = earlier ++ edit :: later ∧ kind edit ∧ ∀ other ∈ later, ¬ kind other

section History

variable {α : Type} {kind : Edit → Prop} {write : Edit → α} {view : Config → α}

/-- What is seen of a configuration after a history was written by the last edit of a kind, and it
is what was seen before if there was none. -/
structure Written (config : Config) (history : List (Instant × ConditionUpdate))
    (kind : Edit → Prop) (write : Edit → α) (view : Config → α) : Prop where
  last : ∀ edit, LastOf kind (config.edits history) edit →
    view (config.updated history) = write edit
  none : (∀ edit ∈ config.edits history, ¬ kind edit) →
    view (config.updated history) = view config

/-- Edits of a kind write what is seen if each of them does and no other edit changes it. -/
theorem written_of_step (writes : ∀ edit, kind edit → view edit.after = write edit)
    (keeps : ∀ edit, ¬ kind edit → view edit.after = view edit.before) (config : Config)
    (history : List (Instant × ConditionUpdate)) : Written config history kind write view := by
  induction history generalizing config with
  | nil =>
    refine ⟨?_, fun _ => rfl⟩
    rintro edit ⟨earlier, later, split, -⟩
    cases earlier <;> cases split
  | cons entry rest ih =>
    have later := ih (config.update entry.1 entry.2)
    refine ⟨?_, fun others => ?_⟩
    · rintro edit ⟨earlier, after, split, known, others⟩
      cases earlier with
      | nil =>
        obtain ⟨rfl, rfl⟩ := List.cons.inj split
        exact (later.none others).trans (writes _ known)
      | cons first earlier =>
        exact later.last edit ⟨earlier, after, (List.cons.inj split).2, known, others⟩
    · obtain ⟨first, others⟩ := List.forall_mem_cons.mp others
      exact (later.none others).trans (keeps _ first)

variable (type : String) (config : Config) (history : List (Instant × ConditionUpdate))

/-- The last update of a type writes what a condition shows if setting one and adding one do, and if
a repeated report has what is shown. -/
theorem written_of_update {write : ConditionUpdate → α} {view : Condition → α}
    (repeated : ∀ edit : Edit, edit.Repeats → view edit.current = write edit.update)
    (renewed : ∀ (condition : Condition) (now : Instant) (update : ConditionUpdate),
      view (condition.renew now update.status update.message) = write update)
    (added : ∀ (now : Instant) (update : ConditionUpdate),
      view ⟨update.type, update.status, some now, some now, update.message⟩ = write update) :
    Written config history (·.update.type = type) (write ·.update)
      (view <| ·.condition type) := by
  refine written_of_step ?_ (fun edit apart => ?_) config history
  · rintro edit rfl
    obtain ⟨repeats, same⟩ | ⟨-, -, set⟩ | ⟨-, -, set⟩ := edit.after_cases
    · rw [same]
      exact repeated edit repeats
    · rw [set]
      exact renewed edit.current edit.time edit.update
    · rw [set]
      exact added edit.time edit.update
  · rw [Edit.condition_after_of_ne apart]

/-- The status of a type is that of its last update. -/
theorem written_status : Written config history (·.update.type = type) (·.update.status)
    fun config => (config.condition type).status :=
  written_of_update type config history (fun _ repeats => repeats.2.1) (fun _ _ _ => rfl)
    fun _ _ => rfl

/-- The message of a type is that of its last update. -/
theorem written_message : Written config history (·.update.type = type) (·.update.message)
    fun config => (config.condition type).message :=
  written_of_update type config history (fun _ repeats => repeats.2.2) (fun _ _ _ => rfl)
    fun _ _ => rfl

/-- The update time of a type is that of its last update that does not repeat a report. -/
theorem written_lastUpdate :
    Written config history (fun edit => edit.update.type = type ∧ ¬ edit.Repeats)
      (some ·.time) fun config => (config.condition type).lastUpdate := by
  refine written_of_step ?_ (fun edit other => ?_) config history
  · rintro edit ⟨rfl, news⟩
    obtain ⟨repeats, -⟩ | ⟨-, -, set⟩ | ⟨-, -, set⟩ := edit.after_cases
    · exact absurd repeats news
    · rw [set]
      rfl
    · rw [set]
  · by_cases same : edit.update.type = type
    · rw [Edit.after_of_repeats (Decidable.byContradiction fun news => other ⟨same, news⟩)]
    · rw [Edit.condition_after_of_ne same]

/-- The transition time of a type is that of its last update that added it or changed its
status. -/
theorem written_lastTransition :
    Written config history (fun edit => edit.update.type = type ∧ edit.Moves)
      (some ·.time) fun config => (config.condition type).lastTransition := by
  refine written_of_step ?_ (fun edit other => ?_) config history
  · rintro edit ⟨rfl, moves⟩
    obtain ⟨repeats, -⟩ | ⟨-, finds, set⟩ | ⟨-, -, set⟩ := edit.after_cases
    · rcases moves with inserts | ⟨-, changes⟩
      · exact absurd repeats inserts.2
      · exact absurd repeats.2.1 changes
    · have changes : edit.current.status ≠ edit.update.status :=
        moves.elim (fun inserts => absurd finds inserts.1) And.right
      rw [set]
      exact if_neg changes
    · rw [set]
  · by_cases same : edit.update.type = type
    · subst same
      have rests : ¬ edit.Moves := fun moves => other ⟨rfl, moves⟩
      obtain ⟨-, same⟩ | ⟨-, finds, set⟩ | ⟨news, missing, -⟩ := edit.after_cases
      · rw [same]
      · have same : edit.current.status = edit.update.status :=
          Decidable.byContradiction fun changes => rests (.inr ⟨finds, changes⟩)
        rw [set]
        exact if_pos same
      · exact absurd (.inl ⟨missing, news⟩) rests
    · rw [Edit.condition_after_of_ne same]

end History

/-- The types that come in with a history, in the order in which they do. -/
def Config.inserted (config : Config) (history : List (Instant × ConditionUpdate)) : List String :=
  ((config.edits history).filter (·.Inserts)).map (·.update.type)

/-- What is known of a configuration after a history of updates. -/
structure Tracked (config : Config) (history : List (Instant × ConditionUpdate)) : Prop where
  /-- The status of each type is that of its last update. -/
  status : ∀ type, Written config history (·.update.type = type) (·.update.status)
    fun config => (config.condition type).status
  /-- The message of each type is that of its last update. -/
  message : ∀ type, Written config history (·.update.type = type) (·.update.message)
    fun config => (config.condition type).message
  /-- A repeating report, which counts as an update here, changes nothing. -/
  repeated : ∀ edit ∈ config.edits history, edit.Repeats → edit.after = edit.before
  lastTransition : ∀ type,
    Written config history (fun edit => edit.update.type = type ∧ edit.Moves) (some ·.time)
      fun config => (config.condition type).lastTransition
  lastUpdate : ∀ type,
    Written config history (fun edit => edit.update.type = type ∧ ¬ edit.Repeats) (some ·.time)
      fun config => (config.condition type).lastUpdate
  /-- The types that were there stay in their order, and the new ones follow. -/
  types : (config.updated history).conditions.map (·.type) =
    config.conditions.map (·.type) ++ config.inserted history
  /-- No type comes in twice. -/
  inserted_nodup : (config.inserted history).Nodup
  /-- A type comes in when it was not there and has an update that is no repeating report. -/
  mem_inserted : ∀ type, type ∈ config.inserted history ↔
    type ∉ config.conditions.map (·.type) ∧
      ∃ edit ∈ config.edits history, edit.update.type = type ∧ ¬ edit.Repeats
  /-- A condition stays where it is as it is, if there is an earlier one of its type or all updates
  of its type are repeating reports. -/
  kept : ∀ place condition, config.conditions[place]? = some condition →
    (condition.type ∈ (config.conditions.take place).map (·.type) ∨
      ∀ edit ∈ config.edits history, edit.update.type = condition.type → edit.Repeats) →
    (config.updated history).conditions[place]? = some condition
  /-- Two updates that follow may change places if their types differ and are there. -/
  commute : ∀ first second : Instant × ConditionUpdate, first.2.type ≠ second.2.type →
    first.2.type ∈ (config.updated history).conditions.map (·.type) →
    second.2.type ∈ (config.updated history).conditions.map (·.type) →
    config.updated (history ++ [first, second]) = config.updated (history ++ [second, first])
  spec : (config.updated history).spec = config.spec
  metadata : (config.updated history).metadata = config.metadata
  version : (config.updated history).status.bind (·.version) = config.status.bind (·.version)

namespace Config

variable (config : Config) (history : List (Instant × ConditionUpdate))

/-- What the first update brings in comes before what the later ones do. -/
theorem inserted_cons (edit : Edit) (rest : List (Instant × ConditionUpdate)) :
    edit.before.inserted ((edit.time, edit.update) :: rest) =
      (if edit.Inserts then [edit.update.type] else []) ++ edit.after.inserted rest := by
  have edits : edit.before.edits ((edit.time, edit.update) :: rest) =
      edit :: edit.after.edits rest := rfl
  rw [inserted, edits, List.filter_cons]
  by_cases inserts : edit.Inserts
  · rw [if_pos (decide_eq_true inserts), if_pos inserts]
    rfl
  · rw [if_neg (by simpa using inserts), if_neg inserts]
    rfl

/-- The types that were there stay in their order, and the new ones follow. -/
theorem types_updated : (config.updated history).conditions.map (·.type) =
    config.conditions.map (·.type) ++ config.inserted history := by
  induction history generalizing config with
  | nil => exact (List.append_nil _).symm
  | cons entry rest ih =>
    let edit : Edit := ⟨config, entry.1, entry.2⟩
    calc (edit.after.updated rest).conditions.map (·.type)
        = edit.after.conditions.map (·.type) ++ edit.after.inserted rest := ih edit.after
      _ = config.conditions.map (·.type) ++ config.inserted (entry :: rest) := by
        rw [edit.types_after, List.append_assoc, ← inserted_cons]

/-- A type comes in when it was not there and has an update that is no repeating report, and then
it does not come in again. -/
theorem inserted_spec : (config.inserted history).Nodup ∧
    ∀ type, type ∈ config.inserted history ↔ type ∉ config.conditions.map (·.type) ∧
      ∃ edit ∈ config.edits history, edit.update.type = type ∧ ¬ edit.Repeats := by
  induction history generalizing config with
  | nil => exact ⟨List.nodup_nil, fun type => by simp [inserted, edits]⟩
  | cons entry rest ih =>
    let edit : Edit := ⟨config, entry.1, entry.2⟩
    obtain ⟨nodup, mem_iff⟩ := ih edit.after
    have inserted := inserted_cons edit rest
    have edits : config.edits (entry :: rest) = edit :: edit.after.edits rest := rfl
    have types := edit.types_after
    change config.inserted (entry :: rest) = _ at inserted
    rw [inserted, edits]
    by_cases inserts : edit.Inserts
    · rw [if_pos inserts] at types ⊢
      refine ⟨List.nodup_cons.mpr ⟨fun again => ?_, nodup⟩, fun type => ?_⟩
      · refine ((mem_iff _).mp again).1 ?_
        rw [types]
        exact List.mem_append_right _ List.mem_cons_self
      · have missing : edit.update.type ∉ config.conditions.map (·.type) := inserts.1
        by_cases same : edit.update.type = type
        · subst same
          simp only [List.singleton_append, List.mem_cons_self, true_iff]
          exact ⟨missing, edit, List.mem_cons_self, rfl, inserts.2⟩
        · simp only [List.singleton_append, List.mem_cons, Ne.symm same, false_or, mem_iff, types,
            List.mem_append, List.not_mem_nil, or_false, exists_eq_or_imp, same, false_and]
          exact Iff.rfl
    · rw [if_neg inserts, List.append_nil] at types
      rw [if_neg inserts, List.nil_append]
      refine ⟨nodup, fun type => ?_⟩
      rw [mem_iff, types]
      refine and_congr_right fun missing => ?_
      simp only [List.mem_cons, exists_eq_or_imp]
      refine (or_iff_right ?_).symm
      rintro ⟨rfl, news⟩
      exact inserts ⟨missing, news⟩

/-- A condition stays where it is as it is, if there is an earlier one of its type or all updates of
its type are repeating reports. -/
theorem getElem?_conditions_updated {place : Nat} {condition : Condition}
    (found : config.conditions[place]? = some condition)
    (apart : condition.type ∈ (config.conditions.take place).map (·.type) ∨
      ∀ edit ∈ config.edits history, edit.update.type = condition.type → edit.Repeats) :
    (config.updated history).conditions[place]? = some condition := by
  induction history generalizing config with
  | nil => exact found
  | cons entry rest ih =>
    let edit : Edit := ⟨config, entry.1, entry.2⟩
    have after : edit.after.conditions[place]? = some condition :=
      Edit.getElem?_conditions_after found fun same =>
        apart.imp_right fun repeats => repeats edit List.mem_cons_self same
    refine ih edit.after after (apart.imp (fun earlier => ?_) fun repeats edit later =>
      repeats edit (List.mem_cons_of_mem _ later))
    have inside : place ≤ (config.conditions.map (·.type)).length := by
      rw [List.length_map]
      exact Nat.le_of_lt (List.getElem?_eq_some_iff.mp found).1
    rw [List.map_take] at earlier ⊢
    rwa [edit.types_after, List.take_append_of_le_length inside]

/-- Two updates may change places if their types differ, unless both types are missing: neither
changes what the other one finds on record. -/
theorem updated_comm {first second : Instant × ConditionUpdate}
    (apart : first.2.type ≠ second.2.type)
    (present : first.2.type ∈ config.conditions.map (·.type) ∨
      second.2.type ∈ config.conditions.map (·.type)) :
    config.updated [first, second] = config.updated [second, first] := by
  let one : Edit := ⟨config, first.1, first.2⟩
  let two : Edit := ⟨config, second.1, second.2⟩
  let oneLater : Edit := ⟨two.after, first.1, first.2⟩
  let twoLater : Edit := ⟨one.after, second.1, second.2⟩
  change twoLater.after = oneLater.after
  have foundOne : oneLater.current = one.current := Edit.condition_after_of_ne apart.symm
  have foundTwo : twoLater.current = two.current := Edit.condition_after_of_ne apart
  have sameOne : oneLater.Repeats ↔ one.Repeats := by rw [Edit.Repeats, foundOne, Edit.Repeats]
  have sameTwo : twoLater.Repeats ↔ two.Repeats := by rw [Edit.Repeats, foundTwo, Edit.Repeats]
  by_cases repeatsOne : one.Repeats
  · have still : one.after = config := Edit.after_of_repeats repeatsOne
    rw [Edit.after_of_repeats (sameOne.mpr repeatsOne)]
    exact congrArg (Edit.after ⟨·, second.1, second.2⟩) still
  by_cases repeatsTwo : two.Repeats
  · have still : two.after = config := Edit.after_of_repeats repeatsTwo
    rw [Edit.after_of_repeats (sameTwo.mpr repeatsTwo)]
    exact congrArg (Edit.after ⟨·, first.1, first.2⟩) still.symm
  · rw [Edit.after_of_not_repeats ((not_congr sameOne).mpr repeatsOne),
      Edit.after_of_not_repeats ((not_congr sameTwo).mpr repeatsTwo)]
    have afterOne := Edit.after_of_not_repeats repeatsOne
    have afterTwo := Edit.after_of_not_repeats repeatsTwo
    simp only [oneLater, twoLater, afterOne, afterTwo, one, two]
    exact setCondition_comm apart present

theorem rest_updated : (config.updated history).spec = config.spec ∧
    (config.updated history).metadata = config.metadata ∧
    (config.updated history).status.bind (·.version) = config.status.bind (·.version) := by
  induction history generalizing config with
  | nil => exact ⟨rfl, rfl, rfl⟩
  | cons entry rest ih =>
    let edit : Edit := ⟨config, entry.1, entry.2⟩
    obtain ⟨spec, metadata, version⟩ := ih edit.after
    obtain ⟨spec', metadata', version'⟩ := edit.rest_after
    exact ⟨spec.trans spec', metadata.trans metadata', version.trans version'⟩

/-- **Tracking conditions over a history.** Whatever conditions a configuration has, and whatever
updates are made of it at whatever times, what it tells afterwards is what these updates say. -/
theorem tracked : Tracked config history where
  status type := written_status type config history
  message type := written_message type config history
  repeated _ _ := Edit.after_of_repeats
  lastTransition type := written_lastTransition type config history
  lastUpdate type := written_lastUpdate type config history
  types := config.types_updated history
  inserted_nodup := (config.inserted_spec history).1
  mem_inserted := (config.inserted_spec history).2
  kept _ _ := config.getElem?_conditions_updated history
  commute first second apart present _ := by
    rw [updated, updated, List.foldl_append, List.foldl_append]
    exact updated_comm _ apart (.inl present)
  spec := (config.rest_updated history).1
  metadata := (config.rest_updated history).2.1
  version := (config.rest_updated history).2.2

end Config

end PullSecretSync
