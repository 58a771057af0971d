import PullSecretSync.Config.Condition

/-!
# What setting a condition does

The first condition of the type that is set gets the status and the message; conditions of other
types, the specification and the metadata stay as they are.
-/

namespace PullSecretSync

namespace Condition

/-- A condition that is set in a list is the first of its type there. -/
theorem find?_setIn_self (now : Instant) (type : String) (status : ConditionStatus)
    (message : String) (conditions : List Condition) :
    (setIn now type status message conditions).find? (·.type = type) =
      some (match conditions.find? (·.type = type) with
        | some condition => condition.renew now status message
        | none => ⟨type, status, some now, some now, message⟩) := by
  induction conditions with
  | nil => simp [setIn]
  | cons condition rest ih =>
    rw [setIn]
    by_cases h : condition.type = type
    · simp [h, renew]
    · simp [h, ih]

/-- Setting a condition leaves the first condition of any other type alone. -/
theorem find?_setIn_of_ne {type other : String} (hne : other ≠ type) (now : Instant)
    (status : ConditionStatus) (message : String) (conditions : List Condition) :
    (setIn now type status message conditions).find? (·.type = other) =
      conditions.find? (·.type = other) := by
  induction conditions with
  | nil => simp [setIn, hne.symm]
  | cons condition rest ih =>
    rw [setIn]
    by_cases h : condition.type = type
    · simp [h, renew, hne.symm]
    · by_cases ho : condition.type = other
      · simp [ho, hne]
      · simp [h, ho, ih]

/-- Setting a condition renews the first of its type, or adds it where there is none. -/
theorem filter_setIn_self (now : Instant) (type : String) (status : ConditionStatus)
    (message : String) (conditions : List Condition) :
    (setIn now type status message conditions).filter (·.type = type) =
      match conditions.filter (·.type = type) with
      | [] => [⟨type, status, some now, some now, message⟩]
      | condition :: rest => condition.renew now status message :: rest := by
  induction conditions with
  | nil => simp [setIn]
  | cons condition rest ih =>
    rw [setIn]
    by_cases h : condition.type = type
    · simp [h, renew]
    · simp [h, ih]

/-- Setting a condition leaves those of other types alone. -/
theorem filter_setIn_ne (now : Instant) (type : String) (status : ConditionStatus)
    (message : String) (conditions : List Condition) :
    (setIn now type status message conditions).filter (·.type ≠ type) =
      conditions.filter (·.type ≠ type) := by
  induction conditions with
  | nil => simp [setIn]
  | cons condition rest ih =>
    rw [setIn]
    by_cases h : condition.type = type
    · simp [h, renew]
    · simpa [h] using ih

/-- There is a condition among those that were set. -/
theorem setIn_ne_nil (now : Instant) (type : String) (status : ConditionStatus) (message : String)
    (conditions : List Condition) : setIn now type status message conditions ≠ [] := by
  cases conditions with
  | nil => exact List.cons_ne_nil _ _
  | cons condition rest =>
    rw [setIn]
    split <;> exact List.cons_ne_nil _ _

end Condition

namespace Config

variable (config : Config) (now : Instant) (type : String) (status : ConditionStatus)
  (message : String)

@[simp] theorem setCondition_spec :
    (config.setCondition now type status message).spec = config.spec := rfl

@[simp] theorem setCondition_metadata :
    (config.setCondition now type status message).metadata = config.metadata := rfl

/-- A condition that was set has the status it was set to. -/
@[simp] theorem status_condition_setCondition :
    ((config.setCondition now type status message).condition type).status = status := by
  simp only [condition, conditions, setCondition, Option.getD_some, Condition.find?_setIn_self]
  split <;> rfl

/-- A condition that was set has the message it was set to. -/
@[simp] theorem message_condition_setCondition :
    ((config.setCondition now type status message).condition type).message = message := by
  simp only [condition, conditions, setCondition, Option.getD_some, Condition.find?_setIn_self]
  split <;> rfl

@[simp] theorem status_condition_settle :
    ((config.settle now type status).condition type).status = status :=
  status_condition_setCondition ..

@[simp] theorem message_condition_settle :
    ((config.settle now type status).condition type).message = "" :=
  message_condition_setCondition ..

@[simp] theorem settle_spec : (config.settle now type status).spec = config.spec := rfl

end Config

end PullSecretSync
