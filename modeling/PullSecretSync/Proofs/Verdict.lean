import PullSecretSync.Proofs.Revising

/-!
# What is put on record about the credential

The condition of the credential is set in a few ways only: it holds or fails without a message, it
fails because content waits for the credential, or it is unknown after an error. Handling an
event, managing the credential and passing the gate each leave the configuration as it was, or put
one verdict on record.
-/

namespace PullSecretSync

/-- Every error has a wording. -/
theorem SyncError.message_ne_empty (error : SyncError) : error.message ≠ "" := by
  intro blank
  cases error with
  | api error => exact absurd (String.append_eq_empty_iff.mp blank).1 (by decide)
  | notFound slot => exact absurd (String.append_eq_empty_iff.mp blank).2 (by decide)
  | alreadyExists slot => exact absurd (String.append_eq_empty_iff.mp blank).2 (by decide)
  | unstamped space => exact absurd (String.append_eq_empty_iff.mp blank).2 (by decide)
  | missingCredential => exact absurd blank (by decide)
  | conflict name => exact absurd (String.append_eq_empty_iff.mp blank).2 (by decide)
  | unserializable cause => exact absurd (String.append_eq_empty_iff.mp blank).1 (by decide)

/-- What is found about the credential. -/
inductive Verdict where
  /-- The replica holds the credential. -/
  | present
  /-- There is no credential. Nobody was told yet that it is missing. -/
  | absent
  /-- Content waits for the credential. -/
  | lacking
  | failed (error : SyncError)

namespace Verdict

/-- The status that tells of a verdict. -/
def status : Verdict → ConditionStatus
  | .present => .holds
  | .absent => .fails
  | .lacking => .fails
  | .failed _ => .unknown

/-- The message that tells of a verdict. -/
def message : Verdict → String
  | .present => ""
  | .absent => ""
  | .lacking => SyncError.missingCredential.message
  | .failed error => error.message

end Verdict

namespace Config

/-- Put a verdict on record. -/
def record (config : Config) (now : Instant) : Verdict → Config
  | .present => config.settle now credentialType .holds
  | .absent => config.settle now credentialType .fails
  | .lacking =>
    config.reportError now credentialType .fails SyncError.missingCredential.message
  | .failed error => config.reportError now credentialType .unknown error.message

/-- The conditions that are of the credential's type. -/
def credentials (config : Config) : List Condition :=
  config.conditions.filter (·.type = credentialType)

/-- How it stands with the credential, as its condition tells it. -/
def standing (config : Config) : ConditionStatus × String :=
  ((config.condition credentialType).status, (config.condition credentialType).message)

/-- The gate has nothing to report: the condition holds, or it carries a message. -/
def Told (config : Config) : Prop :=
  (config.condition credentialType).status = .holds ∨
    (config.condition credentialType).message ≠ ""

variable {config other : Config} {now : Instant} {verdict : Verdict}

/-- What was found is all that a condition rests on. -/
theorem condition_congr (same : config.status = other.status) (type : String) :
    config.condition type = other.condition type := by
  simp only [condition, conditions, same]

theorem credentials_congr (same : config.status = other.status) :
    config.credentials = other.credentials := by
  simp only [credentials, conditions, same]

theorem told_congr (same : config.status = other.status) : config.Told ↔ other.Told := by
  simp only [Told, condition_congr same]

/-- The first condition of the credential's type is the one that counts. -/
theorem condition_eq_head (config : Config) :
    config.condition credentialType =
      config.credentials.head?.getD (.unset credentialType) := by
  rw [credentials, List.head?_filter]
  rfl

/-! ## The record -/

/-- A report leaves the status that it reports. -/
theorem status_condition_reportError (config : Config) (now : Instant) (type : String)
    (status : ConditionStatus) (message : String) :
    ((config.reportError now type status message).condition type).status = status := by
  simp only [reportError]
  split
  · rename_i known
    exact known.1
  · exact status_condition_setCondition ..

/-- A report leaves the message that it reports. -/
theorem message_condition_reportError (config : Config) (now : Instant) (type : String)
    (status : ConditionStatus) (message : String) :
    ((config.reportError now type status message).condition type).message = message := by
  simp only [reportError]
  split
  · rename_i known
    exact known.2
  · exact message_condition_setCondition ..

@[simp] theorem status_condition_record :
    ((config.record now verdict).condition credentialType).status = verdict.status := by
  cases verdict with
  | present => exact status_condition_settle ..
  | absent => exact status_condition_settle ..
  | lacking => exact status_condition_reportError ..
  | failed error => exact status_condition_reportError ..

@[simp] theorem message_condition_record :
    ((config.record now verdict).condition credentialType).message = verdict.message := by
  cases verdict with
  | present => exact message_condition_settle ..
  | absent => exact message_condition_settle ..
  | lacking => exact message_condition_reportError ..
  | failed error => exact message_condition_reportError ..

@[simp] theorem standing_record :
    (config.record now verdict).standing = (verdict.status, verdict.message) := by
  rw [standing, status_condition_record, message_condition_record]

/-- To put a verdict on record changes the status only. -/
theorem record_eq : config.record now verdict =
    { config with status := (config.record now verdict).status } := by
  have reported (status : ConditionStatus) (message : String) :
      config.reportError now credentialType status message =
        { config with
          status := (config.reportError now credentialType status message).status } := by
    simp only [reportError]
    split <;> rfl
  cases verdict with
  | present => rfl
  | absent => rfl
  | lacking => exact reported .fails _
  | failed error => exact reported .unknown _

theorem record_spec : (config.record now verdict).spec = config.spec := by
  rw [record_eq]

/-- Only the plain absence of the credential leaves the gate something to report. -/
theorem told_record_iff : (config.record now verdict).Told ↔ verdict ≠ .absent := by
  rw [Told, status_condition_record, message_condition_record]
  cases verdict with
  | present => simp [Verdict.status]
  | absent => simp [Verdict.status, Verdict.message]
  | lacking => simp [Verdict.message, SyncError.message_ne_empty]
  | failed error => simp [Verdict.message, SyncError.message_ne_empty]

/-- Setting the condition leaves a single one of its type where there was at most one. -/
theorem credentials_setCondition (few : config.credentials.length ≤ 1) (now : Instant)
    (status : ConditionStatus) (message : String) :
    (config.setCondition now credentialType status message).credentials =
      [(config.setCondition now credentialType status message).condition credentialType] := by
  have single : ∃ condition,
      (config.setCondition now credentialType status message).credentials = [condition] := by
    have renewed := Condition.filter_setIn_self now credentialType status message config.conditions
    rw [credentials] at few
    cases found : config.conditions.filter (·.type = credentialType) with
    | nil =>
      rw [found] at renewed
      exact ⟨_, renewed⟩
    | cons condition rest =>
      rw [found, List.length_cons] at few
      obtain rfl : rest = [] := List.length_eq_zero_iff.mp (by omega)
      rw [found] at renewed
      exact ⟨_, renewed⟩
  obtain ⟨condition, single⟩ := single
  rw [condition_eq_head, single]
  rfl

/-- A verdict is on record once, where there was at most one condition before. -/
theorem credentials_record (few : config.credentials.length ≤ 1) :
    (config.record now verdict).credentials =
      [(config.record now verdict).condition credentialType] := by
  have reported (status : ConditionStatus) (error : SyncError) :
      (config.reportError now credentialType status error.message).credentials =
        [(config.reportError now credentialType status error.message).condition
          credentialType] := by
    rw [reportError]
    split
    · rename_i known
      cases found : config.credentials with
      | nil =>
        have blank : (config.condition credentialType).message = "" := by
          rw [condition_eq_head, found]
          rfl
        exact absurd (known.2.symm.trans blank) error.message_ne_empty
      | cons condition rest =>
        rw [found, List.length_cons] at few
        obtain rfl : rest = [] := List.length_eq_zero_iff.mp (by omega)
        rw [condition_eq_head, found]
        rfl
    · exact credentials_setCondition few ..
  cases verdict with
  | present => exact credentials_setCondition few ..
  | absent => exact credentials_setCondition few ..
  | lacking => exact reported .fails .missingCredential
  | failed error => exact reported .unknown error

/-- A verdict leaves the conditions of other types alone. -/
theorem others_record :
    (config.record now verdict).conditions.filter (·.type ≠ credentialType) =
      config.conditions.filter (·.type ≠ credentialType) := by
  have set (status : ConditionStatus) (message : String) :
      (config.setCondition now credentialType status message).conditions.filter
          (·.type ≠ credentialType) =
        config.conditions.filter (·.type ≠ credentialType) :=
    Condition.filter_setIn_ne now credentialType status message config.conditions
  have reported (status : ConditionStatus) (message : String) :
      (config.reportError now credentialType status message).conditions.filter
          (·.type ≠ credentialType) =
        config.conditions.filter (·.type ≠ credentialType) := by
    rw [reportError]
    split
    · rfl
    · exact set status message
  cases verdict with
  | present => exact set .holds ""
  | absent => exact set .fails ""
  | lacking => exact reported .fails _
  | failed error => exact reported .unknown _

/-! ## The gate -/

/-- The gate asks for a write exactly if the credential is needed and there is something to
report. -/
theorem gate_flush_iff :
    (config.gate now).1.flush = true ↔ config.needsCredential = true ∧ ¬ config.Told := by
  unfold gate Told
  cases needed : config.needsCredential with
  | false => simp
  | true =>
    by_cases holds : (config.condition credentialType).status = .holds
    · simp [holds]
    · by_cases blank : (config.condition credentialType).message = ""
      · simp [holds, blank]
      · simp [holds, blank]

/-- The gate puts the lack of the credential on record if it asks for a write. Otherwise it leaves
everything as it is. -/
theorem gate_config :
    (config.gate now).2 =
      if (config.gate now).1.flush then config.record now .lacking else config := by
  unfold gate
  dsimp only
  split
  · rfl
  · split <;> rfl

end Config

/-! ## What the steps put on record -/

namespace Sync

variable {settings : Settings} {version : String} {now : Instant} {inFlight : UInt64}
  {retries : UInt32} {event : SecretEvent} {config managed : Config} {effects : List Effect}

/-- Managing the credential finds it present or absent, or it finds nothing. -/
theorem Managing.records
    (managing : Managing version now config event effects (.ok managed)) :
    managed = config ∨ ∃ verdict, managed = config.record now verdict := by
  cases managing with
  | irrelevant => exact .inl rfl
  | echoed => exact .inl rfl
  | untold => exact .inl rfl
  | restored => exact .inr ⟨.present, rfl⟩
  | copied => exact .inr ⟨.present, rfl⟩
  | orphaned => exact .inr ⟨.absent, rfl⟩
  | withdrawn => exact .inr ⟨.absent, rfl⟩

/-- Handling an event leaves the configuration as it was, or it puts one verdict on record,
whether or not the status gets written then. -/
theorem Handling.records {handled : Handled}
    (handling : Handling settings now inFlight config retries event effects handled) :
    handled.config = config ∨ ∃ verdict, handled.config = config.record now verdict := by
  cases handling with
  | busy => exact .inl rfl
  | ignored => exact .inl rfl
  | acknowledged => exact .inl rfl
  | postponed => exact .inl rfl
  | welcomed => exact .inr ⟨.present, rfl⟩
  | rejected => exact .inr ⟨.failed _, rfl⟩
  | accepted => exact .inr ⟨.absent, rfl⟩
  | steady _ managing => exact managing.records
  | turned _ managing => exact managing.records
  | @failed _ error => exact .inr ⟨.failed error, rfl⟩

end Sync

end PullSecretSync
