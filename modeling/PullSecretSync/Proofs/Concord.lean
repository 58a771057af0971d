import PullSecretSync.Proofs.Handling
import PullSecretSync.Proofs.Parallel
import PullSecretSync.Sync.Gate

/-!
# Handling alike

Two sides handle an event alike as long as what they differ in decides nothing. What the two sides
differ in is left open: configurations that are alike have to show the same and to stay alike when
they are changed alike, questions about them have to be alike and to be answered the same, and
copying has to go on in parallel. Then everything that is built from these goes on in parallel,
function by function.
-/

namespace PullSecretSync

open Sync Interaction

/-- Two results are like values or the same error. -/
inductive Likewise {α β : Type} (Like : α → β → Prop) :
    Except SyncError α → Except SyncError β → Prop
  | ok {value : α} {other : β} (like : Like value other) : Likewise Like (.ok value) (.ok other)
  | error (error : SyncError) : Likewise Like (.error error) (.error error)

/-- Configurations that are alike show the same, and stay alike when the one is changed at a time as
the other is at another. -/
structure Config.Resemblance (Alike : Config → Config → Prop) (now now' : Instant) : Prop where
  status {config other : Config} (alike : Alike config other) (type : String) :
    (config.condition type).status = (other.condition type).status
  message {config other : Config} (alike : Alike config other) (type : String) :
    (config.condition type).message = (other.condition type).message
  needsCredential {config other : Config} (alike : Alike config other) :
    config.needsCredential = other.needsCredential
  setCondition {config other : Config} (alike : Alike config other) (type : String)
    (status : ConditionStatus) (message : String) :
    Alike (config.setCondition now type status message)
      (other.setCondition now' type status message)

/-- Two sides ask alike about configurations that are alike and get the same answers, and copy alike
what is stored. -/
structure Sync.Concord (likeness : Likeness Call Call.Answer) (Alike : Config → Config → Prop)
    (now now' : Instant) : Prop extends Config.Resemblance Alike now now' where
  notes (entry : LogEntry) : likeness.Asks (.note entry) (.note entry)
  deletes (slot : Slot) : likeness.Asks (.store (.delete slot)) (.store (.delete slot))
  deleted {slot : Slot} {answer reply : Except SyncError Unit}
    (meets : likeness.Meets ⟨.store (.delete slot), answer⟩ ⟨.store (.delete slot), reply⟩) :
    answer = reply
  writes {config other : Config} (alike : Alike config other) :
    likeness.Asks (.writeStatus config) (.writeStatus other)
  written {config other : Config} {answer reply : Except SyncError Unit}
    (meets : likeness.Meets ⟨.writeStatus config, answer⟩ ⟨.writeStatus other, reply⟩) :
    answer = reply
  copies (version : String) :
    Parallel likeness Eq (copyCredential version none) (copyCredential version none)

/-- Two events are of one kind, and their secrets are copied alike. -/
structure SecretEvent.Alike (likeness : Likeness Call Call.Answer) (event other : SecretEvent) :
    Prop where
  role : event.secret.role? = other.secret.role?
  deleted : event.deleted = other.deleted
  copies (version : String) :
    Parallel likeness Eq (copyCredential version (some event.secret))
      (copyCredential version (some other.secret))

/-- Two events were handled alike. -/
structure Handled.Matches (Alike : Config → Config → Prop) (handled other : Handled) : Prop where
  result : handled.result = other.result
  config : Alike handled.config other.config
  retries : handled.retries = other.retries

variable {likeness : Likeness Call Call.Answer} {Alike : Config → Config → Prop}
  {now now' : Instant} {config other : Config} {event event' : SecretEvent}

/-! ## Configurations -/

namespace Config.Resemblance

variable (resemblance : Resemblance Alike now now') (alike : Alike config other)
include resemblance alike

theorem conditionHolds (type : String) : config.conditionHolds type = other.conditionHolds type := by
  rw [Config.conditionHolds, Config.conditionHolds, resemblance.status alike]

theorem reportError (type : String) (status : ConditionStatus) (message : String) :
    Alike (config.reportError now type status message)
      (other.reportError now' type status message) := by
  simp only [Config.reportError, resemblance.status alike, resemblance.message alike]
  split
  · exact alike
  · exact resemblance.setCondition alike type status message

/-- Both gates are open or closed. -/
theorem gate : (config.gate now).1 = (other.gate now').1 ∧
    Alike (config.gate now).2 (other.gate now').2 := by
  simp only [Config.gate, resemblance.needsCredential alike, resemblance.status alike,
    resemblance.message alike]
  split
  · exact ⟨rfl, alike⟩
  · split
    · exact ⟨rfl, alike⟩
    · exact ⟨rfl, resemblance.reportError alike _ _ _⟩

end Config.Resemblance

/-! ## Handling events -/

namespace Sync.Concord

variable (concord : Concord likeness Alike now now')
include concord

/-- An entry in the log is the same on both sides. -/
theorem parallel_note {α β : Type} {Ends : α → β → Prop} {severity : Severity} {text : String}
    {next : Unit → Sync α} {next' : Unit → Sync β}
    (rest : Parallel likeness Ends (next ()) (next' ())) :
    Parallel likeness Ends ((note severity text).bind next) ((note severity text).bind next') :=
  .ask (concord.notes _) fun _ _ _ => rest

variable (alike : Alike config other)
include alike

theorem parallel_restoreReplica (version : String) :
    Parallel likeness (Likewise Alike) (restoreReplica version now config)
      (restoreReplica version now' other) := by
  apply (concord.copies version).bind
  rintro result _ rfl
  cases result with
  | ok copied =>
    cases copied with
    | nothing => exact .done (.ok alike)
    | created => exact .done (.ok (concord.setCondition alike _ _ _))
    | updated => exact .done (.ok (concord.setCondition alike _ _ _))
  | error error =>
    dsimp only
    split
    · exact .done (.ok (concord.setCondition alike _ _ _))
    · exact .done (.error error)

theorem parallel_deleteReplica :
    Parallel likeness (Likewise Alike) (deleteReplica now config) (deleteReplica now' other) := by
  have concluded : Parallel likeness (Likewise Alike) (deleteReplica.conclude now config)
      (deleteReplica.conclude now' other) :=
    concord.parallel_note (.done (.ok (concord.setCondition alike _ _ _)))
  refine .ask (concord.deletes _) fun answer reply meets => ?_
  obtain rfl := concord.deleted meets
  cases answer with
  | ok => exact concluded
  | error error =>
    change Parallel likeness (Likewise Alike)
      (if error.isNotFound then deleteReplica.conclude now config else .done (.error error))
      (if error.isNotFound then deleteReplica.conclude now' other else .done (.error error))
    split
    · exact concluded
    · exact .done (.error error)

/-- Both sides manage the credential alike. -/
theorem parallel_manage (events : event.Alike likeness event') (version : String) :
    Parallel likeness (Likewise Alike) (manage version now config event)
      (manage version now' other event') := by
  rw [manage, manage, events.role, events.deleted]
  cases event'.secret.role? with
  | none => exact .done (.ok alike)
  | some role =>
    cases role with
    | replica =>
      cases event'.deleted with
      | false => exact .done (.ok alike)
      | true => exact concord.parallel_restoreReplica alike version
    | source =>
      cases event'.deleted with
      | true => exact concord.parallel_deleteReplica alike
      | false =>
        apply (events.copies version).bind
        rintro result _ rfl
        cases result with
        | ok => exact .done (.ok (concord.setCondition alike _ _ _))
        | error error => exact .done (.error error)

theorem parallel_flush : Parallel likeness Eq (flush config) (flush other) := by
  refine .ask (concord.writes alike) fun answer reply meets => ?_
  obtain rfl := concord.written meets
  cases answer with
  | ok => exact .done rfl
  | error => exact .done rfl

/-- Both sides write the status, or neither does. -/
theorem parallel_manageAndFlush (events : event.Alike likeness event') (version : String) :
    Parallel likeness
      (fun handled handled' => handled.1 = handled'.1 ∧ Alike handled.2 handled'.2)
      (manageAndFlush version now config event) (manageAndFlush version now' other event') := by
  apply (concord.parallel_manage alike events version).bind
  rintro result result' likewise
  cases likewise with
  | error error =>
    apply concord.parallel_note
    apply concord.parallel_note
    have reported : Alike (troubled config now error) (troubled other now' error) :=
      concord.reportError alike _ _ _
    exact (concord.parallel_flush reported).bind fun _ _ same => .done ⟨same, reported⟩
  | ok managed =>
    dsimp only
    rw [concord.status managed, concord.status alike]
    split
    · exact .done ⟨rfl, managed⟩
    · apply concord.parallel_note
      exact (concord.parallel_flush managed).bind fun _ _ same => .done ⟨same, managed⟩

/-- Both sides write the status and conclude. -/
private theorem parallel_conclude :
    Parallel likeness (Handled.Matches Alike)
      ((flush config).bind fun result => .done ⟨result, config, 0⟩)
      ((flush other).bind fun result => .done ⟨result, other, 0⟩) :=
  (concord.parallel_flush alike).bind fun _ _ same => .done ⟨same, alike, rfl⟩

/-- Both sides handle an event alike if they decide alike. -/
theorem parallel_handle (events : event.Alike likeness event') (settings : Settings)
    (inFlight : UInt64) (retries : UInt32)
    (noted : Parallel likeness Eq
      (noteState (event.facts config inFlight retries settings.retryLimit))
      (noteState (event'.facts other inFlight retries settings.retryLimit)))
    (decided : decision settings inFlight config retries event =
      decision settings inFlight other retries event') :
    Parallel likeness (Handled.Matches Alike) (handle settings now inFlight config retries event)
      (handle settings now' inFlight other retries event') := by
  simp only [handle, bind_eq]
  refine noted.bind fun _ _ _ => ?_
  rw [decision, decision] at decided
  rw [decided]
  cases (event'.facts other inFlight retries settings.retryLimit).transition with
  | busy => exact .done ⟨rfl, alike, rfl⟩
  | ignoreUnmanaged => exact .done ⟨rfl, alike, rfl⟩
  | ignoreIrrelevant => exact .done ⟨rfl, alike, rfl⟩
  | acknowledgeOwnWrite =>
    apply concord.parallel_note
    rw [concord.conditionHolds alike]
    split
    · exact .done ⟨rfl, alike, rfl⟩
    · apply concord.parallel_note
      exact concord.parallel_conclude (concord.setCondition alike _ _ _)
  | rejectUnstamped =>
    apply concord.parallel_note
    exact concord.parallel_conclude (concord.reportError alike _ _ _)
  | retryDeletion => exact concord.parallel_note (.done ⟨rfl, alike, rfl⟩)
  | acceptDeletion =>
    apply concord.parallel_note
    apply concord.parallel_note
    exact concord.parallel_conclude (concord.setCondition alike _ _ _)
  | ignoreWhileRemoved => exact concord.parallel_note (.done ⟨rfl, alike, rfl⟩)
  | manageCredential =>
    apply (concord.parallel_manageAndFlush alike events settings.version).bind
    rintro ⟨result, managed⟩ ⟨_, managed'⟩ ⟨rfl, alike⟩
    exact .done ⟨rfl, alike, rfl⟩

theorem parallel_passGate :
    Parallel likeness
      (fun passed passed' => passed.1 = passed'.1 ∧ Alike passed.2 passed'.2)
      (passGate config now) (passGate other now') := by
  obtain ⟨gates, configs⟩ := concord.gate alike
  simp only [passGate, gates]
  split
  · exact concord.parallel_note (.done ⟨rfl, configs⟩)
  · exact .done ⟨rfl, configs⟩

end Sync.Concord

end PullSecretSync
