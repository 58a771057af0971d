import PullSecretSync.Proofs.Concord

/-!
# Handling sealed secrets

A sealed secret tells nothing of what it holds. Two events that are the same when sealed are handled
side by side: function by function, both sides ask for the same, but for what the secrets hold, get
the same but for that, and go on alike. Configurations differ at most in the times at which their
conditions were set, of which it is only assumed that the times of the two sides are simultaneous,
in whatever sense.
-/

namespace PullSecretSync

open Sync Interaction

/-! ## Agreement -/

/-- A secret without what it holds. -/
def Secret.sealed (secret : Secret) : Secret := { secret with data := none, stringData := none }

/-- An event that tells nothing of what its secret holds. -/
def SecretEvent.sealed (event : SecretEvent) : SecretEvent :=
  { event with secret := event.secret.sealed }

section Agreement

variable (Times : Instant → Instant → Prop)

/-- Two conditions differ at most in their times. -/
structure Condition.Agrees (condition other : Condition) : Prop where
  type : condition.type = other.type
  status : condition.status = other.status
  lastUpdate : Option.Rel Times condition.lastUpdate other.lastUpdate
  lastTransition : Option.Rel Times condition.lastTransition other.lastTransition
  message : condition.message = other.message

/-- Two findings differ at most in the times of conditions. -/
structure ConfigStatus.Agrees (status other : ConfigStatus) : Prop where
  conditions : List.Forall₂ (Condition.Agrees Times) status.conditions other.conditions
  version : status.version = other.version

/-- Two configurations differ at most in the times of conditions. -/
structure Config.Agrees (config other : Config) : Prop where
  metadata : config.metadata = other.metadata
  spec : config.spec = other.spec
  status : Option.Rel (ConfigStatus.Agrees Times) config.status other.status

/-- Two secrets differ at most in what they hold. -/
def Secret.Agrees (secret other : Secret) : Prop := secret.sealed = other.sealed

/-- Two questions differ at most in what secrets hold and in the times of conditions. -/
inductive Call.Agrees : Call → Call → Prop
  | get (slot : Slot) : Agrees (.store (.get slot)) (.store (.get slot))
  | create (space : String) {secret other : Secret} (secrets : secret.Agrees other) :
      Agrees (.store (.create space secret)) (.store (.create space other))
  | update (space : String) {secret other : Secret} (secrets : secret.Agrees other) :
      Agrees (.store (.update space secret)) (.store (.update space other))
  | delete (slot : Slot) : Agrees (.store (.delete slot)) (.store (.delete slot))
  | writeStatus {config other : Config} (configs : config.Agrees Times other) :
      Agrees (.writeStatus config) (.writeStatus other)
  | note (entry : LogEntry) : Agrees (.note entry) (.note entry)

/-- Two questions and their answers differ at most in what secrets hold and in the times of
conditions. -/
inductive Sync.Effect.Agrees : Effect → Effect → Prop
  | get (slot : Slot) {answer reply : Except SyncError (Option Secret)}
      (answers : Likewise (Option.Rel Secret.Agrees) answer reply) :
      Agrees (.store (.get slot) answer) (.store (.get slot) reply)
  | create (space : String) {secret other : Secret} {answer reply : Except SyncError Secret}
      (secrets : secret.Agrees other) (answers : Likewise Secret.Agrees answer reply) :
      Agrees (.store (.create space secret) answer) (.store (.create space other) reply)
  | update (space : String) {secret other : Secret} {answer reply : Except SyncError Secret}
      (secrets : secret.Agrees other) (answers : Likewise Secret.Agrees answer reply) :
      Agrees (.store (.update space secret) answer) (.store (.update space other) reply)
  | delete (slot : Slot) (answer : Except SyncError Unit) :
      Agrees (.store (.delete slot) answer) (.store (.delete slot) answer)
  | writeStatus {config other : Config} (configs : config.Agrees Times other)
      (answer : Except SyncError Unit) :
      Agrees (.writeStatus config answer) (.writeStatus other answer)
  | note (entry : LogEntry) : Agrees ⟨.note entry, ()⟩ ⟨.note entry, ()⟩

/-- What is alike but for what secrets hold and for the times of conditions. -/
def unsealing : Likeness Call Call.Answer where
  Asks := Call.Agrees Times
  Meets := Effect.Agrees Times

/-- Two events were handled alike. -/
structure Handled.Agrees (handled other : Handled) : Prop where
  result : handled.result = other.result
  config : handled.config.Agrees Times other.config
  retries : handled.retries = other.retries

end Agreement

variable {Times : Instant → Instant → Prop} {now now' : Instant} {config other : Config}
  {secret secret' : Secret} {event event' : SecretEvent}

/-! ## Conditions -/

/-- Optional values are alike when an absent one stands for a default. -/
private theorem rel_getD {α β : Type} {Like : α → β → Prop} {value : Option α} {value' : Option β}
    {default : α} {default' : β} (alike : Option.Rel Like value value')
    (defaults : Like default default') : Like (value.getD default) (value'.getD default') := by
  cases alike with
  | none => exact defaults
  | some alike => exact alike

namespace Condition

variable {type : String} {status : ConditionStatus} {message : String}
  {conditions others : List Condition}

theorem Agrees.refl (refl : ∀ time, Times time time) (condition : Condition) :
    condition.Agrees Times condition := by
  have same (time : Option Instant) : Option.Rel Times time time := by
    cases time with
    | none => exact .none
    | some time => exact .some (refl time)
  exact ⟨rfl, rfl, same _, same _, rfl⟩

theorem Agrees.renew {condition other : Condition} (agrees : condition.Agrees Times other)
    (times : Times now now') :
    (condition.renew now status message).Agrees Times (other.renew now' status message) where
  type := agrees.type
  status := rfl
  lastUpdate := .some times
  lastTransition := by
    rw [Condition.renew, Condition.renew, agrees.status]
    split
    · exact agrees.lastTransition
    · exact .some times
  message := rfl

/-- Conditions that agree do so when one is set at the same time. -/
theorem agrees_setIn (times : Times now now')
    (agrees : List.Forall₂ (Agrees Times) conditions others) :
    List.Forall₂ (Agrees Times) (setIn now type status message conditions)
      (setIn now' type status message others) := by
  induction agrees with
  | nil => exact .cons ⟨rfl, rfl, .some times, .some times, rfl⟩ .nil
  | cons agrees rest ih =>
    rw [setIn, setIn, agrees.type]
    split
    · exact .cons (agrees.renew times) rest
    · exact .cons agrees ih

/-- The first conditions of a type agree. -/
theorem agrees_find? (agrees : List.Forall₂ (Agrees Times) conditions others) :
    Option.Rel (Agrees Times) (conditions.find? (·.type = type))
      (others.find? (·.type = type)) := by
  induction agrees with
  | nil => exact .none
  | cons agrees rest ih =>
    rw [List.find?_cons, List.find?_cons, agrees.type]
    split
    · exact .some agrees
    · exact ih

end Condition

namespace Config.Agrees

variable {type : String} {status : ConditionStatus} {message : String}

theorem refl (refl : ∀ time, Times time time) (config : Config) : config.Agrees Times config := by
  have same (status : ConfigStatus) : status.Agrees Times status :=
    ⟨List.forall₂_same.mpr fun _ _ => .refl refl _, rfl⟩
  refine ⟨rfl, rfl, ?_⟩
  cases config.status with
  | none => exact .none
  | some status => exact .some (same status)

/-- What was found agrees, also where nothing was. -/
theorem found (agrees : config.Agrees Times other) :
    (config.status.getD {}).Agrees Times (other.status.getD {}) :=
  rel_getD agrees.status ⟨.nil, rfl⟩

theorem condition (agrees : config.Agrees Times other) (type : String) :
    (config.condition type).Agrees Times (other.condition type) :=
  rel_getD (Condition.agrees_find? agrees.found.conditions) ⟨rfl, rfl, .none, .none, rfl⟩

theorem conditionHolds (agrees : config.Agrees Times other) (type : String) :
    config.conditionHolds type = other.conditionHolds type := by
  rw [Config.conditionHolds, Config.conditionHolds, (agrees.condition type).status]

theorem setCondition (agrees : config.Agrees Times other) (times : Times now now') :
    (config.setCondition now type status message).Agrees Times
      (other.setCondition now' type status message) where
  metadata := agrees.metadata
  spec := agrees.spec
  status := .some ⟨Condition.agrees_setIn times agrees.found.conditions, agrees.found.version⟩

/-- Configurations that agree show the same, and agree when they are changed at the same time. -/
theorem resemblance (times : Times now now') : Resemblance (Config.Agrees Times) now now' where
  status agrees type := (agrees.condition type).status
  message agrees type := (agrees.condition type).message
  needsCredential agrees := by rw [needsCredential, needsCredential, agrees.spec]
  setCondition agrees _ _ _ := agrees.setCondition times

theorem reportError (agrees : config.Agrees Times other) (times : Times now now') :
    (config.reportError now type status message).Agrees Times
      (other.reportError now' type status message) :=
  (resemblance times).reportError agrees type status message

end Config.Agrees

/-! ## Handling events -/

theorem Secret.Agrees.metadata (agrees : secret.Agrees secret') :
    secret.metadata = secret'.metadata :=
  congrArg (·.metadata) agrees

/-- Replicas differ at most in what they hold if the secrets do. -/
theorem Secret.Agrees.replica (agrees : secret.Agrees secret') (version : String) :
    (secret.replica version).Agrees (secret'.replica version) := by
  have copies : secret.sealed.replica version = secret'.sealed.replica version :=
    congrArg (·.replica version) agrees
  exact copies

theorem SecretEvent.agrees_of_sealed (same : event.sealed = event'.sealed) :
    event.secret.Agrees event'.secret :=
  (SecretEvent.mk.inj same).1

theorem SecretEvent.deleted_of_sealed (same : event.sealed = event'.sealed) :
    event.deleted = event'.deleted :=
  congrArg (·.deleted) same

/-- The role of a secret shows when it is sealed. -/
theorem SecretEvent.role?_of_sealed (same : event.sealed = event'.sealed) :
    event.secret.role? = event'.secret.role? :=
  congrArg (·.secret.role?) same

/-- The decision on an event rests on nothing that a secret holds. -/
theorem SecretEvent.facts_of_sealed {inFlight : UInt64} {retries limit : UInt32}
    (same : event.sealed = event'.sealed) (agrees : config.Agrees Times other) :
    event.facts config inFlight retries limit = event'.facts other inFlight retries limit := by
  have sealed : event.facts config inFlight retries limit =
      event'.facts config inFlight retries limit :=
    congrArg (·.facts config inFlight retries limit) same
  rw [sealed, facts, facts, agrees.spec, agrees.conditionHolds]

namespace Sync

variable {α β : Type} {Ends : α → β → Prop}

/-- Questions that agree are followed by what agrees after answers that do. -/
theorem parallel_query {question question' : Call} (asks : question.Agrees Times question')
    {next : question.Answer → Sync α} {next' : question'.Answer → Sync β}
    (rest : ∀ answer reply, Effect.Agrees Times ⟨question, answer⟩ ⟨question', reply⟩ →
      Parallel (unsealing Times) Ends (next answer) (next' reply)) :
    Parallel (unsealing Times) Ends ((query question).bind next) ((query question').bind next') :=
  .ask asks rest

/-- An entry in the log is the same on both sides. -/
theorem parallel_note {severity : Severity} {text : String} {next : Unit → Sync α}
    {next' : Unit → Sync β} (rest : Parallel (unsealing Times) Ends (next ()) (next' ())) :
    Parallel (unsealing Times) Ends ((note severity text).bind next)
      ((note severity text).bind next') :=
  parallel_query (.note _) fun _ _ _ => rest

/-- The entry on the state is the same on both sides. -/
theorem parallel_noteState (facts : Facts) :
    Parallel (unsealing Times) Eq (noteState facts) (noteState facts) := by
  have noted (severity : Severity) (text : String) :
      Parallel (unsealing Times) Eq (note severity text) (note severity text) :=
    .ask (.note _) fun _ _ _ => .done rfl
  unfold noteState
  split
  · exact noted _ _
  · split <;> exact noted _ _

theorem parallel_writeReplica (agrees : secret.Agrees secret') (version : String) :
    Parallel (unsealing Times) Eq (writeReplica version secret) (writeReplica version secret') := by
  have copies := agrees.replica version
  apply parallel_note
  apply parallel_query (.create _ copies)
  intro answer reply meets
  cases meets with
  | create _ _ answers =>
    cases answers with
    | ok => exact .done rfl
    | error error =>
      dsimp only
      split
      · apply parallel_note
        apply parallel_query (.update _ copies)
        intro answer reply meets
        cases meets with
        | update _ _ answers =>
          cases answers with
          | ok => exact .done rfl
          | error => exact .done rfl
      · exact .done rfl

theorem parallel_copyCredential {source source' : Option Secret}
    (agrees : Option.Rel Secret.Agrees source source') (version : String) :
    Parallel (unsealing Times) Eq (copyCredential version source)
      (copyCredential version source') := by
  cases agrees with
  | some agrees => exact parallel_writeReplica agrees version
  | none =>
    apply parallel_query (.get _)
    intro answer reply meets
    cases meets with
    | get _ answers =>
      cases answers with
      | error => exact .done rfl
      | ok agrees =>
        cases agrees with
        | none => exact parallel_note (.done rfl)
        | some agrees => exact parallel_writeReplica agrees version

/-- What secrets hold does not show in what is handled, and neither do times. -/
theorem concord_unsealing (times : Times now now') :
    Concord (unsealing Times) (Config.Agrees Times) now now' where
  toResemblance := Config.Agrees.resemblance times
  notes := .note
  deletes := .delete
  deleted meets := by
    cases meets
    rfl
  writes := .writeStatus
  written meets := by
    cases meets
    rfl
  copies := parallel_copyCredential .none

/-- Sealed events are of one kind, and are copied alike. -/
theorem alike_of_sealed (same : event.sealed = event'.sealed) :
    event.Alike (unsealing Times) event' where
  role := SecretEvent.role?_of_sealed same
  deleted := SecretEvent.deleted_of_sealed same
  copies := parallel_copyCredential (.some (SecretEvent.agrees_of_sealed same))

/-- Both sides manage the credential alike. -/
theorem parallel_manage (same : event.sealed = event'.sealed) (agrees : config.Agrees Times other)
    (times : Times now now') (version : String) :
    Parallel (unsealing Times) (Likewise (Config.Agrees Times)) (manage version now config event)
      (manage version now' other event') :=
  (concord_unsealing times).parallel_manage agrees (alike_of_sealed same) version

/-- Both sides handle an event alike. -/
theorem parallel_handle (settings : Settings) (inFlight : UInt64) (retries : UInt32)
    (same : event.sealed = event'.sealed) (agrees : config.Agrees Times other)
    (times : Times now now') :
    Parallel (unsealing Times) (Handled.Agrees Times)
      (handle settings now inFlight config retries event)
      (handle settings now' inFlight other retries event') := by
  have facts : event.facts config inFlight retries settings.retryLimit =
      event'.facts other inFlight retries settings.retryLimit :=
    SecretEvent.facts_of_sealed same agrees
  have noted : Parallel (unsealing Times) Eq
      (noteState (event.facts config inFlight retries settings.retryLimit))
      (noteState (event'.facts other inFlight retries settings.retryLimit)) := by
    rw [facts]
    exact parallel_noteState _
  have handled := (concord_unsealing times).parallel_handle agrees (alike_of_sealed same) settings
    inFlight retries noted (congrArg Facts.transition facts)
  exact handled.mono fun _ _ matched => ⟨matched.result, matched.config, matched.retries⟩

theorem parallel_passGate (agrees : config.Agrees Times other) (times : Times now now') :
    Parallel (unsealing Times)
      (fun passed passed' => passed.1 = passed'.1 ∧ passed.2.Agrees Times passed'.2)
      (passGate config now) (passGate other now') :=
  (concord_unsealing times).parallel_passGate agrees

end Sync

end PullSecretSync
