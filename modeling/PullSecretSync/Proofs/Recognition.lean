import PullSecretSync.Config.Codec
import PullSecretSync.Proofs.Concord
import PullSecretSync.Proofs.Session

/-!
# Management states that are not recognized

A management state that is none of the known ones is kept as it was written, and counts as managed.
Two sessions in which the same happens, the one in such a state and the other managed, go on alike:
every step reports the same, asks for the same and leaves the same behind. Only the wording of the
log tells them apart.
-/

namespace PullSecretSync

open Sync Interaction

/-- The configuration in some management state. -/
def Config.inState (config : Config) (state : ManagementState) : Config :=
  { config with spec := { config.spec with managementState := state } }

/-- The action, where a configuration to be followed is in some management state. -/
def Action.inState (state : ManagementState) : Action → Action
  | .configure config => .configure (config.inState state)
  | action => action

/-- The session with its configuration in some management state. -/
def Session.inState (session : Session) (state : ManagementState) : Session :=
  { session with config := session.config.inState state }

section Restating

variable (state : ManagementState)

/-- A configuration is in the state, and the other one is the same but managed. -/
structure Config.Restated (config other : Config) : Prop where
  state : config.spec.managementState = state
  managed : other = config.inState .managed

/-- Two questions are the same, but for the state of a configuration or the wording of an entry. -/
inductive Call.Restated : Call → Call → Prop
  | same (question : Call) : Restated question question
  | written {config other : Config} (configs : config.Restated state other) :
      Restated (.writeStatus config) (.writeStatus other)
  | worded (severity : Severity) (text other : String) :
      Restated (.note ⟨severity, text⟩) (.note ⟨severity, other⟩)

/-- Two questions with the same answer are the same, but for the state of a configuration or the
wording of an entry. -/
inductive Sync.Effect.Restated : Effect → Effect → Prop
  | same (effect : Effect) : Restated effect effect
  | written {config other : Config} (configs : config.Restated state other)
      (answer : Except SyncError Unit) :
      Restated (.writeStatus config answer) (.writeStatus other answer)
  | worded (severity : Severity) (text other : String) :
      Restated ⟨.note ⟨severity, text⟩, ()⟩ ⟨.note ⟨severity, other⟩, ()⟩

/-- What is alike but for the state. -/
def restating : Likeness Call Call.Answer where
  Asks := Call.Restated state
  Meets := Effect.Restated state

/-- Two sessions are the same, but for the state. -/
structure Session.Restated (session other : Session) : Prop where
  config : session.config.Restated state other.config
  retries : session.retries = other.retries
  surroundings : session.surroundings = other.surroundings

/-- Two steps are the same, but for the state and the wording of the log. -/
structure Session.Step.Restated (step other : Session.Step) : Prop where
  report : step.report = other.report
  effects : List.Forall₂ (Effect.Restated state) step.effects other.effects
  session : step.session.Restated state other.session

end Restating

variable {state : ManagementState} {config other : Config} {event : SecretEvent}

/-! ## Configurations -/

namespace Config.Restated

theorem inState (config : Config) (state : ManagementState) :
    (config.inState state).Restated state (config.inState .managed) :=
  ⟨rfl, rfl⟩

/-- What was found is the same in both states. -/
theorem condition_eq (restated : config.Restated state other) (type : String) :
    config.condition type = other.condition type := by
  rw [restated.managed]
  rfl

theorem setCondition (restated : config.Restated state other) (now : Instant) (type : String)
    (status : ConditionStatus) (message : String) :
    (config.setCondition now type status message).Restated state
      (other.setCondition now type status message) := by
  rw [restated.managed]
  exact ⟨restated.state, rfl⟩

/-- The state shows in nothing that is decided on a configuration, and is kept by every change. -/
theorem resemblance (state : ManagementState) (now : Instant) :
    Resemblance (Config.Restated state) now now where
  status restated type := congrArg (·.status) (restated.condition_eq type)
  message restated type := congrArg (·.message) (restated.condition_eq type)
  needsCredential restated := by
    rw [restated.managed]
    rfl
  setCondition restated := restated.setCondition now

end Config.Restated

/-! ## Handling events -/

/-- A state that is neither unmanaged nor removed decides like managed. -/
theorem Facts.transition_managed {facts : Facts} (unmanaged : facts.state ≠ .unmanaged)
    (removed : facts.state ≠ .removed) :
    { facts with state := .managed }.transition = facts.transition := by
  simp [Facts.transition, unmanaged, removed]

theorem Config.Restated.facts_eq (restated : config.Restated state other) (inFlight : UInt64)
    (retries limit : UInt32) : event.facts other inFlight retries limit =
      { event.facts config inFlight retries limit with state := .managed } := by
  rw [restated.managed]
  rfl

namespace Sync

/-- Answers that are the same but for the state are the same. -/
theorem Effect.Restated.answer_eq {question : Call} {answer reply : question.Answer}
    (restated : Effect.Restated state ⟨question, answer⟩ ⟨question, reply⟩) : answer = reply := by
  cases restated <;> rfl

/-- A computation without a configuration goes the same way. -/
theorem parallel_restating_self {α : Type} (x : Sync α) : Parallel (restating state) Eq x x := by
  refine Parallel.refl (fun question => ?_) (fun question answer reply meets => ?_) x
  · exact .same question
  · exact Effect.Restated.answer_eq meets

/-- The entry on the state is worded in its own way for a state that counts as managed. -/
theorem parallel_noteState_managed {facts : Facts} (unmanaged : facts.state ≠ .unmanaged)
    (removed : facts.state ≠ .removed) :
    Parallel (restating state) Eq (noteState facts)
      (noteState { facts with state := .managed }) := by
  have worded (severity : Severity) (text other : String) :
      Parallel (restating state) Eq (note severity text) (note severity other) :=
    .ask (.worded severity text other) fun _ _ _ => .done rfl
  unfold noteState
  rw [Facts.transition_managed unmanaged removed]
  split
  · exact worded _ _ _
  · cases told : facts.state with
    | managed => exact worded _ _ _
    | unmanaged => exact absurd told unmanaged
    | removed => exact absurd told removed
    | unrecognized => exact worded _ _ _

/-- The state does not show in what is handled. -/
theorem concord_restating (state : ManagementState) (now : Instant) :
    Concord (restating state) (Config.Restated state) now now where
  toResemblance := Config.Restated.resemblance state now
  notes _ := .same _
  deletes _ := .same _
  deleted := Effect.Restated.answer_eq
  writes := .written
  written meets := by
    cases meets <;> rfl
  copies _ := parallel_restating_self _

/-- An event is like itself. -/
theorem alike_self (event : SecretEvent) : event.Alike (restating state) event :=
  ⟨rfl, rfl, fun _ => parallel_restating_self _⟩

/-- An event is handled alike in a state that counts as managed. -/
theorem parallel_handle_restated (restated : config.Restated state other)
    (unmanaged : state ≠ .unmanaged) (removed : state ≠ .removed) (settings : Settings)
    (now : Instant) (inFlight : UInt64) (retries : UInt32) (event : SecretEvent) :
    Parallel (restating state) (Handled.Matches (Config.Restated state))
      (handle settings now inFlight config retries event)
      (handle settings now inFlight other retries event) := by
  have facts : event.facts other inFlight retries settings.retryLimit =
      { event.facts config inFlight retries settings.retryLimit with state := .managed } :=
    restated.facts_eq inFlight retries settings.retryLimit
  have stated : (event.facts config inFlight retries settings.retryLimit).state = state :=
    restated.state
  rw [← stated] at unmanaged removed
  refine (concord_restating state now).parallel_handle restated (alike_self event) settings
    inFlight retries ?_ ?_
  · rw [facts]
    exact parallel_noteState_managed unmanaged removed
  · rw [decision, decision, facts]
    exact (Facts.transition_managed unmanaged removed).symm

end Sync

/-! ## Sessions -/

/-- The surroundings do not ask for the state. -/
theorem Surroundings.attuned_restating :
    Parallel.Attuned (restating state) answer answer Eq := by
  intro question other asks around others same
  subst same
  cases asks with
  | same => exact ⟨.same _, rfl⟩
  | written configs => exact ⟨.written configs _, rfl⟩
  | worded severity text other => exact ⟨.worded severity text other, rfl⟩

namespace Session

variable {session others : Session}

theorem Restated.ask {α β : Type} {Ends : α → β → Prop} {x : Sync α} {y : Sync β}
    (restated : session.Restated state others) (parallel : Parallel (restating state) Ends x y) :
    Ends (session.ask x).1 (others.ask y).1 ∧
      List.Forall₂ (Effect.Restated state) (session.ask x).2.1 (others.ask y).2.1 ∧
      (session.ask x).2.2 = (others.ask y).2.2 :=
  parallel.run Surroundings.attuned_restating restated.surroundings

/-- An action is done alike in a state that counts as managed. -/
theorem Restated.perform (restated : session.Restated state others)
    (unmanaged : state ≠ .unmanaged) (removed : state ≠ .removed) (settings : Settings)
    (now : Instant) (action : Action) :
    (session.perform settings now (action.inState state)).Restated state
      (others.perform settings now (action.inState .managed)) := by
  have ⟨configs, retries, around⟩ := restated
  cases action with
  | handle event inFlight =>
    simp only [Action.inState, Session.perform, ← retries]
    obtain ⟨handled, effects, after⟩ := restated.ask
      (parallel_handle_restated configs unmanaged removed settings now inFlight session.retries
        event)
    exact ⟨congrArg Report.handled handled.result, effects, handled.config, handled.retries, after⟩
  | manage event =>
    have managed := restated.ask
      ((concord_restating state now).parallel_manage configs (alike_self event) settings.version)
    simp only [Action.inState, Session.perform]
    generalize session.ask _ = asked, others.ask _ = asked' at managed ⊢
    obtain ⟨result, effects, after⟩ := asked
    obtain ⟨result', effects', after'⟩ := asked'
    obtain ⟨likewise, effects, after⟩ := managed
    cases likewise with
    | ok managed => exact ⟨rfl, effects, managed, retries, after⟩
    | error => exact ⟨rfl, effects, configs, retries, after⟩
  | passGate =>
    obtain ⟨⟨gates, configs⟩, effects, after⟩ := restated.ask
      ((concord_restating state now).parallel_passGate configs)
    exact ⟨congrArg Report.gated gates, effects, configs, retries, after⟩
  | setCondition type status message =>
    exact ⟨rfl, .nil, configs.setCondition now type status message, retries, around⟩
  | reportError type status message =>
    have resemblance := Config.Restated.resemblance state now
    exact ⟨rfl, .nil, resemblance.reportError configs type status message, retries, around⟩
  | configure config => exact ⟨rfl, .nil, .inState config state, retries, around⟩
  | place slot content =>
    refine ⟨rfl, .nil, configs, retries, ?_⟩
    simp only [Action.inState, Session.perform, around]
  | await kind mishap =>
    refine ⟨rfl, .nil, configs, retries, ?_⟩
    simp only [Action.inState, Session.perform, around]

theorem Restated.run (restated : session.Restated state others)
    (unmanaged : state ≠ .unmanaged) (removed : state ≠ .removed) (settings : Settings)
    (steps : List (Instant × Action)) :
    List.Forall₂ (Session.Step.Restated state)
      (session.run settings (steps.map fun step => (step.1, step.2.inState state)))
      (others.run settings (steps.map fun step => (step.1, step.2.inState .managed))) := by
  induction steps generalizing session others with
  | nil => exact .nil
  | cons step rest ih =>
    have done := restated.perform unmanaged removed settings step.1 step.2
    exact .cons done (ih done.session)

/-- A text other than the two that change the course names a state that counts as managed. A
document that carries it is read as that state, and a session in which any configuration is in that
state goes on, step by step, as the one in which they are all managed: it reports the same, asks the
store the same with the same answers, writes the same conditions, counts the same deferred
deletions and leaves the same secrets. The log alone is worded in another way. -/
theorem unrecognized_counts_as_managed {value : String} (unmanaged : value ≠ "Unmanaged")
    (removed : value ≠ "Removed") :
    (∀ form, ManagementState.decoder.read form (.str value) = .ok (.ofText value)) ∧
      (value ≠ "Managed" → ManagementState.ofText value = .unrecognized value) ∧
      ∀ (settings : Settings) (session : Session) (steps : List (Instant × Action)),
        List.Forall₂ (Session.Step.Restated (.ofText value))
          ((session.inState (.ofText value)).run settings
            (steps.map fun step => (step.1, step.2.inState (.ofText value))))
          ((session.inState .managed).run settings
            (steps.map fun step => (step.1, step.2.inState .managed))) := by
  have notUnmanaged : ManagementState.ofText value ≠ .unmanaged := by
    intro named
    exact unmanaged (by simpa [named, ManagementState.text] using
      (ManagementState.text_ofText value).symm)
  have notRemoved : ManagementState.ofText value ≠ .removed := by
    intro named
    exact removed (by simpa [named, ManagementState.text] using
      (ManagementState.text_ofText value).symm)
  refine ⟨fun _ => rfl, fun managed => ?_, fun settings session steps => ?_⟩
  · simp [ManagementState.ofText, managed, unmanaged, removed]
  · have restated : (session.inState (.ofText value)).Restated (.ofText value)
        (session.inState .managed) := ⟨.inState session.config _, rfl, rfl⟩
    exact restated.run notUnmanaged notRemoved settings steps

/-- The state is misspelt. A reply to an update is lost, an event meets an upsert, and the deletion
of the replica is put off once before the replica is restored; the gate is passed at the end. -/
theorem misspelt_counts_as_managed :
    let settings : Settings := ⟨"4.1.0", "cluster", 1, 5⟩
    let pull : Secret := { metadata := { name := some "coreos-pull-secret",
                                         space := some "kube-system" } }
    let session : Session :=
      ⟨.new "cluster" { installType := .rhel }, 0, [(.replica, {})], fun _ => []⟩
    let steps : List (Instant × Action) :=
      [(⟨1, 0⟩, .await (some .update) (some (.lost (.api .unreachable)))),
        (⟨2, 0⟩, .handle (.applied pull) 1), (⟨3, 0⟩, .handle (.applied pull) 0),
        (⟨4, 0⟩, .handle (.applied pull) 0), (⟨5, 0⟩, .place .source (some pull)),
        (⟨6, 0⟩, .handle (.removed (pull.replica "4.1.0")) 0),
        (⟨7, 0⟩, .handle (.removed (pull.replica "4.1.0")) 0), (⟨8, 0⟩, .passGate)]
    let misspelt := ManagementState.ofText "managed"
    let run (state : ManagementState) := (session.inState state).run settings
      (steps.map fun step => (step.1, step.2.inState state))
    misspelt ≠ .managed ∧ ("managed" ≠ "Unmanaged" ∧ "managed" ≠ "Removed") ∧
      List.Forall₂ (Session.Step.Restated misspelt) (run misspelt) (run .managed) ∧
      ((run misspelt).map fun step =>
        (step.session.config.condition Config.credentialType).status) =
        [.unknown, .unknown, .unknown, .holds, .holds, .holds, .holds, .holds] ∧
      ((run misspelt).map (·.session.retries)) = [0, 0, 0, 0, 0, 1, 0, 0] := by
  intro settings pull session steps misspelt run
  have unmanaged : "managed" ≠ "Unmanaged" := by decide
  have removed : "managed" ≠ "Removed" := by decide
  obtain ⟨-, -, alike⟩ := unrecognized_counts_as_managed unmanaged removed
  exact ⟨by decide, ⟨unmanaged, removed⟩, alike settings session steps, by decide, by decide⟩

end Session

end PullSecretSync
