import PullSecretSync.Proofs.Agreement
import PullSecretSync.Proofs.Session

/-!
# What secrets hold stays inside

Two sessions that are the same when sealed, and in which the same happens when sealed, cannot be
told apart: every step reports the same, leaves the same entries in the log and asks for the same,
but for what the secrets hold; and no configuration, in memory or written, differs but in the times
at which its conditions were set.
-/

namespace PullSecretSync

open Sync Interaction

/-! ## Sealed sessions -/

/-- The slots with sealed secrets. -/
def SecretMap.sealed (secrets : SecretMap) : SecretMap :=
  secrets.map fun (slot, secret) => (slot, secret.sealed)

/-- An action that tells nothing of what secrets hold. -/
def Action.sealed : Action → Action
  | .handle event inFlight => .handle event.sealed inFlight
  | .manage event => .manage event.sealed
  | .place slot content => .place slot (content.map Secret.sealed)
  | action => action

/-- A session with sealed secrets. -/
def Session.sealed (session : Session) : Session :=
  { session with
    surroundings := { session.surroundings with secrets := session.surroundings.secrets.sealed } }

section Agreement

variable (Times : Instant → Instant → Prop)

/-- Two surroundings differ at most in what secrets hold. -/
structure Surroundings.Agrees (surroundings other : Surroundings) : Prop where
  secrets : surroundings.secrets.sealed = other.secrets.sealed
  mishaps : surroundings.mishaps = other.mishaps

/-- Two sessions differ at most in what secrets hold and in the times of conditions. -/
structure Session.Agrees (session other : Session) : Prop where
  config : session.config.Agrees Times other.config
  retries : session.retries = other.retries
  surroundings : session.surroundings.Agrees other.surroundings

/-- Two steps differ at most in what secrets hold and in the times of conditions. -/
structure Session.Step.Agrees (step other : Session.Step) : Prop where
  report : step.report = other.report
  effects : List.Forall₂ (Effect.Agrees Times) step.effects other.effects
  session : step.session.Agrees Times other.session

end Agreement

/-- Two times are the same, or the times of the same action in two sessions. -/
def Simultaneous (steps others : List (Instant × Action)) (time other : Instant) : Prop :=
  time = other ∨ (time, other) ∈ (steps.map (·.1)).zip (others.map (·.1))

variable {Times : Instant → Instant → Prop} {now now' : Instant}

/-- Secrets that agree are written to the same slot. -/
theorem Secret.Agrees.slotIn {secret secret' : Secret} (agrees : secret.Agrees secret')
    (space : String) :
    SecretMap.slotIn space secret = SecretMap.slotIn space secret' := by
  rw [SecretMap.slotIn, SecretMap.slotIn, displayName, displayName, agrees.metadata]

/-! ## Surroundings -/

namespace SecretMap

variable {secrets others : SecretMap}

theorem get?_sealed (secrets : SecretMap) (slot : Slot) :
    secrets.sealed.get? slot = (secrets.get? slot).map Secret.sealed := by
  induction secrets with
  | nil => rfl
  | cons head rest ih =>
    have cons : sealed (head :: rest) = (head.1, head.2.sealed) :: sealed rest := rfl
    rw [cons, get?_cons, get?_cons, ih]
    split <;> rfl

theorem sealed_put (secrets : SecretMap) (slot : Slot) (secret : Secret) :
    (secrets.put slot secret).sealed = secrets.sealed.put slot secret.sealed := by
  induction secrets with
  | nil => rfl
  | cons head rest ih =>
    obtain ⟨place, old⟩ := head
    have cons : sealed ((place, old) :: rest) = (place, old.sealed) :: sealed rest := rfl
    rw [cons, put, put, ← ih]
    split
    · rfl
    · split <;> rfl

theorem sealed_erase (secrets : SecretMap) (slot : Slot) :
    (secrets.erase slot).sealed = secrets.sealed.erase slot := by
  rw [erase, erase, sealed, sealed, List.filter_map]
  rfl

theorem sealed_set (secrets : SecretMap) (slot : Slot) (content : Option Secret) :
    (secrets.set slot content).sealed = secrets.sealed.set slot (content.map Secret.sealed) := by
  cases content with
  | none => exact sealed_erase secrets slot
  | some secret => exact sealed_put secrets slot secret

/-- A slot is empty on both sides, or holds secrets that agree. -/
theorem get?_cases (same : secrets.sealed = others.sealed) (slot : Slot) :
    (secrets.get? slot = none ∧ others.get? slot = none) ∨
      ∃ secret other, secrets.get? slot = some secret ∧ others.get? slot = some other ∧
        secret.Agrees other := by
  have found := get?_sealed secrets slot
  rw [same, get?_sealed] at found
  cases here : secrets.get? slot with
  | none =>
    rw [here] at found
    exact .inl ⟨rfl, Option.map_eq_none_iff.mp found⟩
  | some secret =>
    rw [here] at found
    obtain ⟨other, there, agrees⟩ := Option.map_eq_some_iff.mp found
    exact .inr ⟨secret, other, rfl, there, agrees.symm⟩

/-- Maps that agree when sealed answer calls that agree alike, and agree again. -/
theorem agrees_answer {call call' : StoreCall}
    (asks : Call.Agrees Times (.store call) (.store call'))
    (same : secrets.sealed = others.sealed) :
    Effect.Agrees Times (.store call (secrets.answer call).1)
        (.store call' (others.answer call').1) ∧
      (secrets.answer call).2.sealed = (others.answer call').2.sealed := by
  cases asks with
  | get slot =>
    rcases get?_cases same slot with ⟨here, there⟩ | ⟨secret, other, here, there, agrees⟩
    · simp only [answer, here, there]
      exact ⟨.get _ (.error _), same⟩
    · simp only [answer, here, there]
      exact ⟨.get _ (.ok (.some agrees)), same⟩
  | @create space secret other agrees =>
    have slots := agrees.slotIn space
    rcases get?_cases same (slotIn space other) with ⟨here, there⟩ | ⟨_, _, here, there, -⟩
    · simp only [answer, slots, here, there, sealed_put, same]
      exact ⟨.create _ agrees (.ok agrees), congrArg _ agrees⟩
    · simp only [answer, slots, here, there]
      exact ⟨.create _ agrees (.error _), same⟩
  | @update space secret other agrees =>
    have slots := agrees.slotIn space
    rcases get?_cases same (slotIn space other) with ⟨here, there⟩ | ⟨_, _, here, there, -⟩
    · simp only [answer, slots, here, there]
      exact ⟨.update _ agrees (.error _), same⟩
    · simp only [answer, slots, here, there, sealed_put, same]
      exact ⟨.update _ agrees (.ok agrees), congrArg _ agrees⟩
  | delete slot =>
    rcases get?_cases same slot with ⟨here, there⟩ | ⟨secret, other, here, there, agrees⟩
    · simp only [answer, here, there]
      exact ⟨.delete _ _, same⟩
    · simp only [answer, here, there, sealed_erase, same]
      exact ⟨.delete _ _, trivial⟩

end SecretMap

namespace Surroundings

variable {surroundings others : Surroundings}

theorem Agrees.past (agrees : surroundings.Agrees others) (kind : Option StoreCall.Kind) :
    (surroundings.past kind).Agrees (others.past kind) where
  secrets := agrees.secrets
  mishaps := by rw [Surroundings.past, Surroundings.past, agrees.mishaps]

theorem Agrees.mishap (agrees : surroundings.Agrees others) (kind : Option StoreCall.Kind) :
    surroundings.mishap kind = others.mishap kind := by
  rw [Surroundings.mishap, Surroundings.mishap, agrees.mishaps]

/-- Calls that fail with the same error, or of which a `get` is told nothing, agree. -/
theorem agrees_failed {call call' : StoreCall}
    (asks : Call.Agrees Times (.store call) (.store call')) (error : SyncError) :
    Effect.Agrees Times (.store call (call.failed error)) (.store call' (call'.failed error)) := by
  cases asks with
  | get slot => exact .get slot (.error error)
  | create space agrees => exact .create space agrees (.error error)
  | update space agrees => exact .update space agrees (.error error)
  | delete slot => exact .delete slot _

theorem agrees_silenced {call call' : StoreCall} {answer : call.Answer} {reply : call'.Answer}
    (meets : Effect.Agrees Times (.store call answer) (.store call' reply)) :
    Effect.Agrees Times (.store call (call.silenced answer))
      (.store call' (call'.silenced reply)) := by
  cases meets with
  | get slot => exact .get slot (.ok .none)
  | create space agrees answers => exact .create space agrees answers
  | update space agrees answers => exact .update space agrees answers
  | delete slot answer => exact .delete slot answer

/-- Questions that agree are of the same kind. -/
theorem kind_of_agrees {call call' : StoreCall}
    (asks : Call.Agrees Times (.store call) (.store call')) : call.kind = call'.kind := by
  cases asks <;> rfl

theorem Agrees.answerStore (agrees : surroundings.Agrees others) {call call' : StoreCall}
    (asks : Call.Agrees Times (.store call) (.store call')) :
    Effect.Agrees Times (.store call (surroundings.answerStore call).1)
        (.store call' (others.answerStore call').1) ∧
      (surroundings.answerStore call).2.Agrees (others.answerStore call').2 := by
  obtain ⟨meets, secrets⟩ := SecretMap.agrees_answer asks agrees.secrets
  have refused := agrees.past (some call'.kind)
  simp only [Surroundings.answerStore, kind_of_agrees asks, agrees.mishap]
  cases others.mishap (some call'.kind) with
  | none => exact ⟨meets, secrets, refused.mishaps⟩
  | some mishap =>
    cases mishap with
    | refused error => exact ⟨agrees_failed asks error, refused⟩
    | lost error => exact ⟨agrees_failed asks error, secrets, refused.mishaps⟩
    | silence => exact ⟨agrees_silenced meets, secrets, refused.mishaps⟩

/-- Surroundings that agree answer alike. -/
theorem attuned : Parallel.Attuned (unsealing Times) answer answer Surroundings.Agrees := by
  intro question other asks surroundings others agrees
  cases asks with
  | get slot => exact agrees.answerStore (.get slot)
  | create space secrets => exact agrees.answerStore (.create space secrets)
  | update space secrets => exact agrees.answerStore (.update space secrets)
  | delete slot => exact agrees.answerStore (.delete slot)
  | note entry => exact ⟨.note entry, agrees⟩
  | writeStatus configs =>
    have written : surroundings.answerWrite = others.answerWrite := by
      rw [answerWrite, answerWrite, agrees.mishap]
    simp only [answer, written]
    exact ⟨.writeStatus configs _, agrees.past none⟩

end Surroundings

/-! ## Sessions -/

namespace Session

variable {session others : Session} {action action' : Action}

theorem agrees_of_sealed (refl : ∀ time, Times time time)
    (same : session.sealed = others.sealed) : session.Agrees Times others where
  config := by
    have configs : session.config = others.config := congrArg (·.config) same
    rw [configs]
    exact .refl refl _
  retries := by
    have retries : session.sealed.retries = others.sealed.retries := congrArg (·.retries) same
    exact retries
  surroundings := by
    have around : session.sealed.surroundings = others.sealed.surroundings :=
      congrArg (·.surroundings) same
    exact ⟨congrArg (·.secrets) around, congrArg (·.mishaps) around⟩

/-- Parallel computations leave both sessions alike. -/
theorem Agrees.ask {α β : Type} {Ends : α → β → Prop} {x : Sync α} {y : Sync β}
    (agrees : session.Agrees Times others) (parallel : Parallel (unsealing Times) Ends x y) :
    Ends (session.ask x).1 (others.ask y).1 ∧
      List.Forall₂ (Effect.Agrees Times) (session.ask x).2.1 (others.ask y).2.1 ∧
      (session.ask x).2.2.Agrees (others.ask y).2.2 :=
  parallel.run Surroundings.attuned agrees.surroundings

/-- The same action, when sealed, is done alike. Sealing leaves the kind of an action, so only
actions of one kind have to be compared. -/
theorem Agrees.perform (agrees : session.Agrees Times others) (settings : Settings)
    (refl : ∀ time, Times time time) (times : Times now now')
    (same : action.sealed = action'.sealed) :
    (session.perform settings now action).Agrees Times
      (others.perform settings now' action') := by
  have configs := agrees.config
  have retries := agrees.retries
  have around := agrees.surroundings
  cases action with
  | handle event inFlight =>
    cases action' with
    | handle event' inFlight' =>
      obtain ⟨events, rfl⟩ := Action.handle.inj same
      rw [Session.perform, Session.perform, ← retries]
      obtain ⟨handled, effects, after⟩ :=
        agrees.ask (parallel_handle settings inFlight session.retries events configs times)
      exact ⟨congrArg Report.handled handled.result, effects, handled.config, handled.retries,
        after⟩
    | _ => cases same
  | manage event =>
    cases action' with
    | manage event' =>
      have managed := agrees.ask
        (parallel_manage (Action.manage.inj same) configs times settings.version)
      rw [Session.perform, Session.perform]
      generalize session.ask _ = asked, others.ask _ = asked' at managed ⊢
      obtain ⟨result, effects, after⟩ := asked
      obtain ⟨result', effects', after'⟩ := asked'
      obtain ⟨likewise, effects, after⟩ := managed
      cases likewise with
      | ok managed => exact ⟨rfl, effects, managed, retries, after⟩
      | error => exact ⟨rfl, effects, configs, retries, after⟩
    | _ => cases same
  | passGate =>
    cases action' with
    | passGate =>
      obtain ⟨⟨gates, configs⟩, effects, after⟩ := agrees.ask (parallel_passGate configs times)
      exact ⟨congrArg Report.gated gates, effects, configs, retries, after⟩
    | _ => cases same
  | setCondition type status message =>
    cases action' with
    | setCondition =>
      cases same
      exact ⟨rfl, .nil, configs.setCondition times, retries, around⟩
    | _ => cases same
  | reportError type status message =>
    cases action' with
    | reportError =>
      cases same
      exact ⟨rfl, .nil, configs.reportError times, retries, around⟩
    | _ => cases same
  | configure config =>
    cases action' with
    | configure =>
      cases same
      exact ⟨rfl, .nil, .refl refl config, retries, around⟩
    | _ => cases same
  | place slot content =>
    cases action' with
    | place slot' content' =>
      obtain ⟨rfl, contents⟩ := Action.place.inj same
      have secrets : (session.surroundings.secrets.set slot content).sealed =
          (others.surroundings.secrets.set slot content').sealed := by
        rw [SecretMap.sealed_set, SecretMap.sealed_set, around.secrets, contents]
      exact ⟨rfl, .nil, configs, retries, secrets, around.mishaps⟩
    | _ => cases same
  | await kind mishap =>
    cases action' with
    | await =>
      cases same
      refine ⟨rfl, .nil, configs, retries, around.secrets, ?_⟩
      simp only [Session.perform, around.mishaps]
    | _ => cases same

variable {steps steps' : List (Instant × Action)}

/-- The same actions, when sealed, are done alike at times that are paired. -/
theorem Agrees.run (agrees : session.Agrees Times others) (settings : Settings)
    (refl : ∀ time, Times time time)
    (alike : List.Forall₂ (fun step step' => Times step.1 step'.1 ∧ step.2.sealed = step'.2.sealed)
      steps steps') :
    List.Forall₂ (Session.Step.Agrees Times) (session.run settings steps)
      (others.run settings steps') := by
  induction alike generalizing session others with
  | nil => exact .nil
  | cons step rest ih =>
    have done := agrees.perform settings refl step.1 step.2
    exact .cons done (ih done.session)

/-- The same actions are done at times that are paired. -/
theorem forall₂_simultaneous (same : steps.map (·.2.sealed) = steps'.map (·.2.sealed)) :
    List.Forall₂ (fun step step' =>
      Simultaneous steps steps' step.1 step'.1 ∧ step.2.sealed = step'.2.sealed) steps steps' := by
  rw [← List.forall₂_eq_eq_eq, List.forall₂_map_left_iff, List.forall₂_map_right_iff,
    List.forall₂_iff_zip] at same
  obtain ⟨length, same⟩ := same
  rw [List.forall₂_iff_zip]
  refine ⟨length, fun paired => ⟨.inr ?_, same paired⟩⟩
  rw [List.zip_map]
  exact List.mem_map_of_mem paired

/-- Two sessions that are the same when sealed, and in which the same happens when sealed, go on
alike: they report the same, leave the same entries in the log, ask for the same, and have the same
configurations and secrets, but for what the secrets hold and for the times of conditions. -/
theorem indistinguishable {settings : Settings} (sessions : session.sealed = others.sealed)
    (actions : steps.map (·.2.sealed) = steps'.map (·.2.sealed)) :
    List.Forall₂ (Session.Step.Agrees (Simultaneous steps steps')) (session.run settings steps)
      (others.run settings steps') := by
  have same (time : Instant) : Simultaneous steps steps' time time := .inl rfl
  have agrees := agrees_of_sealed same sessions
  exact agrees.run settings same (forall₂_simultaneous actions)

/-- An update is lost, and a deleted replica comes back from the store: the two sessions hold other
bytes all the while, and nothing tells. -/
theorem indistinguishable_after_lost_reply :
    let settings : Settings := ⟨"4.1.0", "cluster", 0, 5⟩
    let pull (bytes : List UInt8) : Secret :=
      { metadata := { name := some "coreos-pull-secret", space := some "kube-system" }
        data := some [(".dockerconfigjson", bytes)] }
    let session (bytes : List UInt8) : Session :=
      { config := .new "cluster" {}
        retries := 0
        surroundings := {
          secrets := [(.source, pull bytes), (.replica, {})]
          mishaps := fun _ => [] } }
    let steps (bytes : List UInt8) (start : Int) : List (Instant × Action) :=
      [(⟨start, 0⟩, .await (some .update) (some (.lost (.api .unreachable)))),
        (⟨start + 1, 0⟩, .handle (.applied (pull bytes)) 0),
        (⟨start + 2, 0⟩, .place .replica none),
        (⟨start + 3, 0⟩, .handle (.removed ((pull bytes).replica "4.1.0")) 0)]
    let run (bytes : List UInt8) (start : Int) := (session bytes).run settings (steps bytes start)
    (session [1]).sealed = (session [2]).sealed ∧
      (steps [1] 10).map (·.2.sealed) = (steps [2] 20).map (·.2.sealed) ∧
      List.Forall₂ (Step.Agrees (Simultaneous (steps [1] 10) (steps [2] 20))) (run [1] 10)
        (run [2] 20) ∧
      ((run [1] 10).map fun step =>
        (step.session.surroundings.secrets.get? .replica).bind (·.data)) =
        [none, some [(".dockerconfigjson", [1])], none, some [(".dockerconfigjson", [1])]] := by
  intro settings pull session steps run
  exact ⟨rfl, rfl, indistinguishable rfl rfl, by decide⟩

end Session

end PullSecretSync
