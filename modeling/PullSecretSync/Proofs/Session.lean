import PullSecretSync.Proofs.Confinement
import PullSecretSync.Sync.Gate
import PullSecretSync.Sync.Reconcile

/-!
# Sessions

A session keeps a configuration in memory, beside a cluster's secrets, through events and gates,
changes made by others and calls that go wrong. A mishap stands ready for the next call of a kind:
the call may be refused, its reply may be lost, or nothing may be told. Every step leaves what came
of it, the questions asked with their answers, and the session after it.
-/

namespace PullSecretSync

open Sync

/-- What goes wrong with a call. -/
inductive Mishap where
  /-- The call fails and changes nothing. -/
  | refused (error : SyncError)
  /-- The call is carried out, but an error is answered. -/
  | lost (error : SyncError)
  /-- A `get` is told nothing; any other call is carried out. -/
  | silence

/-- The answer to a call that fails. -/
def StoreCall.failed : (call : StoreCall) → SyncError → call.Answer
  | .get _, error => .error error
  | .create _ _, error => .error error
  | .update _ _, error => .error error
  | .delete _, error => .error error

/-- The answer to a call when a `get` is told nothing. -/
def StoreCall.silenced : (call : StoreCall) → call.Answer → call.Answer
  | .get _, _ => .ok none
  | .create _ _, answer => answer
  | .update _ _, answer => answer
  | .delete _, answer => answer

/-- What a session finds around it. -/
structure Surroundings where
  secrets : SecretMap
  /-- What happens to the next calls of each kind, and to the next writings of a status: a mishap,
  or nothing out of the ordinary. -/
  mishaps : Option StoreCall.Kind → List (Option Mishap)

namespace Surroundings

/-- The mishap that stands ready. -/
def mishap (surroundings : Surroundings) (kind : Option StoreCall.Kind) : Option Mishap :=
  (surroundings.mishaps kind).head?.join

/-- A call of a kind is over. -/
def past (surroundings : Surroundings) (kind : Option StoreCall.Kind) : Surroundings :=
  { surroundings with
    mishaps := Function.update surroundings.mishaps kind (surroundings.mishaps kind).tail }

/-- How a store with these secrets answers when something may go wrong. -/
def answerStore (surroundings : Surroundings) (call : StoreCall) : call.Answer × Surroundings :=
  let (answer, secrets) := surroundings.secrets.answer call
  let refused := surroundings.past (some call.kind)
  let carriedOut := { refused with secrets }
  match surroundings.mishap (some call.kind) with
  | none => (answer, carriedOut)
  | some (.refused error) => (call.failed error, refused)
  | some (.lost error) => (call.failed error, carriedOut)
  | some .silence => (call.silenced answer, carriedOut)

/-- How the writing of a status is answered. -/
def answerWrite (surroundings : Surroundings) : Except SyncError Unit :=
  match surroundings.mishap none with
  | some (.refused error) => .error error
  | some (.lost error) => .error error
  | _ => .ok ()

/-- How the surroundings answer. No configuration is kept here. -/
def answer : (question : Call) → Surroundings → question.Answer × Surroundings
  | .store call, surroundings => surroundings.answerStore call
  | .writeStatus _, surroundings => (surroundings.answerWrite, surroundings.past none)
  | .readConfig _, surroundings => (.ok none, surroundings)
  | .readSecret slot, surroundings => (.ok (surroundings.secrets.get? slot), surroundings)
  | .note _, surroundings => ((), surroundings)

end Surroundings

/-- A configuration in memory, the number of deferred deletions, and what is around. -/
structure Session where
  config : Config
  retries : UInt32
  surroundings : Surroundings

/-- What happens in a session. -/
inductive Action where
  /-- An event is handled while some upserts are in flight. -/
  | handle (event : SecretEvent) (inFlight : UInt64)
  /-- The credential is managed for an event. -/
  | manage (event : SecretEvent)
  | passGate
  | setCondition (type : String) (status : ConditionStatus) (message : String)
  | reportError (type : String) (status : ConditionStatus) (message : String)
  /-- Another configuration is followed. -/
  | configure (config : Config)
  /-- Someone else puts a secret into a slot or empties it. -/
  | place (slot : Slot) (content : Option Secret)
  /-- One more call of a kind will meet a mishap, or nothing out of the ordinary. -/
  | await (kind : Option StoreCall.Kind) (mishap : Option Mishap)

/-- What comes of an action. -/
inductive Report where
  | handled (result : Except SyncError Outcome)
  | managed (result : Except SyncError Unit)
  | gated (gate : Gate)
  | done

/-- A step of a session: what came of it, the questions it asked with their answers, and the
session after it. -/
structure Session.Step where
  report : Report
  effects : List Effect
  session : Session

namespace Session

/-- Let a computation ask the surroundings. -/
def ask {α : Type} (session : Session) (x : Sync α) : α × List Effect × Surroundings :=
  x.run Surroundings.answer session.surroundings

/-- Do an action. -/
def perform (settings : Settings) (now : Instant) (session : Session) : Action → Session.Step
  | .handle event inFlight =>
    let (handled, effects, surroundings) := session.ask
      (Sync.handle settings now inFlight session.config session.retries event)
    ⟨.handled handled.result, effects, ⟨handled.config, handled.retries, surroundings⟩⟩
  | .manage event =>
    let (result, effects, surroundings) := session.ask
      (Sync.manage settings.version now session.config event)
    match result with
    | .ok config => ⟨.managed (.ok ()), effects, { session with config, surroundings }⟩
    | .error error => ⟨.managed (.error error), effects, { session with surroundings }⟩
  | .passGate =>
    let ((gate, config), effects, surroundings) := session.ask (Sync.passGate session.config now)
    ⟨.gated gate, effects, { session with config, surroundings }⟩
  | .setCondition type status message =>
    ⟨.done, [], { session with config := session.config.setCondition now type status message }⟩
  | .reportError type status message =>
    ⟨.done, [], { session with config := session.config.reportError now type status message }⟩
  | .configure config => ⟨.done, [], { session with config }⟩
  | .place slot content =>
    let secrets := session.surroundings.secrets.set slot content
    ⟨.done, [], { session with surroundings := { session.surroundings with secrets } }⟩
  | .await kind mishap =>
    let awaited := session.surroundings.mishaps
    let mishaps := Function.update awaited kind (awaited kind ++ [mishap])
    ⟨.done, [], { session with surroundings := { session.surroundings with mishaps } }⟩

/-- Do some actions, each at its time. -/
def run (settings : Settings) (session : Session) : List (Instant × Action) → List Session.Step
  | [] => []
  | (now, action) :: rest =>
    let step := session.perform settings now action
    step :: run settings step.session rest

end Session

end PullSecretSync
