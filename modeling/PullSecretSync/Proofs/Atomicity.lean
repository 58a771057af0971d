import PullSecretSync.Proofs.Contract
import PullSecretSync.Proofs.Session
import PullSecretSync.Proofs.Site

/-!
# Managing the credential is all or nothing

Managing the credential makes up to three calls, any of which may fail. Its writes come last: once
one of them is carried out, nothing that can fail is left to do. Where a call that fails changes
nothing, an error therefore leaves the configuration and the secrets as they were; and where the
store answers by what it holds, the condition tells what the replica's slot holds afterwards.
-/

namespace PullSecretSync

open Sync

/-! ## What a condition leaves alone -/

namespace Config

/-- All conditions but the one that counts for the credential. -/
def besides (config : Config) : List Condition :=
  config.conditions.eraseP (·.type = credentialType)

/-- Two configurations differ in the condition of the credential at most. -/
structure AgreesBesides (config other : Config) : Prop where
  conditions : other.besides = config.besides
  version : (other.status.getD {}).version = (config.status.getD {}).version
  spec : other.spec = config.spec
  metadata : other.metadata = config.metadata

end Config

/-- Setting a condition leaves all but the first of its type alone. -/
theorem Condition.eraseP_setIn (now : Instant) (type : String) (status : ConditionStatus)
    (message : String) (conditions : List Condition) :
    (setIn now type status message conditions).eraseP (·.type = type) =
      conditions.eraseP (·.type = type) := by
  induction conditions with
  | nil => simp [setIn]
  | cons condition rest ih =>
    rw [setIn]
    by_cases same : condition.type = type
    · simp [same, renew]
    · simp [same, ih]

theorem Config.AgreesBesides.refl (config : Config) : config.AgreesBesides config :=
  ⟨rfl, rfl, rfl, rfl⟩

theorem Config.agreesBesides_setCondition (config : Config) (now : Instant)
    (status : ConditionStatus) (message : String) :
    config.AgreesBesides (config.setCondition now credentialType status message) where
  conditions := Condition.eraseP_setIn now credentialType status message config.conditions
  version := rfl
  spec := rfl
  metadata := rfl

/-- Managing the credential sets the condition of the credential at most. -/
theorem Sync.Managing.agreesBesides {version : String} {now : Instant} {config managed : Config}
    {event : SecretEvent} {effects : List Effect}
    (managing : Managing version now config event effects (.ok managed)) :
    config.AgreesBesides managed := by
  cases managing with
  | irrelevant => exact .refl config
  | echoed => exact .refl config
  | untold => exact .refl config
  | restored => exact config.agreesBesides_setCondition now .holds ""
  | copied => exact config.agreesBesides_setCondition now .holds ""
  | orphaned => exact config.agreesBesides_setCondition now .fails ""
  | withdrawn => exact config.agreesBesides_setCondition now .fails ""

/-! ## Calls that fail -/

namespace Sync

/-- The effect changes nothing where a failed call changes nothing: it looks a secret up, or it is
a call that failed. -/
def Effect.Harmless (effect : Effect) : Prop :=
  (∃ slot answer, effect = .store (.get slot) answer) ∨
    ∃ call error, effect = .store call (call.failed error)

variable {version : String} {now : Instant} {config : Config} {event : SecretEvent}
  {secret : Secret} {supplied : Option Secret} {error : SyncError} {effects : List Effect}

theorem Effect.harmless_get (slot : Slot) (answer : Except SyncError (Option Secret)) :
    Harmless (.store (.get slot) answer) := .inl ⟨slot, answer, rfl⟩

theorem Effect.harmless_failed (call : StoreCall) (error : SyncError) :
    Harmless (.store call (call.failed error)) := .inr ⟨call, error, rfl⟩

/-- Where writing the replica fails, none of its calls succeeded. -/
theorem Writing.harmless (writing : Writing version secret effects (.error error)) :
    ∀ effect ∈ effects, effect.Harmless := by
  have created (error : SyncError) : Effect.Harmless (.create version secret (.error error)) :=
    Effect.harmless_failed (.create Slot.replica.space (secret.replica version)) error
  have updated (error : SyncError) : Effect.Harmless (.update version secret (.error error)) :=
    Effect.harmless_failed (.update Slot.replica.space (secret.replica version)) error
  cases writing with
  | refused error other => simpa using created error
  | missed found present error => simpa using ⟨created found, updated error⟩

/-- Where copying the pull secret fails, nothing was written. -/
theorem Copying.harmless (copying : Copying version supplied effects (.error error)) :
    ∀ effect ∈ effects, effect.Harmless := by
  cases copying with
  | given writing => exact writing.harmless
  | fetched writing =>
    exact List.forall_mem_cons.mpr ⟨Effect.harmless_get .source _, writing.harmless⟩
  | unread error => simpa using Effect.harmless_get .source (.error error)

/-- Where managing the credential fails, nothing was written or deleted. -/
theorem Managing.harmless (managing : Managing version now config event effects (.error error)) :
    ∀ effect ∈ effects, effect.Harmless := by
  cases managing with
  | unrestored _ _ copying => exact copying.harmless
  | uncopied _ _ copying => exact copying.harmless
  | kept => exact List.forall_mem_singleton.mpr (Effect.harmless_failed (.delete .replica) error)

end Sync

/-! ## Stores on which a failed call changes nothing -/

/-- A map of secrets is not changed by a call that it fails. -/
theorem SecretMap.answer_of_failed {secrets : SecretMap} {call : StoreCall} {error : SyncError}
    (failed : (secrets.answer call).1 = call.failed error) :
    (secrets.answer call).2 = secrets := by
  cases call with
  | get slot => cases held : secrets.get? slot <;> simp [answer, held]
  | create space secret =>
    cases held : secrets.get? (slotIn space secret) with
    | none => simp [answer, held, StoreCall.failed] at failed
    | some old => simp [answer, held]
  | update space secret =>
    cases held : secrets.get? (slotIn space secret) with
    | none => simp [answer, held]
    | some old => simp [answer, held, StoreCall.failed] at failed
  | delete slot =>
    cases held : secrets.get? slot with
    | none => simp [answer, held]
    | some old => simp [answer, held, StoreCall.failed] at failed

theorem SecretMap.answer_get (secrets : SecretMap) (slot : Slot) :
    (secrets.answer (.get slot)).2 = secrets := by
  cases held : secrets.get? slot <;> simp [answer, held]

namespace Surroundings

/-- No reply will be lost: a call to the store that fails changes nothing. -/
def Atomic (surroundings : Surroundings) : Prop :=
  ∀ kind error, some (.lost error) ∉ surroundings.mishaps (some kind)

variable {surroundings last : Surroundings} {site after : Site} {call : StoreCall}
  {error : SyncError} {effects : List Effect}

theorem Atomic.past (atomic : surroundings.Atomic) (kind : Option StoreCall.Kind) :
    (surroundings.past kind).Atomic := by
  intro other error
  by_cases same : some other = kind
  · subst same
    simp only [Surroundings.past, Function.update_self]
    exact fun waits => atomic other error (List.mem_of_mem_tail waits)
  · simp only [Surroundings.past, Function.update_of_ne same]
    exact atomic other error

/-- What can go wrong with a call where no reply is lost: it fails and changes nothing, or it is
carried out, and a lookup may be told nothing. -/
theorem Atomic.answerStore_cases (atomic : surroundings.Atomic) (call : StoreCall) :
    (∃ error, surroundings.answerStore call =
        (call.failed error, surroundings.past (some call.kind))) ∨
      (∃ answer, surroundings.answerStore call = (answer,
          { surroundings.past (some call.kind) with
            secrets := (surroundings.secrets.answer call).2 }) ∧
        (answer = (surroundings.secrets.answer call).1 ∨
          answer = call.silenced (surroundings.secrets.answer call).1)) := by
  unfold answerStore
  cases ready : surroundings.mishap (some call.kind) with
  | none => exact .inr ⟨_, rfl, .inl rfl⟩
  | some mishap =>
    cases mishap with
    | refused error => exact .inl ⟨error, rfl⟩
    | silence => exact .inr ⟨_, rfl, .inr rfl⟩
    | lost error =>
      have waits : some (.lost error) ∈ surroundings.mishaps (some call.kind) := by
        rw [mishap, Option.join_eq_some_iff] at ready
        exact List.mem_of_head? ready
      exact absurd waits (atomic call.kind error)

theorem Atomic.answerStore (atomic : surroundings.Atomic) (call : StoreCall) :
    (surroundings.answerStore call).2.Atomic := by
  rcases atomic.answerStore_cases call with ⟨error, refused⟩ | ⟨answer, carriedOut, -⟩
  · rw [refused]
    exact atomic.past (some call.kind)
  · rw [carriedOut]
    exact atomic.past (some call.kind)

/-- A call that fails changes nothing. -/
theorem Atomic.secrets_of_failed (atomic : surroundings.Atomic)
    (failed : (surroundings.answerStore call).1 = call.failed error) :
    (surroundings.answerStore call).2.secrets = surroundings.secrets := by
  rcases atomic.answerStore_cases call with ⟨other, refused⟩ | ⟨answer, carriedOut, told⟩
  · rw [refused]
    rfl
  · rw [carriedOut] at failed ⊢
    cases call with
    | get slot => exact surroundings.secrets.answer_get slot
    | _ =>
      have same : answer = (surroundings.secrets.answer _).1 := told.elim id id
      exact SecretMap.answer_of_failed (same ▸ failed)

theorem Atomic.secrets_of_get (atomic : surroundings.Atomic) (slot : Slot) :
    (surroundings.answerStore (.get slot)).2.secrets = surroundings.secrets := by
  rcases atomic.answerStore_cases (.get slot) with ⟨error, refused⟩ | ⟨answer, carriedOut, -⟩
  · rw [refused]
    rfl
  · rw [carriedOut]
    exact surroundings.secrets.answer_get slot

/-- A call that is answered by what the store holds does what it does to a store that is left
alone. -/
theorem Atomic.secrets_of_truthful (atomic : surroundings.Atomic)
    (truthful : (surroundings.answerStore call).1 = (surroundings.secrets.answer call).1) :
    (surroundings.answerStore call).2.secrets = (surroundings.secrets.answer call).2 := by
  rcases atomic.answerStore_cases call with ⟨error, refused⟩ | ⟨answer, carriedOut, -⟩
  · rw [refused] at truthful ⊢
    exact (SecretMap.answer_of_failed truthful.symm).symm
  · rw [carriedOut]

/-- Harmless effects leave the secrets as they were. -/
theorem Atomic.secrets_of_harmless (atomic : surroundings.Atomic)
    (served : Serves answer surroundings effects last)
    (harmless : ∀ effect ∈ effects, effect.Harmless) : last.secrets = surroundings.secrets := by
  induction effects generalizing surroundings with
  | nil => rw [serves_nil_iff.mp served]
  | cons effect effects ih =>
    obtain ⟨first, later⟩ := List.forall_mem_cons.mp harmless
    rcases first with ⟨slot, reply, rfl⟩ | ⟨call, error, rfl⟩
    · obtain ⟨-, served⟩ := serves_cons_iff.mp served
      exact (ih (atomic.answerStore _) served later).trans (atomic.secrets_of_get slot)
    · obtain ⟨failed, served⟩ := serves_cons_iff.mp served
      exact (ih (atomic.answerStore _) served later).trans (atomic.secrets_of_failed failed.symm)

/-- Calls that are answered as at a site leave the secrets as at the site: each call finds the same
secrets on both sides, and leaves the same. -/
theorem Atomic.secrets_eq_site (atomic : surroundings.Atomic)
    (served : Serves answer surroundings effects last)
    (truthful : Serves Site.answer site effects after)
    (stores : ∀ effect ∈ effects, effect.IsStore)
    (same : surroundings.secrets = site.secrets) : last.secrets = after.secrets := by
  induction effects generalizing surroundings site with
  | nil => rw [serves_nil_iff.mp served, serves_nil_iff.mp truthful, same]
  | cons effect effects ih =>
    obtain ⟨first, later⟩ := List.forall_mem_cons.mp stores
    obtain ⟨call, reply, rfl⟩ := first
    obtain ⟨told, served⟩ := serves_cons_iff.mp served
    obtain ⟨held, truthful⟩ := serves_cons_iff.mp truthful
    have answered : (surroundings.answerStore call).1 = (surroundings.secrets.answer call).1 := by
      rw [same]
      exact told.symm.trans held
    refine ih (atomic.answerStore call) served truthful later ?_
    exact (atomic.secrets_of_truthful answered).trans (by rw [same]; rfl)

end Surroundings

/-- Entries in the log do not matter to what a state serves. -/
theorem Sync.serves_loud_iff {σ : Type} {answer : (question : Call) → σ → question.Answer × σ}
    (quiet : ∀ entry state, answer (.note entry) state = ((), state)) {state last : σ}
    {exchanges : List Effect} :
    Serves answer state (loud exchanges) last ↔ Serves answer state exchanges last := by
  induction exchanges generalizing state with
  | nil => rfl
  | cons exchange exchanges ih =>
    obtain ⟨question, reply⟩ := exchange
    cases question with
    | note entry =>
      rw [serves_cons_iff, quiet]
      exact ih.trans (and_iff_right rfl).symm
    | _ =>
      rw [loud_cons rfl, serves_cons_iff, serves_cons_iff]
      exact and_congr_right fun _ => ih

/-! ## Managing the credential -/

namespace Session

/-- The store answered every call by what it held. -/
def Truthful (session : Session) (exchanges : List Effect) : Prop :=
  ∃ after, Serves Site.answer ⟨session.surroundings.secrets, session.config, []⟩ exchanges after

/-- How it stands with the replica and with the condition after the credential was managed for an
event, given the secrets that were there before. Where the replica's slot holds a copy, it has all
the content of the secret that was copied, and the stamp of the version. -/
def Manifests (session : Session) (version : String) (event : SecretEvent) (secrets : SecretMap) :
    Prop :=
  match event.secret.role?, event.deleted with
  | some .source, false =>
    session.surroundings.secrets.HoldsReplica event.secret version ∧
      session.config.standing = (.holds, "")
  | some .source, true =>
    session.surroundings.secrets.get? .replica = none ∧ session.config.standing = (.fails, "")
  | some .replica, true =>
    match secrets.get? .source with
    | some secret =>
      session.surroundings.secrets.HoldsReplica secret version ∧
        session.config.standing = (.holds, "")
    | none => session.surroundings.secrets = secrets ∧ session.config.standing = (.fails, "")
  | _, _ => True

/-- A step of a session managed the credential for an event all or nothing. -/
structure Step.Manages (step : Step) (session : Session) (version : String) (event : SecretEvent) :
    Prop where
  managed : ∃ result, step.report = .managed result
  /-- After an error everything is as it was. -/
  undone : ∀ error, step.report = .managed (.error error) →
    step.session.config = session.config ∧
      step.session.surroundings.secrets = session.surroundings.secrets
  /-- A store that tells the truth leads to a success that tells the truth. -/
  manifest : session.Truthful step.effects →
    step.report = .managed (.ok ()) ∧
      step.session.Manifests version event session.surroundings.secrets
  /-- Nothing happens for other secrets, or when the replica was created or changed. -/
  idle : event.secret.role? = none ∨ event.secret.role? = some .replica ∧ event.deleted = false →
    step = ⟨.managed (.ok ()), [], session⟩
  besides : session.config.AgreesBesides step.session.config
  retries : step.session.retries = session.retries

variable {settings : Settings} {now : Instant} {session : Session} {event : SecretEvent}
  {version : String}

/-- The secrets that follow an event and the verdict on it are manifest. -/
theorem manifests_of_follow {secrets : SecretMap} {config : Config}
    (held : session.surroundings.secrets = secrets.follow version event)
    (found : session.config = match secrets.finding event with
      | some verdict => config.record now verdict
      | none => config) : session.Manifests version event secrets := by
  unfold Manifests
  simp only [SecretMap.holdsReplica_iff]
  rw [held, found]
  cases role : event.secret.role? with
  | none => trivial
  | some part =>
    cases part with
    | source =>
      cases deleted : event.deleted with
      | false =>
        simp [SecretMap.follow, SecretMap.finding, role, deleted, Verdict.status, Verdict.message]
      | true =>
        simp [SecretMap.follow, SecretMap.finding, role, deleted, Verdict.status, Verdict.message]
    | replica =>
      cases deleted : event.deleted with
      | false => trivial
      | true =>
        cases source : secrets.get? .source with
        | none =>
          simp [SecretMap.follow, SecretMap.finding, role, deleted, source, Verdict.status,
            Verdict.message]
        | some secret =>
          simp [SecretMap.follow, SecretMap.finding, role, deleted, source, Verdict.status,
            Verdict.message]

/-- What is asked in a session is a course that its surroundings serve. -/
theorem course_ask {α : Type} (session : Session) (x : Sync α) :
    Leads x (loud (session.ask x).2.1) (session.ask x).1 ∧
      Serves Surroundings.answer session.surroundings (loud (session.ask x).2.1)
        (session.ask x).2.2 :=
  leads_loud (fun _ _ => rfl) x session.surroundings

/-- Managing the credential reports an error and keeps the configuration, or it reports success
with the configuration that it made. -/
theorem perform_manage {result : Except SyncError Config} {exchanges : List Effect}
    {around : Surroundings}
    (asked : session.ask (Sync.manage settings.version now session.config event) =
      (result, exchanges, around)) :
    session.perform settings now (.manage event) =
      ⟨.managed (result.map fun _ => ()), exchanges,
        ⟨result.toOption.getD session.config, session.retries, around⟩⟩ := by
  rw [perform, asked]
  cases result <;> rfl

/-- **All or nothing.** Where a call to the store that fails changes nothing, managing the
credential either fails and changes nothing, or it succeeds. If the store answered by what it holds
it succeeds, and then the condition tells what the replica's slot holds. -/
theorem manages_of_atomic (settings : Settings) (now : Instant) (session : Session)
    (event : SecretEvent) (atomic : session.surroundings.Atomic) :
    (session.perform settings now (.manage event)).Manages session settings.version event := by
  have course := session.course_ask (Sync.manage settings.version now session.config event)
  obtain ⟨⟨result, exchanges, around⟩, asked⟩ :
      ∃ run, session.ask (Sync.manage settings.version now session.config event) = run :=
    ⟨_, rfl⟩
  rw [asked] at course
  obtain ⟨leads, served⟩ := course
  have managing := leads_manage_iff.mp leads
  have performed := perform_manage asked
  rw [performed]
  exact {
    managed := ⟨_, rfl⟩
    undone := by
      intro error failed
      cases result with
      | ok config => simp [Except.map] at failed
      | error other => exact ⟨rfl, atomic.secrets_of_harmless served managing.harmless⟩
    manifest := by
      rintro ⟨after, truthful⟩
      have answeredAsAtSite := (serves_loud_iff fun _ _ => rfl).mpr truthful
      have same : around.secrets = after.secrets :=
        atomic.secrets_eq_site served answeredAsAtSite (fun _ asked => managing.isStore asked) rfl
      obtain ⟨rfl, rfl⟩ := Site.serves_managing answeredAsAtSite managing
      exact ⟨rfl, manifests_of_follow same rfl⟩
    idle := by
      intro unconcerned
      rw [← performed]
      have unasked : Sync.manage settings.version now session.config event =
          .done (.ok session.config) := by
        unfold Sync.manage
        rcases unconcerned with role | ⟨role, deleted⟩
        · simp [role]
        · simp [role, deleted]
      simp [perform, ask, unasked]
    besides := by
      cases result with
      | ok config => exact managing.agreesBesides
      | error error => exact .refl session.config
    retries := rfl }

/-- The replica was deleted and is there again when it is to be restored. If the update is refused
everything stays as it was; otherwise the store tells the truth, and the replica is overwritten. -/
theorem manages_refused_update :
    let settings : Settings := ⟨"4.1.0", "cluster", 1, 5⟩
    let pull : Secret := { metadata := { name := some "coreos-pull-secret",
                                         space := some "kube-system" } }
    let refusal : Option Mishap := some (.refused (.api .unreachable))
    let session (updates : List (Option Mishap)) : Session :=
      ⟨.new "cluster" {}, 0, [(.source, pull), (.replica, {})],
        fun kind => if kind = some .update then updates else []⟩
    let step (updates : List (Option Mishap)) : Step :=
      (session updates).perform settings ⟨1, 0⟩ (.manage (.removed (pull.replica "4.1.0")))
    ((session [refusal]).surroundings.Atomic ∧ (session []).surroundings.Atomic) ∧
      (step [refusal]).Manages (session [refusal]) "4.1.0" (.removed (pull.replica "4.1.0")) ∧
      (step [refusal]).report = .managed (.error (.api .unreachable)) ∧
      (step []).Manages (session []) "4.1.0" (.removed (pull.replica "4.1.0")) ∧
      (session []).Truthful (step []).effects := by
  intro settings pull refusal session step
  have refusing : (session [refusal]).surroundings.Atomic := by
    intro kind error lost
    by_cases same : some kind = some StoreCall.Kind.update
    · simp [session, refusal, same] at lost
    · simp [session, same] at lost
  have calm : (session []).surroundings.Atomic := by
    intro kind error lost
    simp [session] at lost
  have truthful : (session []).Truthful (step []).effects :=
    ⟨_, .cons (.cons (.cons (.cons (.cons (.nil _)))))⟩
  exact ⟨⟨refusing, calm⟩, manages_of_atomic settings _ _ _ refusing, rfl,
    manages_of_atomic settings _ _ _ calm, truthful⟩

end Session

end PullSecretSync
