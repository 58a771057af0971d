import PullSecretSync.Proofs.Managing
import PullSecretSync.Proofs.Role
import PullSecretSync.Proofs.SecretMap

/-!
# A cluster that answers

The surroundings of the synchronisation as one state: the secrets, the configuration, and for each
of the two slots the events that its watch has not delivered yet. The store answers according to
what the slots hold, reading succeeds, and the writing of a status succeeds or is refused because
of a conflict. Every change of a slot gives rise to an event; an update that changes nothing need
not.
-/

namespace PullSecretSync

open Sync

/-- The surroundings of the synchronisation. -/
structure Cluster where
  secrets : SecretMap := []
  config : Config
  /-- What has happened to each slot and was not delivered yet, oldest first. -/
  feed : Role → List SecretEvent := fun _ => []

namespace Cluster

/-- Have an event on a slot delivered, if the slot is watched. -/
def tell (cluster : Cluster) (slot : Slot) (event : SecretEvent) : Cluster :=
  { cluster with feed := fun role =>
      if slot.role? = some role then cluster.feed role ++ [event] else cluster.feed role }

/-- Write a secret into a slot. -/
def put (cluster : Cluster) (slot : Slot) (secret : Secret) : Cluster :=
  { cluster with secrets := cluster.secrets.put slot secret }.tell slot (.applied secret)

/-- Empty a slot. -/
def erase (cluster : Cluster) (slot : Slot) : Cluster :=
  match cluster.secrets.get? slot with
  | some secret =>
    { cluster with secrets := cluster.secrets.erase slot }.tell slot (.removed secret)
  | none => cluster

/-- The cluster after the store was asked. -/
def after (cluster : Cluster) : StoreCall → Cluster
  | .get _ => cluster
  | .create space secret =>
    if (cluster.secrets.get? (SecretMap.slotIn space secret)).isSome then cluster
    else cluster.put (SecretMap.slotIn space secret) secret
  | .update space secret =>
    if (cluster.secrets.get? (SecretMap.slotIn space secret)).isSome then
      cluster.put (SecretMap.slotIn space secret) secret
    else cluster
  | .delete slot => cluster.erase slot

/-- Write the status of a configuration. -/
def record (cluster : Cluster) (config : Config) : Cluster :=
  { cluster with config := { cluster.config with status := config.status } }

/-- The cluster answers a question and becomes another. -/
inductive Answers : Cluster → Effect → Cluster → Prop
  | store {cluster : Cluster} (call : StoreCall) :
      Answers cluster (.store call (cluster.secrets.answer call).1) (cluster.after call)
  /-- An update that changes nothing is not told. -/
  | rewritten {cluster : Cluster} {space : String} {secret : Secret}
      (same : cluster.secrets.get? (SecretMap.slotIn space secret) = some secret) :
      Answers cluster (.store (.update space secret) (.ok secret)) cluster
  | written {cluster : Cluster} (config : Config) :
      Answers cluster (.writeStatus config (.ok ())) (cluster.record config)
  | contested {cluster : Cluster} (config : Config) (name : String) :
      Answers cluster (.writeStatus config (.error (.conflict name))) cluster
  | readConfig {cluster : Cluster} (name : String) :
      Answers cluster (.readConfig name (.ok (some cluster.config))) cluster
  | readSecret {cluster : Cluster} (slot : Slot) :
      Answers cluster (.readSecret slot (.ok (cluster.secrets.get? slot))) cluster

/-- The cluster answers some questions in order. -/
inductive Exchanges : Cluster → List Effect → Cluster → Prop
  | nil (cluster : Cluster) : Exchanges cluster [] cluster
  | cons {cluster next last : Cluster} {effect : Effect} {effects : List Effect}
      (answers : Answers cluster effect next) (rest : Exchanges next effects last) :
      Exchanges cluster (effect :: effects) last

variable {cluster next last : Cluster} {effect : Effect} {effects rest : List Effect}
  {version : String} {secret : Secret} {config : Config}

@[simp] theorem secrets_tell (slot : Slot) (event : SecretEvent) :
    (cluster.tell slot event).secrets = cluster.secrets := rfl

@[simp] theorem config_tell (slot : Slot) (event : SecretEvent) :
    (cluster.tell slot event).config = cluster.config := rfl

@[simp] theorem config_put (slot : Slot) :
    (cluster.put slot secret).config = cluster.config := rfl

@[simp] theorem config_erase (slot : Slot) : (cluster.erase slot).config = cluster.config := by
  unfold erase
  split <;> rfl

/-- The cluster keeps the secrets as the map of secrets does. -/
theorem secrets_after (call : StoreCall) :
    (cluster.after call).secrets = (cluster.secrets.answer call).2 := by
  cases call with
  | get slot =>
    cases held : cluster.secrets.get? slot <;> simp [after, SecretMap.answer, held]
  | create space secret =>
    cases held : cluster.secrets.get? (SecretMap.slotIn space secret) <;>
      simp [after, SecretMap.answer, held, put]
  | update space secret =>
    cases held : cluster.secrets.get? (SecretMap.slotIn space secret) <;>
      simp [after, SecretMap.answer, held, put]
  | delete slot =>
    cases held : cluster.secrets.get? slot <;> simp [after, SecretMap.answer, held, erase]

/-- Every question but an entry in the log has an answer. -/
theorem exists_answers (cluster : Cluster) {question : Call} (loud : question.isNote = false) :
    ∃ answer next, Answers cluster ⟨question, answer⟩ next := by
  cases question with
  | store call => exact ⟨_, _, .store call⟩
  | writeStatus config => exact ⟨_, _, .written config⟩
  | readConfig name => exact ⟨_, _, .readConfig name⟩
  | readSecret slot => exact ⟨_, _, .readSecret slot⟩
  | note entry => cases loud

@[simp] theorem exchanges_nil_iff : Exchanges cluster [] last ↔ last = cluster := by
  constructor
  · rintro ⟨⟩
    rfl
  · rintro rfl
    exact .nil _

theorem exchanges_cons_iff : Exchanges cluster (effect :: effects) last ↔
    ∃ next, Answers cluster effect next ∧ Exchanges next effects last := by
  constructor
  · intro h
    cases h with
    | cons answers rest => exact ⟨_, answers, rest⟩
  · rintro ⟨next, answers, rest⟩
    exact .cons answers rest

theorem exchanges_append_iff : Exchanges cluster (effects ++ rest) last ↔
    ∃ next, Exchanges cluster effects next ∧ Exchanges next rest last := by
  induction effects generalizing cluster with
  | nil => simp
  | cons effect effects ih =>
    simp only [List.cons_append, exchanges_cons_iff, ih]
    constructor
    · rintro ⟨first, answers, next, before, after⟩
      exact ⟨next, ⟨first, answers, before⟩, after⟩
    · rintro ⟨next, ⟨first, answers, before⟩, after⟩
      exact ⟨first, answers, next, before, after⟩

@[simp] theorem exchanges_singleton_iff :
    Exchanges cluster [effect] last ↔ Answers cluster effect last := by
  simp [exchanges_cons_iff]

/-! ## What single questions come to -/

theorem Answers.of_getSource {answer : StoreCall.Answer (.get .source)}
    (h : Answers cluster (.store (.get .source) answer) next) :
    next = cluster ∧ answer = match cluster.secrets.get? .source with
      | some secret => .ok (some secret)
      | none => .error (.notFound .source) := by
  cases h with
  | store =>
    refine ⟨rfl, ?_⟩
    cases held : cluster.secrets.get? .source <;> simp [SecretMap.answer, held]

theorem Answers.of_create {space : String} {answer : Except SyncError Secret}
    (h : Answers cluster (.store (.create space secret) answer) next) :
    (answer = .ok secret ∧ next = cluster.put (SecretMap.slotIn space secret) secret) ∨
      ((cluster.secrets.get? (SecretMap.slotIn space secret)).isSome = true ∧
        answer = .error (.alreadyExists (SecretMap.slotIn space secret)) ∧ next = cluster) := by
  cases h with
  | store =>
    cases held : cluster.secrets.get? (SecretMap.slotIn space secret) with
    | none => exact .inl (by simp [SecretMap.answer, after, held])
    | some old => exact .inr (by simp [SecretMap.answer, after, held])

theorem Answers.of_update {space : String} {answer : Except SyncError Secret}
    (h : Answers cluster (.store (.update space secret) answer) next)
    (held : (cluster.secrets.get? (SecretMap.slotIn space secret)).isSome = true) :
    answer = .ok secret ∧ (next = cluster.put (SecretMap.slotIn space secret) secret ∨
      next = cluster ∧ cluster.secrets.get? (SecretMap.slotIn space secret) = some secret) := by
  obtain ⟨old, found⟩ := Option.isSome_iff_exists.mp held
  cases h with
  | store => exact ⟨by simp [SecretMap.answer, found], .inl (by simp [after, found])⟩
  | rewritten same => exact ⟨rfl, .inr ⟨rfl, same⟩⟩

theorem Answers.of_delete {slot : Slot} {answer : Except SyncError Unit}
    (h : Answers cluster (.store (.delete slot) answer) next) :
    gone answer = true ∧ next = cluster.erase slot := by
  cases h with
  | store =>
    refine ⟨?_, rfl⟩
    simp only [SecretMap.answer]
    split <;> rfl

theorem Answers.of_writeStatus {answer : Except SyncError Unit}
    (h : Answers cluster (.writeStatus config answer) next) :
    (answer = .ok () ∧ next = cluster.record config) ∨
      ∃ name, answer = .error (.conflict name) ∧ next = cluster := by
  cases h with
  | written => exact .inl ⟨rfl, rfl⟩
  | contested _ name => exact .inr ⟨name, rfl, rfl⟩

theorem Answers.of_readConfig {name : String} {answer : Except ApiError (Option Config)}
    (h : Answers cluster (.readConfig name answer) next) :
    answer = .ok (some cluster.config) ∧ next = cluster := by
  cases h
  exact ⟨rfl, rfl⟩

theorem Answers.of_readSecret {slot : Slot} {answer : Except ApiError (Option Secret)}
    (h : Answers cluster (.readSecret slot answer) next) :
    answer = .ok (cluster.secrets.get? slot) ∧ next = cluster := by
  cases h
  exact ⟨rfl, rfl⟩

/-! ## What copying comes to -/

/-- The slot of the replica holds a secret from now on. This is told, unless nothing changed. -/
inductive Puts (cluster : Cluster) (secret : Secret) : Cluster → Prop
  | told : Puts cluster secret (cluster.put .replica secret)
  | untold (same : cluster.secrets.get? .replica = some secret) : Puts cluster secret cluster

/-- Writing the replica of a secret succeeds. -/
theorem Exchanges.writing {outcome : Except SyncError Copied}
    (h : Exchanges cluster effects next) (writing : Writing version secret effects outcome) :
    (∃ copied, outcome = .ok copied ∧ copied ≠ .nothing) ∧
      Puts cluster (secret.replica version) next := by
  cases writing with
  | created made =>
    rcases (exchanges_singleton_iff.mp h).of_create with ⟨-, rfl⟩ | ⟨-, ⟨⟩, -⟩
    exact ⟨⟨_, rfl, by decide⟩, .told⟩
  | refused error other =>
    rcases (exchanges_singleton_iff.mp h).of_create with ⟨⟨⟩, -⟩ | ⟨-, ⟨⟩, -⟩
    cases other
  | updated found present made =>
    obtain ⟨middle, create, update⟩ := exchanges_cons_iff.mp h
    rcases create.of_create with ⟨⟨⟩, -⟩ | ⟨held, -, rfl⟩
    obtain ⟨-, rfl | ⟨rfl, same⟩⟩ := (exchanges_singleton_iff.mp update).of_update held
    · exact ⟨⟨_, rfl, by decide⟩, .told⟩
    · exact ⟨⟨_, rfl, by decide⟩, .untold same⟩
  | missed found present error =>
    obtain ⟨middle, create, update⟩ := exchanges_cons_iff.mp h
    rcases create.of_create with ⟨⟨⟩, -⟩ | ⟨held, -, rfl⟩
    obtain ⟨⟨⟩, -⟩ := (exchanges_singleton_iff.mp update).of_update held

/-- Copying the pull secret from its slot succeeds if it is there, and otherwise finds it missing
and changes nothing. -/
theorem Exchanges.copying {outcome : Except SyncError Copied}
    (h : Exchanges cluster effects next) (copying : Copying version none effects outcome) :
    (∃ secret, cluster.secrets.get? .source = some secret ∧
        (∃ copied, outcome = .ok copied ∧ copied ≠ .nothing) ∧
        Puts cluster (secret.replica version) next) ∨
      (cluster.secrets.get? .source = none ∧ outcome = .error (.notFound .source) ∧
        next = cluster) := by
  cases copying with
  | @fetched secret _ _ writing =>
    obtain ⟨middle, get, write⟩ := exchanges_cons_iff.mp h
    obtain ⟨rfl, told⟩ := get.of_getSource
    cases held : middle.secrets.get? .source with
    | none => simp [held] at told
    | some source =>
      simp only [held, Except.ok.injEq, Option.some.injEq] at told
      subst told
      exact .inl ⟨secret, rfl, write.writing writing⟩
  | untold =>
    obtain ⟨rfl, told⟩ := (exchanges_singleton_iff.mp h).of_getSource
    cases held : next.secrets.get? .source <;> simp [held] at told
  | unread error =>
    obtain ⟨rfl, told⟩ := (exchanges_singleton_iff.mp h).of_getSource
    cases held : next.secrets.get? .source with
    | none =>
      simp only [held, Except.error.injEq] at told
      subst told
      exact .inr ⟨rfl, rfl, rfl⟩
    | some source => simp [held] at told

end Cluster

end PullSecretSync
