import PullSecretSync.Api.Cluster
import PullSecretSync.Proofs.Confinement
import PullSecretSync.Proofs.Running

/-!
# Events that are delivered again

A deletion that was put off is processed as if it came from the watch. For any other event that was
put off the secret is read again first, and what the reading brings decides alone: a secret is
processed as if the watch had told of it, a secret that is missing leaves nothing to do, and after
an error the event is put off once more. That a secret is missing has to be the reason that the
server gives; a refusal with code 404 and another reason is an error.
-/

namespace PullSecretSync

open Sync

/-- The server gives as its reason that there is no such object. -/
def ApiError.saysMissing : ApiError → Bool
  | .refused fault => fault.reason = "NotFound"
  | _ => false

namespace Http

variable {α : Type}

/-- What the reading of an object tells about one that may be missing. -/
def found : Except ApiError α → Except ApiError (Option α)
  | .ok value => .ok (some value)
  | .error error => if error.saysMissing then .ok none else .error error

/-- An object that may be missing is read like any other. -/
theorem get?_eq (decoder : Decoder α) (collection name : String) :
    get? decoder collection name =
      (get decoder collection name).bind fun read => .done (found read) := by
  rw [get?, Interaction.bind_eq]
  refine congrArg _ (funext fun read => ?_)
  cases read with
  | ok value => rfl
  | error error =>
    cases error with
    | refused fault =>
      by_cases missing : fault.reason = "NotFound"
      · simp [found, ApiError.saysMissing, missing]
      · simp [found, ApiError.saysMissing, missing]
    | _ => rfl

/-- A reading counts as one of a missing object only by the reason of its refusal. -/
theorem found_eq_none_iff {read : Except ApiError α} : found read = .ok none ↔
    ∃ fault, read = .error (.refused fault) ∧ fault.reason = "NotFound" := by
  cases read with
  | ok value => simp [found]
  | error error =>
    cases error with
    | refused fault =>
      by_cases missing : fault.reason = "NotFound"
      · simp [found, ApiError.saysMissing, missing]
      · simp [found, ApiError.saysMissing, missing]
    | _ => simp [found, ApiError.saysMissing]

/-- A secret and the configuration count as missing exactly if the server refuses to show them and
gives that reason, whatever the code of the refusal. -/
structure ReadsByReason : Prop where
  secret : ∀ slot, answer (.readSecret slot) =
    (get Secret.decoder (secretsPath slot.space) slot.name).bind fun read => .done (found read)
  config : ∀ name, answer (.readConfig name) =
    (get Config.decoder configsPath name).bind fun read => .done (found read)
  missing_iff : ∀ {α : Type} (read : Except ApiError α), found read = .ok none ↔
    ∃ fault, read = .error (.refused fault) ∧ fault.reason = "NotFound"

theorem readsByReason : ReadsByReason where
  secret slot := get?_eq Secret.decoder (secretsPath slot.space) slot.name
  config name := get?_eq Config.decoder configsPath name
  missing_iff _ := found_eq_none_iff

end Http

namespace Manager

/-- A manager with a delivery before all that it has to attend to. -/
def facing (manager : Manager) (delivery : Delivery) : Manager :=
  { manager with queue := delivery :: manager.queue }

section Refreshing

variable (manager : Manager) (settings : Settings) (now : Instant) (time : Nat)
  (inFlight : UInt64) (event : SecretEvent)

/-- How an event that was put off is processed once its secret was read again. -/
def Resumes (answer : Except ApiError (Option Secret)) (effects : List Effect) (last : Manager) :
    Prop :=
  match answer with
  | .ok (some secret) =>
    Leads ((manager.facing (.watched (.applied secret))).step settings now time inFlight) effects
      last
  | .ok none => effects = [] ∧ last = manager
  | .error _ => effects = [] ∧ last = manager.putOff (time + delay settings) event

/-- How an event that was put off is processed. -/
structure Refreshes : Prop where
  /-- A deletion is processed as if the watch had just told of it. -/
  kept : event.deleted = true →
    (manager.facing (.redelivered event)).step settings now time inFlight =
      (manager.facing (.watched event)).step settings now time inFlight
  /-- For any other event the secret is read first. -/
  reread : event.deleted = false → ∀ effects last,
    Leads ((manager.facing (.redelivered event)).step settings now time inFlight) effects last ↔
      ∃ answer rest, effects = .readSecret event.slot answer :: rest ∧
        manager.Resumes settings now time inFlight event answer rest last
  /-- It is missing exactly if the reading is refused for that reason. -/
  reading : Http.answer (.readSecret event.slot) =
    (Http.get Secret.decoder (secretsPath event.slot.space) event.slot.name).bind
      fun read => .done (Http.found read)
  /-- Only the secret that was read is copied. -/
  copies : ∀ secret effects last, manager.Resumes settings now time inFlight event
      (.ok (some secret)) effects last →
    ∀ call answer space written, .store call answer ∈ effects → call.Writes space written →
      space = Slot.replica.space ∧ written = secret.replica settings.version

end Refreshing

variable {manager last : Manager} {settings : Settings} {now : Instant} {time : Nat}
  {inFlight : UInt64} {event : SecretEvent} {effects : List Effect}

/-- What is left behind after the first delivery does not depend on it: it is gone from the queue by
then, and nothing else told the two managers apart. -/
theorem leads_step_facing_iff {delivery : Delivery} :
    Leads ((manager.facing delivery).step settings now time inFlight) effects last ↔
      ∃ result, Attending settings now inFlight manager.retries delivery effects result ∧
        last = manager.conclude manager.queue (time + delay settings) result := by
  have concluded (result : Fate × UInt32) :
      (manager.facing delivery).conclude manager.queue (time + delay settings) result =
        manager.conclude manager.queue (time + delay settings) result := by
    obtain ⟨fate, retries⟩ := result
    cases fate <;> rfl
  have queued : (manager.facing delivery).queue = delivery :: manager.queue := rfl
  rw [leads_step_iff queued]
  simp only [concluded]
  rfl

/-- After the store was asked for a copy, the secret of the event was copied, if it is no
deletion. -/
theorem writes_of_applied {secret : Secret} {call : StoreCall} {answer : call.Answer}
    {space : String} {written : Secret} {result : Fate × UInt32} {retries : UInt32}
    (attending : Attending settings now inFlight retries (.watched (.applied secret)) effects
      result)
    (asked : .store call answer ∈ effects) (writes : call.Writes space written) :
    space = Slot.replica.space ∧ written = secret.replica settings.version := by
  obtain ⟨reads, event, config, calls, outcome, brings, -, -, managing, member⟩ :=
    attending.managing_of_mem asked
  cases brings with
  | watched =>
    obtain ⟨here, -, origin, provided, copy⟩ :=
      managing.confined.writes call answer space written member writes
    cases provided with
    | told => exact ⟨here, copy⟩
    | given _ deleted => cases deleted

/-- A deletion that was put off is attended to like one from the watch. -/
theorem step_facing_of_deleted (deleted : event.deleted = true) :
    (manager.facing (.redelivered event)).step settings now time inFlight =
      (manager.facing (.watched event)).step settings now time inFlight := by
  have same (retries : UInt32) : attend settings now inFlight retries (.redelivered event) =
      attend settings now inFlight retries (.watched event) := by
    rw [attend, attend, if_pos deleted]
  simp only [step, facing, same]

/-- An event that was put off, and is no deletion, starts with reading its secret. -/
theorem leads_step_redelivered_iff (kept : event.deleted = false) :
    Leads ((manager.facing (.redelivered event)).step settings now time inFlight) effects last ↔
      ∃ answer rest, effects = .readSecret event.slot answer :: rest ∧
        manager.Resumes settings now time inFlight event answer rest last := by
  rw [leads_step_facing_iff]
  constructor
  · rintro ⟨result, attending, rfl⟩
    cases attending with
    | brought brings delivering =>
      cases brings with
      | kept deleted => simp [kept] at deleted
      | reread _ secret =>
        exact ⟨.ok (some secret), _, rfl,
          leads_step_facing_iff.mpr ⟨_, .brought (.watched _) delivering, rfl⟩⟩
    | vanished => exact ⟨.ok none, [], rfl, rfl, rfl⟩
    | unread _ error => exact ⟨.error error, [], rfl, rfl, rfl⟩
  · rintro ⟨answer, rest, rfl, resumes⟩
    match answer with
    | .ok (some secret) =>
      obtain ⟨result, attending, rfl⟩ := leads_step_facing_iff.mp resumes
      cases attending with
      | brought brings delivering =>
        cases brings with
        | watched => exact ⟨result, .brought (.reread kept secret) delivering, rfl⟩
    | .ok none =>
      obtain ⟨rfl, rfl⟩ := resumes
      exact ⟨_, .vanished kept, rfl⟩
    | .error error =>
      obtain ⟨rfl, rfl⟩ := resumes
      exact ⟨_, .unread kept error, rfl⟩

/-- **Delivered again.** An event that was put off is processed like one from the watch: a deletion
as it is, and any other event with its secret as it is by now, which is the only one that is
copied. If the secret is missing nothing happens, and if it cannot be read the event is put off
once more and nothing else happens. -/
theorem refreshes (manager : Manager) (settings : Settings) (now : Instant) (time : Nat)
    (inFlight : UInt64) (event : SecretEvent) :
    manager.Refreshes settings now time inFlight event where
  kept deleted := step_facing_of_deleted deleted
  reread kept _ _ := leads_step_redelivered_iff kept
  reading := Http.get?_eq Secret.decoder (secretsPath event.slot.space) event.slot.name
  copies := by
    intro secret effects last resumes call answer space written asked writes
    obtain ⟨result, attending, -⟩ := leads_step_facing_iff.mp resumes
    exact writes_of_applied attending asked writes

/-- Whatever happened before, what is written for an event that was put off, and is no deletion, is
a copy of the secret that was read for it. -/
theorem Runs.copies_of_redelivered {before after : List Moment} {attempt : Attempt}
    (run : Runs settings manager (before ++ .attended attempt :: after) last)
    (redelivered : attempt.delivery = .redelivered event) (kept : event.deleted = false)
    {call : StoreCall} {answer : call.Answer} {space : String} {written : Secret}
    (asked : .store call answer ∈ attempt.effects) (writes : call.Writes space written) :
    ∃ secret rest, attempt.effects = .readSecret event.slot (.ok (some secret)) :: rest ∧
      space = Slot.replica.space ∧ written = secret.replica settings.version := by
  obtain ⟨here, next, queue, -, -, attending, -, -⟩ := run.at_attempt
  have attending := leads_attend_iff.mp attending
  rw [redelivered] at attending
  generalize attempt.effects = effects, (attempt.fate, next.retries) = result at attending asked ⊢
  cases attending with
  | vanished => simp at asked
  | unread => simp at asked
  | brought brings delivering =>
    cases brings with
    | kept deleted => simp [kept] at deleted
    | reread _ secret =>
      have later := (List.mem_cons.mp asked).resolve_left (by simp)
      exact ⟨secret, _, rfl, writes_of_applied (.brought (.watched _) delivering) later writes⟩

/-- A server that has no secret to show but does not say so by its reason: the reading is refused
with code 404, and yet the event is put off once more. -/
theorem put_off_after_404 :
    let settings : Settings := ⟨"4.1.0", "cluster", 1, 5⟩
    let pull : Secret := { metadata := { name := some "coreos-pull-secret",
                                         space := some "kube-system" } }
    let manager : Manager := { queue := [.redelivered (.applied pull)] }
    let answer (call : HttpCall) (sent : List String) : call.Answer × List String :=
      match call with
      | .send request =>
        (.answered 404 "404 page not found",
          sent ++ [request.method.text ++ " " ++ request.address.path])
      | .note _ => ((), sent)
    let (last, _, sent) :=
      (Http.ofSync (manager.step settings ⟨1, 0⟩ 5100 0)).run answer []
    sent = ["GET /api/v1/namespaces/kube-system/secrets/coreos-pull-secret"] ∧
      last.delayed.map (fun entry => (entry.1, entry.2.deleted, entry.2.secret.slot?)) =
        [(10100, false, some Slot.source)] := by
  decide +kernel

end Manager

end PullSecretSync
