import PullSecretSync.Proofs.Handling
import PullSecretSync.Proofs.Role
import PullSecretSync.Sync.Manager

/-!
# Courses of attending to a delivery

Attending to a delivery brings up an event, reads the configuration and handles the event on it.
What is read may be missing or fail to be read, and then nothing is handled. The fate of an event
that was handled follows from the outcome alone.
-/

namespace PullSecretSync

/-- The slot in which the secret of an event is looked up again. -/
abbrev SecretEvent.slot (event : SecretEvent) : Slot :=
  ⟨event.secret.displaySpace, event.secret.displayName⟩

/-- A deferred event looks its secret up in the slot that it is about. -/
theorem SecretEvent.slot_of_named {event : SecretEvent} {role : Role}
    (named : event.secret.role? = some role) : event.slot = role.slot := by
  unfold Secret.role? Secret.slot? at named
  split at named
  · rename_i space name hspace hname
    have same : (⟨space, name⟩ : Slot) = role.slot := Slot.role?_eq_some_iff.mp named
    rw [← same]
    simp [SecretEvent.slot, Secret.displaySpace, Secret.displayName, ObjectMeta.displaySpace,
      ObjectMeta.displayName, hspace, hname]
  · cases named

namespace Sync

/-- The fate of an event after it was handled. -/
def fate (event : SecretEvent) : Except SyncError Outcome → Fate
  | .ok (.retry _) => .deferred event
  | .ok outcome => .completed outcome
  | .error _ => .deferred event

/-- The courses of delivering an event. -/
inductive Delivering (settings : Settings) (now : Instant) (inFlight : UInt64) (retries : UInt32)
    (event : SecretEvent) : List Effect → Fate × UInt32 → Prop
  | homeless : Delivering settings now inFlight retries event
      [.readConfig settings.configName (.ok none)] (.dropped, retries)
  | unread (error : ApiError) : Delivering settings now inFlight retries event
      [.readConfig settings.configName (.error error)] (.deferred event, retries)
  | handled {config : Config} {effects : List Effect} {handled : Handled}
      (handling : Handling settings now inFlight config retries event effects handled) :
      Delivering settings now inFlight retries event
        (.readConfig settings.configName (.ok (some config)) :: effects)
        (fate event handled.result, handled.retries)

/-- A delivery brings up an event. An event that was put off is brought up with its secret as it
is by now, unless it is a deletion. -/
inductive Brings : Delivery → List Effect → SecretEvent → Prop
  | watched (event : SecretEvent) : Brings (.watched event) [] event
  | kept {event : SecretEvent} (deleted : event.deleted = true) :
      Brings (.redelivered event) [] event
  | reread {event : SecretEvent} (deleted : event.deleted = false) (secret : Secret) :
      Brings (.redelivered event) [.readSecret event.slot (.ok (some secret))]
        (.applied secret)

/-- The courses of attending to a delivery. -/
inductive Attending (settings : Settings) (now : Instant) (inFlight : UInt64) (retries : UInt32) :
    Delivery → List Effect → Fate × UInt32 → Prop
  | brought {delivery : Delivery} {reads : List Effect} {event : SecretEvent}
      {effects : List Effect} {result : Fate × UInt32} (brings : Brings delivery reads event)
      (delivering : Delivering settings now inFlight retries event effects result) :
      Attending settings now inFlight retries delivery (reads ++ effects) result
  | vanished {event : SecretEvent} (deleted : event.deleted = false) :
      Attending settings now inFlight retries (.redelivered event)
        [.readSecret event.slot (.ok none)] (.dropped, retries)
  | unread {event : SecretEvent} (deleted : event.deleted = false) (error : ApiError) :
      Attending settings now inFlight retries (.redelivered event)
        [.readSecret event.slot (.error error)] (.deferred event, retries)

variable {settings : Settings} {now : Instant} {inFlight : UInt64} {retries : UInt32}
  {event : SecretEvent} {effects : List Effect} {result : Fate × UInt32}

/-- An event that needs no retry is completed. -/
theorem fate_eq_completed {outcome : Outcome} (settled : outcome.isRetry = false) :
    fate event (.ok outcome) = .completed outcome := by
  cases outcome with
  | retry => cases settled
  | _ => rfl

/-- A deletion is brought up for a deletion only. -/
theorem Brings.deleted_eq {delivery : Delivery} (brings : Brings delivery effects event) :
    event.deleted = delivery.event.deleted := by
  cases brings with
  | watched => rfl
  | kept => rfl
  | reread kept => exact kept.symm

/-- A deletion is brought up as it is. -/
theorem Brings.event_eq {delivery : Delivery} (brings : Brings delivery effects event)
    (deleted : delivery.event.deleted = true) : event = delivery.event := by
  cases brings with
  | watched => rfl
  | kept => rfl
  | reread kept =>
    rw [Delivery.event, kept] at deleted
    cases deleted

/-- Nothing is asked to bring a deletion up. -/
theorem Brings.eq_nil {delivery : Delivery} (brings : Brings delivery effects event)
    (deleted : delivery.event.deleted = true) : effects = [] := by
  cases brings with
  | watched => rfl
  | kept => rfl
  | reread kept =>
    rw [Delivery.event, kept] at deleted
    cases deleted

/-- An event that is delivered is put off as it is, or completed, or dropped for want of the
configuration. -/
theorem Delivering.fate_cases
    (delivering : Delivering settings now inFlight retries event effects result) :
    result.1 = .deferred event ∨
      (∃ outcome, result.1 = .completed outcome ∧ outcome.isRetry = false) ∨
      (result.1 = .dropped ∧ effects = [.readConfig settings.configName (.ok none)]) := by
  cases delivering with
  | homeless => exact .inr (.inr ⟨rfl, rfl⟩)
  | unread => exact .inl rfl
  | @handled _ _ handled =>
    cases told : handled.result with
    | error => exact .inl rfl
    | ok outcome =>
      cases outcome with
      | retry => exact .inl rfl
      | _ => exact .inr (.inl ⟨_, rfl, rfl⟩)

/-- What is put off is a deletion for a deletion only, and a deletion is put off as it is. -/
theorem Attending.of_deferred {delivery : Delivery} {put : SecretEvent}
    (attending : Attending settings now inFlight retries delivery effects result)
    (deferred : result.1 = .deferred put) :
    put.deleted = delivery.event.deleted ∧
      (delivery.event.deleted = true → put = delivery.event) := by
  cases attending with
  | vanished => cases deferred
  | unread =>
    cases deferred
    exact ⟨rfl, fun _ => rfl⟩
  | brought brings delivering =>
    rcases delivering.fate_cases with same | ⟨outcome, completed, -⟩ | ⟨dropped, -⟩
    · cases same.symm.trans deferred
      exact ⟨brings.deleted_eq, brings.event_eq⟩
    · cases completed.symm.trans deferred
    · cases dropped.symm.trans deferred

/-- The store is only asked to manage the credential after an event that was brought up. -/
theorem Attending.managing_of_mem {delivery : Delivery} {call : StoreCall} {answer : call.Answer}
    (attending : Attending settings now inFlight retries delivery effects result)
    (asked : .store call answer ∈ effects) :
    ∃ reads event config managing outcome, Brings delivery reads event ∧ reads <+: effects ∧
      decision settings inFlight config retries event = .manageCredential ∧
      Managing settings.version now config event managing outcome ∧
      .store call answer ∈ managing := by
  cases attending with
  | vanished => simp at asked
  | unread => simp at asked
  | brought brings delivering =>
    rcases List.mem_append.mp asked with early | asked
    · cases brings <;> simp at early
    cases delivering with
    | homeless => simp at asked
    | unread => simp at asked
    | @handled config _ handled handling =>
      rcases List.mem_cons.mp asked with early | asked
      · cases early
      obtain ⟨decided, managing, outcome, course, member⟩ := handling.managing_of_mem asked
      exact ⟨_, _, config, managing, outcome, brings, List.prefix_append _ _, decided, course,
        member⟩

/-- The entry on an event that was handled has no effect. -/
private theorem leads_conclude {handled : Handled} :
    Leads (match handled.result with
      | .ok (.retry reason) => do
        note .debug reason.message
        return (Fate.deferred event, handled.retries)
      | .ok outcome => do
        note .debug ("Processed secret event: " ++ outcomeText outcome)
        return (.completed outcome, handled.retries)
      | .error error => do
        note .warning ("Failed to process secret event: " ++ error.message)
        return (.deferred event, handled.retries)) effects result ↔
      effects = [] ∧ result = (fate event handled.result, handled.retries) := by
  obtain ⟨outcome, config, count⟩ := handled
  cases outcome with
  | error error => exact leads_note.trans leads_done
  | ok outcome => cases outcome <;> exact leads_note.trans leads_done

/-- Delivering an event takes exactly these courses. -/
theorem leads_deliver_iff :
    Leads (deliver settings now inFlight retries event) effects result ↔
      Delivering settings now inFlight retries event effects result := by
  rw [deliver, Interaction.bind_eq]
  constructor
  · intro h
    rw [leads_readConfig_bind] at h
    obtain ⟨answer, rest, rfl, h⟩ := h
    cases answer with
    | error error =>
      simp only [Interaction.bind_eq, Interaction.pure_eq, leads_note_bind, leads_done] at h
      obtain ⟨rfl, rfl⟩ := h
      exact .unread error
    | ok found =>
      cases found with
      | none =>
        simp only [Interaction.bind_eq, Interaction.pure_eq, leads_note_bind, leads_done] at h
        obtain ⟨rfl, rfl⟩ := h
        exact .homeless
      | some config =>
        obtain ⟨first, handled, rest, rfl, hh, h⟩ := leads_bind.mp h
        obtain ⟨rfl, rfl⟩ := leads_conclude.mp h
        rw [List.append_nil]
        exact .handled (leads_handle_iff.mp hh)
  · intro h
    cases h with
    | homeless => exact .ask rfl _ (.note (.done _))
    | unread error => exact .ask rfl _ (.note (.done _))
    | @handled config effects handled handling =>
      refine .ask rfl _ ((leads_handle_iff.mpr handling).bind_quiet ?_)
      exact leads_conclude.mpr ⟨rfl, rfl⟩

/-- Attending to a delivery takes exactly these courses. -/
theorem leads_attend_iff {delivery : Delivery} :
    Leads (attend settings now inFlight retries delivery) effects result ↔
      Attending settings now inFlight retries delivery effects result := by
  cases delivery with
  | watched event =>
    rw [attend, leads_deliver_iff]
    constructor
    · intro h
      exact .brought (.watched event) h
    · rintro ⟨⟨⟩, delivering⟩
      exact delivering
  | redelivered event =>
    rw [attend]
    cases deleted : event.deleted with
    | true =>
      rw [if_pos rfl, leads_deliver_iff]
      constructor
      · intro h
        exact .brought (.kept deleted) h
      · intro h
        cases h with
        | brought brings delivering =>
          cases brings with
          | kept => exact delivering
          | reread kept => simp [deleted] at kept
        | vanished kept => simp [deleted] at kept
        | unread kept => simp [deleted] at kept
    | false =>
      rw [if_neg Bool.false_ne_true, Interaction.bind_eq]
      constructor
      · intro h
        rw [leads_readSecret_bind] at h
        obtain ⟨answer, rest, rfl, h⟩ := h
        cases answer with
        | error error =>
          simp only [Interaction.bind_eq, Interaction.pure_eq, leads_note_bind, leads_done] at h
          obtain ⟨rfl, rfl⟩ := h
          exact .unread deleted error
        | ok found =>
          cases found with
          | none =>
            simp only [Interaction.bind_eq, Interaction.pure_eq, leads_note_bind, leads_done] at h
            obtain ⟨rfl, rfl⟩ := h
            exact .vanished deleted
          | some secret => exact .brought (.reread deleted secret) (leads_deliver_iff.mp h)
      · intro h
        cases h with
        | brought brings delivering =>
          cases brings with
          | kept lost => simp [deleted] at lost
          | reread _ secret => exact .ask rfl _ (leads_deliver_iff.mpr delivering)
        | vanished => exact .ask rfl _ (.note (.done _))
        | unread _ error => exact .ask rfl _ (.note (.done _))

end Sync

namespace Manager

open Sync

/-- The manager after the first of its deliveries has met its fate, where an event that is put off
falls due at some time. -/
def conclude (manager : Manager) (queue : List Delivery) (due : Nat) : Fate × UInt32 → Manager
  | (.deferred event, retries) => { manager with queue, retries }.putOff due event
  | (_, retries) => { manager with queue, retries }

variable {manager next : Manager} {settings : Settings} {now : Instant} {time : Nat}
  {inFlight : UInt64} {effects : List Effect}

/-- A step attends to the first delivery and puts its event off if it was deferred. -/
theorem leads_step_iff {delivery : Delivery} {queue : List Delivery}
    (queued : manager.queue = delivery :: queue) :
    Leads (manager.step settings now time inFlight) effects next ↔
      ∃ result, Attending settings now inFlight manager.retries delivery effects result ∧
        next = manager.conclude queue (time + delay settings) result := by
  rw [step, queued]
  simp only [Interaction.bind_eq, leads_bind, leads_attend_iff]
  constructor
  · rintro ⟨first, ⟨fate, retries⟩, rest, rfl, attending, h⟩
    cases fate <;>
      (obtain ⟨rfl, rfl⟩ := leads_done.mp h
       exact ⟨_, by simpa only [List.append_nil] using attending, rfl⟩)
  · rintro ⟨⟨fate, retries⟩, attending, rfl⟩
    refine ⟨effects, _, [], (List.append_nil _).symm, attending, ?_⟩
    cases fate <;> exact .done _

/-- Without a delivery a step does nothing. -/
theorem step_of_queue_eq_nil (empty : manager.queue = []) :
    manager.step settings now time inFlight = .done manager := by
  rw [step, empty]
  rfl

end Manager

end PullSecretSync
