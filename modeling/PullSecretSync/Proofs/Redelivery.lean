import PullSecretSync.Proofs.Running

/-!
# Redelivery after a failure of the store

When managing the credential fails, the error is put on record, and the outcome of the event is
that of writing the record. A failed write puts the event off, like every other failure; a write
that succeeds completes the event, and the work that failed is not taken up again. The main result
says so for every attempt of every run, and follows the events that are put off to their end.
-/

namespace PullSecretSync

open Sync

namespace Attempt

/-- The event that was brought up was handled on some configuration, and managing the credential
ended in an error. -/
def FailsInStore (settings : Settings) (attempt : Attempt) (event : SecretEvent) : Prop :=
  ∃ reads config managing error rest, Brings attempt.delivery reads event ∧
    attempt.effects = reads ++
      .readConfig settings.configName (.ok (some config)) :: (managing ++ rest) ∧
    Leads (manage settings.version attempt.now config event) managing (.error error)

/-- The last effect of the attempt is that a status was written. -/
def Reported (attempt : Attempt) : Prop :=
  ∃ config, attempt.effects.getLast? = some (.writeStatus config (.ok ()))

/-- The configuration, or the secret of the event, was found missing. -/
def FindsNothing (settings : Settings) (attempt : Attempt) : Prop :=
  .readConfig settings.configName (.ok none) ∈ attempt.effects ∨
    ∃ slot, .readSecret slot (.ok none) ∈ attempt.effects

end Attempt

/-- Among some moments there is no attempt at the redelivery of an event. -/
def Untried (event : SecretEvent) (moments : List Moment) : Prop :=
  ∀ attempt, .attended attempt ∈ moments → attempt.delivery ≠ .redelivered event

/-- How an event that waits fares in the course of some moments: it still waits untried; or the
first attempt at it completed it, dropped it for want of a configuration or a secret, or reported
a failure of the store; or that attempt put it off, and so on. -/
inductive Pursued (settings : Settings) (last : Manager) : SecretEvent → List Moment → Prop
  | waits {event : SecretEvent} {moments : List Moment} (untried : Untried event moments)
      (awaits : last.Awaits event) : Pursued settings last event moments
  | completed {event : SecretEvent} {before : List Moment} (untried : Untried event before)
      (after : List Moment) {attempt : Attempt} {outcome : Outcome}
      (delivery : attempt.delivery = .redelivered event)
      (sound : ∀ brought, ¬ attempt.FailsInStore settings brought)
      (fate : attempt.fate = .completed outcome) :
      Pursued settings last event (before ++ .attended attempt :: after)
  | dropped {event : SecretEvent} {before : List Moment} (untried : Untried event before)
      (after : List Moment) {attempt : Attempt} (delivery : attempt.delivery = .redelivered event)
      (fate : attempt.fate = .dropped) (missing : attempt.FindsNothing settings) :
      Pursued settings last event (before ++ .attended attempt :: after)
  | reported {event brought : SecretEvent} {before : List Moment} (untried : Untried event before)
      (after : List Moment) {attempt : Attempt} (delivery : attempt.delivery = .redelivered event)
      (fails : attempt.FailsInStore settings brought) (reported : attempt.Reported) :
      Pursued settings last event (before ++ .attended attempt :: after)
  | again {event next : SecretEvent} {before : List Moment} (untried : Untried event before)
      {after : List Moment} {attempt : Attempt} (delivery : attempt.delivery = .redelivered event)
      (fate : attempt.fate = .deferred next) (rest : Pursued settings last next after) :
      Pursued settings last event (before ++ .attended attempt :: after)

variable {settings : Settings} {now : Instant} {inFlight : UInt64} {config : Config}
  {retries retries' : UInt32} {event brought : SecretEvent} {error : SyncError} {version : String}
  {effects managing rest : List Effect} {handled : Handled} {manager last : Manager}
  {attempt : Attempt} {moment : Moment} {before after moments : List Moment}
  {result : Fate × UInt32}

/-- A failure to manage the credential begins with a question to the store. -/
theorem Sync.Managing.exists_store_cons
    (course : Managing version now config event managing (.error error)) :
    ∃ call answer rest, managing = .store call answer :: rest := by
  cases course with
  | unrestored _ _ copying =>
    cases copying with
    | fetched => exact ⟨_, _, _, rfl⟩
    | unread => exact ⟨_, _, _, rfl⟩
  | kept => exact ⟨_, _, _, rfl⟩
  | uncopied _ _ copying =>
    cases copying with
    | given writing => cases writing <;> exact ⟨_, _, _, rfl⟩

/-- When managing the credential fails, what is left is to write a status, and its answer decides
what came of the event. -/
theorem Sync.Handling.of_managing_error
    (handling : Handling settings now inFlight config retries event (managing ++ rest) handled)
    (course : Managing settings.version now config event managing (.error error)) :
    ∃ answer, rest = [.writeStatus (troubled config now error) answer] ∧
      handled.result = flushed answer := by
  obtain ⟨call, told, others, first⟩ := course.exists_store_cons
  have leads := leads_manage_iff.mpr course
  generalize same : managing ++ rest = effects at handling
  cases handling with
  | steady _ managed _ =>
    have h := leads.eq_of_append_eq (leads_manage_iff.mpr managed)
      (same.trans (List.append_nil _).symm)
    cases h.2.1
  | turned _ managed _ answer =>
    cases (leads.eq_of_append_eq (leads_manage_iff.mpr managed) same).2.1
  | failed _ managed answer =>
    obtain ⟨rfl, ⟨⟩, rfl⟩ := leads.eq_of_append_eq (leads_manage_iff.mpr managed) same
    exact ⟨answer, rfl, rfl⟩
  | _ => simp [first] at same

/-- What a delivery is answered fixes the event that it brings up. -/
theorem Sync.Brings.eq_of_append_eq {delivery : Delivery} {reads others rest tail : List Effect}
    (brings : Brings delivery reads event) (other : Brings delivery others brought)
    (same : reads ++ rest = others ++ tail) : brought = event ∧ tail = rest := by
  cases brings with
  | watched =>
    cases other
    exact ⟨rfl, same.symm⟩
  | kept deleted =>
    cases other with
    | kept => exact ⟨rfl, same.symm⟩
    | reread kept => simp [deleted] at kept
  | reread kept secret =>
    cases other with
    | kept deleted => simp [kept] at deleted
    | reread =>
      injection same with head same
      cases head
      exact ⟨rfl, same.symm⟩

/-- After a failure in the store the last effect writes a status, and the fate of the event is what
the answer makes of it. -/
theorem Attempt.FailsInStore.fate_eq (fails : attempt.FailsInStore settings event)
    (attending : Leads (attend settings attempt.now attempt.inFlight retries attempt.delivery)
      attempt.effects result) :
    ∃ report answer, attempt.effects.getLast? = some (.writeStatus report answer) ∧
      result.1 = Sync.fate event (flushed answer) := by
  obtain ⟨reads, config, managing, error, rest, brings, same, course⟩ := fails
  have attended := leads_attend_iff.mp attending
  rw [same] at attended ⊢
  generalize attempt.delivery = delivery at brings attended
  generalize told : reads ++ _ = effects at attended
  cases attended with
  | vanished kept =>
    cases brings with
    | kept deleted => simp [kept] at deleted
    | reread => simp at told
  | unread kept =>
    cases brings with
    | kept deleted => simp [kept] at deleted
    | reread => simp at told
  | brought other delivering =>
    obtain ⟨rfl, read⟩ := brings.eq_of_append_eq other told
    cases delivering with
    | homeless => simp at read
    | unread => simp at read
    | @handled _ _ handled handling =>
      injection read with head read
      cases head
      rw [read] at handling
      obtain ⟨answer, rfl, result⟩ := handling.of_managing_error (leads_manage_iff.mp course)
      refine ⟨troubled config attempt.now error, answer, ?_, by rw [result]⟩
      rw [read, ← List.cons_append, ← List.append_assoc, List.getLast?_concat]

/-- A delivery is dropped only for want of a configuration or of its secret. -/
theorem Attempt.findsNothing_of_dropped
    (attending : Leads (attend settings attempt.now attempt.inFlight retries attempt.delivery)
      attempt.effects (.dropped, retries')) : attempt.FindsNothing settings := by
  have attended := leads_attend_iff.mp attending
  generalize attempt.delivery = delivery at attended
  generalize told : attempt.effects = effects at attended
  rw [FindsNothing, told]
  cases attended with
  | vanished => exact .inr ⟨_, List.mem_singleton_self _⟩
  | brought _ delivering =>
    generalize outcome : (Fate.dropped, retries') = result at delivering
    cases delivering with
    | homeless => exact .inl (List.mem_append_right _ (List.mem_singleton_self _))
    | unread => cases outcome
    | @handled _ _ handled handling =>
      injection outcome with lost
      cases told : handled.result with
      | error => simp [told, Sync.fate] at lost
      | ok outcome => cases outcome <;> simp [told, Sync.fate] at lost

/-- After a failure in the store that was reported, the event is completed. -/
theorem Attempt.FailsInStore.fate_of_reported (fails : attempt.FailsInStore settings event)
    (reported : attempt.Reported)
    (attending : Leads (attend settings attempt.now attempt.inFlight retries attempt.delivery)
      attempt.effects result) : result.1 = .completed .statusFlushed := by
  obtain ⟨report, answer, wrote, fate⟩ := fails.fate_eq attending
  obtain ⟨written, last⟩ := reported
  rw [wrote] at last
  cases last
  exact fate

/-- After a failure in the store that could not be reported, the event is put off. -/
theorem Attempt.FailsInStore.fate_of_not_reported (fails : attempt.FailsInStore settings event)
    (unreported : ¬ attempt.Reported)
    (attending : Leads (attend settings attempt.now attempt.inFlight retries attempt.delivery)
      attempt.effects result) : result.1 = .deferred event := by
  obtain ⟨report, answer, wrote, fate⟩ := fails.fate_eq attending
  cases answer with
  | ok => exact absurd ⟨report, wrote⟩ unreported
  | error => exact fate

theorem untried_nil : Untried event [] := by
  intro attempt tried
  cases tried

theorem Untried.cons (untried : Untried event moments)
    (other : ∀ attempt, moment = .attended attempt → attempt.delivery ≠ .redelivered event) :
    Untried event (moment :: moments) := by
  intro attempt tried
  rcases List.mem_cons.mp tried with first | tried
  · exact other attempt first.symm
  · exact untried attempt tried

/-- A moment without an attempt at the event does not matter. -/
theorem Pursued.cons (pursued : Pursued settings last event moments)
    (other : ∀ attempt, moment = .attended attempt → attempt.delivery ≠ .redelivered event) :
    Pursued settings last event (moment :: moments) := by
  cases pursued with
  | waits untried awaits => exact .waits (untried.cons other) awaits
  | completed untried after delivery sound fate =>
    exact .completed (untried.cons other) after delivery sound fate
  | dropped untried after delivery fate missing =>
    exact .dropped (untried.cons other) after delivery fate missing
  | reported untried after delivery fails reported =>
    exact .reported (untried.cons other) after delivery fails reported
  | again untried delivery fate rest => exact .again (untried.cons other) delivery fate rest

/-- An event that waits is pursued in every run. -/
theorem Manager.Runs.pursued (run : Manager.Runs settings manager moments last)
    (awaits : manager.Awaits event) : Pursued settings last event moments := by
  induction run generalizing event with
  | nil => exact .waits untried_nil awaits
  | watched _ ih => exact (ih (awaits.watch _)).cons (by rintro _ ⟨⟩)
  | released _ ih => exact (ih (awaits.release _)).cons (by rintro _ ⟨⟩)
  | @attended manager next last attempt queue moments queued attending stepping rest ih =>
    have left := Manager.eq_conclude queued attending stepping
    by_cases delivery : attempt.delivery = .redelivered event
    · cases fate : attempt.fate with
      | dropped =>
        rw [fate] at attending
        exact .dropped untried_nil moments delivery fate
          (Attempt.findsNothing_of_dropped attending)
      | deferred other =>
        rw [fate] at left
        have waiting : next.Awaits other := by
          rw [left]
          exact Manager.awaits_conclude_deferred ..
        exact .again untried_nil delivery fate (ih waiting)
      | completed outcome =>
        by_cases broken : ∃ brought, attempt.FailsInStore settings brought
        · obtain ⟨brought, fails⟩ := broken
          by_cases reported : attempt.Reported
          · exact .reported untried_nil moments delivery fails reported
          · have put := fails.fate_of_not_reported reported attending
            rw [fate] at put
            cases put
        · exact .completed untried_nil moments delivery (not_exists.mp broken) fate
    · have waiting := (awaits.conclude queued (attempt.time + Manager.delay settings)
        (attempt.fate, next.retries)).resolve_left delivery
      rw [← left] at waiting
      refine (ih waiting).cons ?_
      rintro other ⟨⟩
      exact delivery

/-- In every run, an event whose handling failed in the store is redelivered exactly if the failure
was not reported: it is put off once, by the delay, and pursued from there on. A failure that was
reported leaves nothing to be delivered again. -/
theorem redelivered_iff_not_reported
    (run : Manager.Runs settings manager (before ++ .attended attempt :: after) last)
    (fails : attempt.FailsInStore settings event) :
    ∃ here next, Manager.Runs settings manager before here ∧
      Manager.Runs settings next after last ∧
      here.queue = attempt.delivery :: next.queue ∧
      (next.delayed.Perm ((attempt.time + Manager.delay settings, event) :: here.delayed) ∧
          Pursued settings last event after ↔ ¬ attempt.Reported) ∧
      (attempt.Reported →
        next.delayed = here.delayed ∧ attempt.fate = .completed .statusFlushed) := by
  obtain ⟨here, next, queue, prior, queued, attending, stepping, later⟩ := run.at_attempt
  have left := Manager.eq_conclude queued attending stepping
  have shorter : next.queue = queue := by rw [left, Manager.queue_conclude]
  refine ⟨here, next, prior, later, by rw [queued, shorter], ?_, ?_⟩
  · constructor
    · rintro ⟨put, -⟩ reported
      have done : attempt.fate = _ := fails.fate_of_reported reported attending
      rw [done] at left
      have longer := put.length_eq
      rw [left] at longer
      simp [Manager.conclude] at longer
    · intro unreported
      have put : attempt.fate = _ := fails.fate_of_not_reported unreported attending
      rw [put] at left
      constructor
      · rw [left]
        exact Manager.delayed_conclude_perm ..
      · refine later.pursued ?_
        rw [left]
        exact Manager.awaits_conclude_deferred ..
  · intro reported
    have done : attempt.fate = _ := fails.fate_of_reported reported attending
    rw [done] at left
    exact ⟨by rw [left]; rfl, done⟩

/-- A pull secret is seen while the server cannot be reached for its copy, and the failure is put on
record: nothing is left to be delivered again, and the replica stays away. -/
theorem not_redelivered_of_unreachable_store :
    let settings : Settings := ⟨"4.1.0", "cluster", 3, 5⟩
    let source : Secret := { metadata := { name := some "coreos-pull-secret",
                                           space := some "kube-system" } }
    let config := Config.new "cluster" {}
    let attempt : Attempt := {
      delivery := .watched (.applied source)
      now := ⟨0, 0⟩
      time := 100
      inFlight := 0
      effects := [.readConfig "cluster" (.ok (some config)),
        .create "4.1.0" source (.error (.api .unreachable)),
        .writeStatus (troubled config ⟨0, 0⟩ (.api .unreachable)) (.ok ())]
      fate := .completed .statusFlushed }
    attempt.FailsInStore settings (.applied source) ∧
      ∃ here next : Manager, Manager.Runs settings {} [.watched (.applied source)] here ∧
        here.queue = attempt.delivery :: next.queue ∧ next.delayed = here.delayed := by
  intro settings source config attempt
  have managing : Managing "4.1.0" ⟨0, 0⟩ config (.applied source)
      [.create "4.1.0" source (.error (.api .unreachable))] (.error (.api .unreachable)) :=
    .uncopied rfl rfl (.given (.refused _ rfl))
  have handling : Handling settings ⟨0, 0⟩ 0 config 0 (.applied source) _ _ :=
    .failed (by decide) managing (.ok ())
  have attending : Leads (attend settings attempt.now attempt.inFlight
      (Manager.watch {} (.applied source)).retries attempt.delivery) attempt.effects
      (attempt.fate, ({} : Manager).retries) :=
    leads_attend_iff.mpr (.brought (.watched _) (.handled handling))
  have stepping : Leads ((Manager.watch {} (.applied source)).step settings attempt.now
      attempt.time attempt.inFlight) attempt.effects {} :=
    (Manager.leads_step_iff rfl).mpr ⟨_, leads_attend_iff.mp attending, rfl⟩
  have run : Manager.Runs settings {} ([.watched (.applied source)] ++ [.attended attempt]) {} :=
    .watched (.attended rfl attending stepping (.nil _))
  have fails : attempt.FailsInStore settings (.applied source) :=
    ⟨[], config, _, _, _, .watched _, rfl, leads_manage_iff.mpr managing⟩
  have reported : attempt.Reported := ⟨_, rfl⟩
  obtain ⟨here, next, prior, -, queued, -, lost⟩ := redelivered_iff_not_reported run fails
  exact ⟨fails, here, next, prior, queued, (lost reported).1⟩

end PullSecretSync
