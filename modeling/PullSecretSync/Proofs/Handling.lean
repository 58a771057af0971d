import PullSecretSync.Proofs.Managing

/-!
# Courses of handling an event

The decision on an event selects the course; what is left open is what the store answers and
whether the status gets written. A course writes the status at most once, and as its last effect.
-/

namespace PullSecretSync

namespace Facts

/-- What is true of the facts when a decision was taken. -/
def Grounds (facts : Facts) : Transition → Prop
  | .busy => 0 < facts.inFlight
  | .ignoreUnmanaged => facts.state = .unmanaged
  | .ignoreIrrelevant => facts.role = none
  | .acknowledgeOwnWrite =>
    facts.role = some .replica ∧ facts.deleted = false ∧ facts.stamped = true
  | .rejectUnstamped =>
    facts.role = some .replica ∧ facts.deleted = false ∧ facts.stamped = false
  | .retryDeletion => facts.role = some .replica ∧ facts.deleted = true ∧
      facts.credentialExists = true ∧ facts.retries < facts.retryLimit
  | .acceptDeletion =>
    facts.role = some .replica ∧ facts.deleted = true ∧ facts.state = .removed
  | .ignoreWhileRemoved => facts.role = some .source ∧ facts.state = .removed
  | .manageCredential =>
    facts.role = some .source ∨ facts.role = some .replica ∧ facts.deleted = true

/-- Every decision has its grounds. -/
theorem grounds_transition (facts : Facts) : facts.Grounds facts.transition := by
  unfold transition
  split
  · assumption
  · split
    · assumption
    · cases role : facts.role with
      | none => exact role
      | some part =>
        cases part with
        | source =>
          by_cases removed : facts.state = .removed
          · simp only [removed, if_true]
            exact ⟨role, removed⟩
          · simp only [removed, if_false]
            exact .inl role
        | replica =>
          cases deleted : facts.deleted with
          | false =>
            cases stamped : facts.stamped with
            | true => exact ⟨role, deleted, stamped⟩
            | false => exact ⟨role, deleted, stamped⟩
          | true =>
            simp only [Bool.not_true, Bool.false_eq_true, if_false]
            split
            · rename_i unconfirmed
              exact ⟨role, deleted, unconfirmed⟩
            · split
              · rename_i removed
                exact ⟨role, deleted, by simpa using removed⟩
              · exact .inr ⟨role, deleted⟩

end Facts

/-- Below a limit the count of deferred deletions does not wrap around. -/
theorem toNat_succ_of_lt {retries limit : UInt32} (more : retries < limit) :
    (retries + 1).toNat = retries.toNat + 1 := by
  have below : retries.toNat < limit.toNat := UInt32.lt_iff_toNat_lt.mp more
  have bound : limit.toNat < 2 ^ 32 := limit.toNat_lt
  rw [UInt32.toNat_add, UInt32.toNat_one, Nat.mod_eq_of_lt]
  omega

namespace Sync

/-- What the writing of the status makes of an event. -/
def flushed (answer : Except SyncError Unit) : Except SyncError Outcome :=
  answer.map fun () => .statusFlushed

/-- The configuration after a failure to manage the credential. -/
abbrev troubled (config : Config) (now : Instant) (error : SyncError) : Config :=
  config.reportError now Config.credentialType .unknown error.message

/-- The decision on an event that is handled. -/
abbrev decision (settings : Settings) (inFlight : UInt64) (config : Config) (retries : UInt32)
    (event : SecretEvent) : Transition :=
  (event.facts config inFlight retries settings.retryLimit).transition

theorem grounds_of_decision {settings : Settings} {inFlight : UInt64} {config : Config}
    {retries : UInt32} {event : SecretEvent} {transition : Transition}
    (decided : decision settings inFlight config retries event = transition) :
    (event.facts config inFlight retries settings.retryLimit).Grounds transition := by
  rw [← decided]
  exact Facts.grounds_transition _

/-- The courses of handling an event. -/
inductive Handling (settings : Settings) (now : Instant) (inFlight : UInt64) (config : Config)
    (retries : UInt32) (event : SecretEvent) : List Effect → Handled → Prop
  | busy (decided : decision settings inFlight config retries event = .busy) :
      Handling settings now inFlight config retries event []
        ⟨.ok (.retry .upsertInProgress), config, retries⟩
  | ignored (decided : decision settings inFlight config retries event = .ignoreUnmanaged ∨
        decision settings inFlight config retries event = .ignoreIrrelevant ∨
        decision settings inFlight config retries event = .ignoreWhileRemoved) :
      Handling settings now inFlight config retries event [] ⟨.ok .ignored, config, 0⟩
  | acknowledged (decided : decision settings inFlight config retries event = .acknowledgeOwnWrite)
      (known : config.conditionHolds Config.credentialType = true) :
      Handling settings now inFlight config retries event [] ⟨.ok .unchanged, config, 0⟩
  | welcomed (decided : decision settings inFlight config retries event = .acknowledgeOwnWrite)
      (news : config.conditionHolds Config.credentialType = false)
      (answer : Except SyncError Unit) :
      Handling settings now inFlight config retries event
        [.writeStatus (config.settle now Config.credentialType .holds) answer]
        ⟨flushed answer, config.settle now Config.credentialType .holds, 0⟩
  | rejected (decided : decision settings inFlight config retries event = .rejectUnstamped)
      (answer : Except SyncError Unit) :
      Handling settings now inFlight config retries event
        [.writeStatus (troubled config now (.unstamped Slot.replica.space)) answer]
        ⟨flushed answer, troubled config now (.unstamped Slot.replica.space), 0⟩
  | postponed (decided : decision settings inFlight config retries event = .retryDeletion) :
      Handling settings now inFlight config retries event []
        ⟨.ok (.retry (.deletionUnconfirmed (retries + 1))), config, retries + 1⟩
  | accepted (decided : decision settings inFlight config retries event = .acceptDeletion)
      (answer : Except SyncError Unit) :
      Handling settings now inFlight config retries event
        [.writeStatus (config.settle now Config.credentialType .fails) answer]
        ⟨flushed answer, config.settle now Config.credentialType .fails, 0⟩
  | steady {effects : List Effect} {managed : Config}
      (decided : decision settings inFlight config retries event = .manageCredential)
      (managing : Managing settings.version now config event effects (.ok managed))
      (same : (managed.condition Config.credentialType).status =
        (config.condition Config.credentialType).status) :
      Handling settings now inFlight config retries event effects ⟨.ok .unchanged, managed, 0⟩
  | turned {effects : List Effect} {managed : Config}
      (decided : decision settings inFlight config retries event = .manageCredential)
      (managing : Managing settings.version now config event effects (.ok managed))
      (changed : (managed.condition Config.credentialType).status ≠
        (config.condition Config.credentialType).status)
      (answer : Except SyncError Unit) :
      Handling settings now inFlight config retries event (effects ++ [.writeStatus managed answer])
        ⟨flushed answer, managed, 0⟩
  | failed {effects : List Effect} {error : SyncError}
      (decided : decision settings inFlight config retries event = .manageCredential)
      (managing : Managing settings.version now config event effects (.error error))
      (answer : Except SyncError Unit) :
      Handling settings now inFlight config retries event
        (effects ++ [.writeStatus (troubled config now error) answer])
        ⟨flushed answer, troubled config now error, 0⟩

variable {settings : Settings} {now : Instant} {inFlight : UInt64} {config : Config}
  {retries : UInt32} {event : SecretEvent} {effects : List Effect}

/-- The store is only asked to manage the credential. -/
theorem Handling.managing_of_mem {handled : Handled} {call : StoreCall} {answer : call.Answer}
    (handling : Handling settings now inFlight config retries event effects handled)
    (asked : .store call answer ∈ effects) :
    decision settings inFlight config retries event = .manageCredential ∧
      ∃ managing result, Managing settings.version now config event managing result ∧
        .store call answer ∈ managing := by
  cases handling with
  | steady decided managing => exact ⟨decided, _, _, managing, asked⟩
  | turned decided managing =>
    exact ⟨decided, _, _, managing, (List.mem_append.mp asked).resolve_right (by simp)⟩
  | failed decided managing =>
    exact ⟨decided, _, _, managing, (List.mem_append.mp asked).resolve_right (by simp)⟩
  | _ => simp at asked

/-- The entry on the state has no effect. -/
theorem leads_noteState_bind {α : Type} {facts : Facts} {next : Unit → Sync α} {result : α} :
    Leads ((noteState facts).bind next) effects result ↔ Leads (next ()) effects result := by
  unfold noteState
  split
  · exact leads_note_bind
  · split <;> exact leads_note_bind

/-- Flushing writes the status, and nothing else. -/
theorem leads_flush_bind {α : Type} {next : Except SyncError Outcome → Sync α} {result : α} :
    Leads ((flush config).bind next) effects result ↔
      ∃ answer rest, effects = .writeStatus config answer :: rest ∧
        Leads (next (flushed answer)) rest result := by
  rw [flush, Interaction.bind_eq, Interaction.bind_assoc, leads_writeStatus_bind]
  constructor
  · rintro ⟨answer, rest, rfl, h⟩
    refine ⟨answer, rest, rfl, ?_⟩
    cases answer <;> exact h
  · rintro ⟨answer, rest, rfl, h⟩
    refine ⟨answer, rest, rfl, ?_⟩
    cases answer <;> exact h

private theorem leads_flush_done {α : Type} {conclude : Except SyncError Outcome → α} {result : α} :
    Leads ((flush config).bind fun outcome => .done (conclude outcome)) effects result ↔
      ∃ answer, effects = [.writeStatus config answer] ∧ result = conclude (flushed answer) := by
  rw [leads_flush_bind]
  constructor
  · rintro ⟨answer, rest, rfl, h⟩
    obtain ⟨rfl, rfl⟩ := leads_done.mp h
    exact ⟨answer, rfl, rfl⟩
  · rintro ⟨answer, rfl, rfl⟩
    exact ⟨answer, [], rfl, .done _⟩

/-- Managing with its flush manages first, and then writes the status of a failure and of a changed
condition. -/
theorem leads_manageAndFlush {version : String} {result : Except SyncError Outcome × Config} :
    Leads (manageAndFlush version now config event) effects result ↔
      ∃ managing outcome, Managing version now config event managing outcome ∧
        match outcome with
        | .error error => ∃ answer,
          effects = managing ++ [.writeStatus (troubled config now error) answer] ∧
            result = (flushed answer, troubled config now error)
        | .ok managed =>
          if (managed.condition Config.credentialType).status =
              (config.condition Config.credentialType).status then
            effects = managing ∧ result = (.ok .unchanged, managed)
          else ∃ answer, effects = managing ++ [.writeStatus managed answer] ∧
            result = (flushed answer, managed) := by
  simp only [manageAndFlush, Interaction.bind_eq, leads_bind]
  constructor
  · rintro ⟨managing, outcome, rest, rfl, hm, h⟩
    refine ⟨managing, outcome, leads_manage_iff.mp hm, ?_⟩
    cases outcome with
    | error error =>
      simp only [Interaction.pure_eq, leads_note_bind, leads_flush_done] at h
      obtain ⟨answer, rfl, rfl⟩ := h
      exact ⟨answer, rfl, rfl⟩
    | ok managed =>
      by_cases same : (managed.condition Config.credentialType).status =
          (config.condition Config.credentialType).status
      · simp only [same, if_true, Interaction.pure_eq, leads_done] at h ⊢
        obtain ⟨rfl, rfl⟩ := h
        exact ⟨List.append_nil _, rfl⟩
      · simp only [same, if_false, Interaction.pure_eq, leads_note_bind, leads_flush_done] at h ⊢
        obtain ⟨answer, rfl, rfl⟩ := h
        exact ⟨answer, rfl, rfl⟩
  · rintro ⟨managing, outcome, hm, h⟩
    cases outcome with
    | error error =>
      obtain ⟨answer, rfl, rfl⟩ := h
      refine ⟨managing, _, _, rfl, leads_manage_iff.mpr hm, ?_⟩
      exact .note (.note (leads_flush_done.mpr ⟨answer, rfl, rfl⟩))
    | ok managed =>
      by_cases same : (managed.condition Config.credentialType).status =
          (config.condition Config.credentialType).status
      · simp only [same, if_true] at h
        obtain ⟨rfl, rfl⟩ := h
        refine ⟨_, _, [], (List.append_nil _).symm, leads_manage_iff.mpr hm, ?_⟩
        simp [same]
      · simp only [same, if_false] at h
        obtain ⟨answer, rfl, rfl⟩ := h
        refine ⟨managing, _, _, rfl, leads_manage_iff.mpr hm, ?_⟩
        simp only [same, if_false]
        exact .note (leads_flush_done.mpr ⟨answer, rfl, rfl⟩)

/-- Handling an event takes exactly these courses. -/
theorem leads_handle_iff {handled : Handled} :
    Leads (handle settings now inFlight config retries event) effects handled ↔
      Handling settings now inFlight config retries event effects handled := by
  simp only [handle, Interaction.bind_eq, leads_noteState_bind]
  constructor
  · intro h
    cases decided : decision settings inFlight config retries event with
    | busy =>
      simp only [decided, Interaction.pure_eq, leads_done] at h
      obtain ⟨rfl, rfl⟩ := h
      exact .busy decided
    | ignoreUnmanaged =>
      simp only [decided, Interaction.pure_eq, leads_done] at h
      obtain ⟨rfl, rfl⟩ := h
      exact .ignored (.inl decided)
    | ignoreIrrelevant =>
      simp only [decided, Interaction.pure_eq, leads_done] at h
      obtain ⟨rfl, rfl⟩ := h
      exact .ignored (.inr (.inl decided))
    | ignoreWhileRemoved =>
      simp only [decided, Interaction.pure_eq, leads_note_bind, leads_done] at h
      obtain ⟨rfl, rfl⟩ := h
      exact .ignored (.inr (.inr decided))
    | acknowledgeOwnWrite =>
      simp only [decided, Interaction.pure_eq, leads_note_bind] at h
      cases known : config.conditionHolds Config.credentialType with
      | true =>
        simp only [known, if_true, leads_done] at h
        obtain ⟨rfl, rfl⟩ := h
        exact .acknowledged decided known
      | false =>
        simp only [known, Bool.false_eq_true, if_false, leads_note_bind, leads_flush_done] at h
        obtain ⟨answer, rfl, rfl⟩ := h
        exact .welcomed decided known answer
    | rejectUnstamped =>
      simp only [decided, Interaction.pure_eq, leads_note_bind, leads_flush_done] at h
      obtain ⟨answer, rfl, rfl⟩ := h
      exact .rejected decided answer
    | retryDeletion =>
      simp only [decided, Interaction.pure_eq, leads_note_bind, leads_done] at h
      obtain ⟨rfl, rfl⟩ := h
      exact .postponed decided
    | acceptDeletion =>
      simp only [decided, Interaction.pure_eq, leads_note_bind, leads_flush_done] at h
      obtain ⟨answer, rfl, rfl⟩ := h
      exact .accepted decided answer
    | manageCredential =>
      simp only [decided, leads_bind] at h
      obtain ⟨first, ⟨result, managed⟩, rest, rfl, hm, h⟩ := h
      obtain ⟨rfl, rfl⟩ := leads_done.mp h
      obtain ⟨managing, outcome, course, h⟩ := leads_manageAndFlush.mp hm
      rw [List.append_nil]
      cases outcome with
      | error error =>
        obtain ⟨answer, rfl, ⟨⟩⟩ := h
        exact .failed decided course answer
      | ok held =>
        simp only at h
        split at h
        · obtain ⟨rfl, ⟨⟩⟩ := h
          exact .steady decided course ‹_›
        · obtain ⟨answer, rfl, ⟨⟩⟩ := h
          exact .turned decided course ‹_› answer
  · intro h
    cases h with
    | busy decided => simp [decided]
    | ignored decided =>
      rcases decided with decided | decided | decided
      · simp [decided]
      · simp [decided]
      · simp only [decided]
        exact .note (.done _)
    | acknowledged decided known =>
      simp only [decided, known, if_true]
      exact .note (.done _)
    | welcomed decided news answer =>
      simp only [decided, news, Bool.false_eq_true, if_false]
      exact .note (.note (leads_flush_done.mpr ⟨answer, rfl, rfl⟩))
    | rejected decided answer =>
      simp only [decided]
      exact .note (leads_flush_done.mpr ⟨answer, rfl, rfl⟩)
    | postponed decided =>
      simp only [decided]
      exact .note (.done _)
    | accepted decided answer =>
      simp only [decided]
      exact .note (.note (leads_flush_done.mpr ⟨answer, rfl, rfl⟩))
    | steady decided managing same =>
      simp only [decided]
      have managed := leads_manageAndFlush.mpr ⟨_, _, managing, by
        simp only [same, if_true]
        exact ⟨rfl, rfl⟩⟩
      exact managed.bind_quiet (.done _)
    | turned decided managing changed answer =>
      simp only [decided]
      have managed := leads_manageAndFlush.mpr ⟨_, _, managing, by
        simp only [changed, if_false]
        exact ⟨answer, rfl, rfl⟩⟩
      exact managed.bind_quiet (.done _)
    | failed decided managing answer =>
      simp only [decided]
      have managed := leads_manageAndFlush.mpr ⟨_, _, managing, answer, rfl, rfl⟩
      exact managed.bind_quiet (.done _)

/-- An event that meets upserts in flight is asked for again, and nothing else comes of it. -/
theorem Handling.of_inFlight {handled : Handled} (busy : 0 < inFlight)
    (handling : Handling settings now inFlight config retries event effects handled) :
    effects = [] ∧ handled = ⟨.ok (.retry .upsertInProgress), config, retries⟩ := by
  have decided : decision settings inFlight config retries event = .busy := by
    unfold decision Facts.transition
    exact if_pos busy
  have leads := leads_handle_iff.mpr handling
  simp only [handle, Interaction.bind_eq, leads_noteState_bind, decided, Interaction.pure_eq,
    leads_done] at leads
  exact leads

/-- Nothing comes of an event while the configuration is unmanaged. -/
theorem Handling.of_unmanaged {handled : Handled}
    (unmanaged : config.spec.managementState = .unmanaged)
    (handling : Handling settings now inFlight config retries event effects handled) :
    effects = [] ∧ handled.config = config := by
  by_cases busy : 0 < inFlight
  · obtain ⟨rfl, rfl⟩ := handling.of_inFlight busy
    exact ⟨rfl, rfl⟩
  · have decided : decision settings inFlight config retries event = .ignoreUnmanaged := by
      unfold decision Facts.transition
      exact (if_neg busy).trans (if_pos unmanaged)
    have leads := leads_handle_iff.mpr handling
    simp only [handle, Interaction.bind_eq, leads_noteState_bind, decided, Interaction.pure_eq,
      leads_done] at leads
    obtain ⟨rfl, rfl⟩ := leads
    exact ⟨rfl, rfl⟩

end Sync

end PullSecretSync
