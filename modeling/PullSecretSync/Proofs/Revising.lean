import PullSecretSync.Proofs.Delivering
import PullSecretSync.Proofs.Tracking
import PullSecretSync.Sync.Gate

/-!
# What is written for a configuration

A status is written in two places: for an event, on the configuration that was read for it, and for
the gate, on the configuration that is reconciled. In both the status is the last thing that is
asked for, and what is written is the configuration with its credential's condition set, so it
still names the version that was read. Only the gate puts the missing credential on record, and it
does not when the credential is known to exist.
-/

namespace PullSecretSync

namespace Config

/-- What is written of a configuration for an event: nothing new, if an error is already on
record, or a condition that does not tell of missing content. -/
inductive Tends (base : Config) : Config → Prop
  | known (unclear : (base.condition credentialType).status = .unknown) : Tends base base
  | set (now : Instant) {status : ConditionStatus} {message : String}
      (plain : status = .fails → message = "") :
      Tends base (base.setCondition now credentialType status message)

/-- The credential is reported to be missing. -/
def Lacks (config : Config) : Prop :=
  (config.condition credentialType).status = .fails ∧
    (config.condition credentialType).message = SyncError.missingCredential.message

variable {base written : Config} {now : Instant}

theorem Tends.settle (status : ConditionStatus) :
    base.Tends (base.settle now credentialType status) := .set now fun _ => rfl

theorem Tends.reportError (message : String) :
    base.Tends (base.reportError now credentialType .unknown message) := by
  rw [Config.reportError]
  split
  · rename_i known
    exact .known known.1
  · exact .set now nofun

theorem Tends.metadata_eq (tends : base.Tends written) : written.metadata = base.metadata := by
  cases tends <;> rfl

/-- What is written for an event where the credential existed tells of it anew. -/
theorem Tends.candid (tends : base.Tends written)
    (holds : base.conditionHolds credentialType = true) :
    written.conditions ≠ [] ∧ ¬ written.Lacks := by
  have present : (base.condition credentialType).status = .holds := of_decide_eq_true holds
  cases tends with
  | known unclear => simp [unclear] at present
  | set now plain =>
    refine ⟨Condition.setIn_ne_nil _ _ _ _ _, ?_⟩
    rintro ⟨fails, missing⟩
    rw [status_condition_setCondition] at fails
    rw [message_condition_setCondition, plain fails] at missing
    exact absurd missing (by decide)

theorem gate_metadata (config : Config) (now : Instant) :
    (config.gate now).2.metadata = config.metadata := by
  unfold gate
  dsimp only
  split
  · rfl
  · split
    · rfl
    · simp only [Config.reportError]
      split <;> rfl

/-- The gate writes nothing when the credential exists. -/
theorem gate_of_holds {config : Config} (holds : config.conditionHolds credentialType = true)
    (now : Instant) : (config.gate now).1.flush = false := by
  have present : (config.condition credentialType).status = .holds := of_decide_eq_true holds
  rw [gate, if_pos (by simp [present])]

end Config

namespace Sync

/-! ## Reconciling -/

/-- The courses of reconciling a configuration. -/
inductive Reconciling (config : Config) (now : Instant) :
    List Effect → Except SyncError Unit → Prop
  | passed (still : (config.gate now).1.flush = false) : Reconciling config now [] (.ok ())
  | recorded (flush : (config.gate now).1.flush = true) (answer : Except SyncError Unit) :
      Reconciling config now [.writeStatus (config.gate now).2 answer] answer

private theorem leads_conclude_iff {gate : Gate} {name : String} {effects : List Effect}
    {result : Except SyncError Unit} :
    Leads (reconcile.conclude gate name) effects result ↔ effects = [] ∧ result = .ok () := by
  rw [reconcile.conclude]
  split
  · exact leads_note.trans leads_done
  · exact leads_done

/-- Passing the gate has no effects. -/
private theorem leads_passGate_bind {α : Type} {config : Config} {now : Instant}
    {next : Gate × Config → Sync α} {effects : List Effect} {result : α} :
    Leads ((passGate config now).bind next) effects result ↔
      Leads (next (config.gate now)) effects result := by
  rw [passGate]
  cases flush : (config.gate now).1.flush with
  | false => simp [flush]
  | true => simp [flush, Interaction.bind_assoc]

/-- Passing the gate asks for nothing. -/
theorem leads_passGate_iff {config : Config} {now : Instant} {effects : List Effect}
    {result : Gate × Config} :
    Leads (passGate config now) effects result ↔ effects = [] ∧ result = config.gate now := by
  rw [← Interaction.bind_done (passGate config now), leads_passGate_bind, leads_done]

/-- Reconciling takes exactly these courses. -/
theorem leads_reconcile_iff {config : Config} {now : Instant} {effects : List Effect}
    {result : Except SyncError Unit} :
    Leads (reconcile config now) effects result ↔ Reconciling config now effects result := by
  simp only [reconcile, Interaction.bind_eq, leads_note_bind, leads_passGate_bind]
  cases flush : (config.gate now).1.flush with
  | false =>
    rw [if_neg Bool.false_ne_true, leads_conclude_iff]
    constructor
    · rintro ⟨rfl, rfl⟩
      exact .passed flush
    · intro h
      cases h with
      | passed => exact ⟨rfl, rfl⟩
      | recorded lost => simp [flush] at lost
  | true =>
    rw [if_pos rfl]
    simp only [leads_note_bind, leads_writeStatus_bind]
    constructor
    · rintro ⟨answer, rest, rfl, h⟩
      cases answer with
      | ok =>
        obtain ⟨rfl, rfl⟩ := leads_conclude_iff.mp h
        exact .recorded flush _
      | error =>
        obtain ⟨rfl, rfl⟩ := leads_done.mp h
        exact .recorded flush _
    · intro h
      cases h with
      | passed lost => simp [flush] at lost
      | recorded =>
        refine ⟨result, [], rfl, ?_⟩
        cases result with
        | ok => exact leads_conclude_iff.mpr ⟨rfl, rfl⟩
        | error => exact .done _

/-! ## Handling an event -/

/-- The effect is a call to the store. -/
def Effect.IsStore (effect : Effect) : Prop := ∃ call answer, effect = .store call answer

section Written

variable {settings : Settings} {now : Instant} {inFlight : UInt64} {retries : UInt32}
  {event : SecretEvent} {config written : Config} {effects asked later : List Effect}
  {answer : Except SyncError Unit}

theorem Managing.isStore {version : String} {effect : Effect} {result : Except SyncError Config}
    (managing : Managing version now config event effects result) (asked : effect ∈ effects) :
    effect.IsStore := by
  obtain ⟨call, answer, same, -⟩ := managing.replicates asked
  exact ⟨call, answer, same⟩

/-- Managing the credential leaves the condition as it was, or it sets it. -/
theorem Managing.tends {version : String}
    (managing : Managing version now config event effects (.ok written)) :
    written = config ∨ config.Tends written := by
  cases managing with
  | irrelevant => exact .inl rfl
  | echoed => exact .inl rfl
  | untold => exact .inl rfl
  | restored => exact .inr (.settle _)
  | orphaned => exact .inr (.settle _)
  | withdrawn => exact .inr (.settle _)
  | copied => exact .inr (.settle _)

/-- Handling an event only calls the store, or it calls the store and then writes a status. -/
theorem Handling.write_cases {handled : Handled}
    (handling : Handling settings now inFlight config retries event effects handled) :
    (∀ effect ∈ effects, effect.IsStore) ∨
      ∃ managing written answer, effects = managing ++ [.writeStatus written answer] ∧
        (∀ effect ∈ managing, effect.IsStore) ∧ config.Tends written ∧
        handled.result = flushed answer := by
  have none : ∀ effect ∈ ([] : List Effect), effect.IsStore := List.forall_mem_nil _
  cases handling with
  | welcomed => exact .inr ⟨[], _, _, rfl, none, .settle _, rfl⟩
  | rejected => exact .inr ⟨[], _, _, rfl, none, .reportError _, rfl⟩
  | accepted => exact .inr ⟨[], _, _, rfl, none, .settle _, rfl⟩
  | steady _ managing => exact .inl fun _ asked => managing.isStore asked
  | turned _ managing changed =>
    refine .inr ⟨_, _, _, rfl, fun _ asked => managing.isStore asked, ?_, rfl⟩
    refine managing.tends.resolve_left fun same => changed ?_
    rw [same]
  | failed _ managing =>
    exact .inr ⟨_, _, _, rfl, fun _ asked => managing.isStore asked, .reportError _, rfl⟩
  | _ => exact .inl none

/-- A write behind calls to the store is the only write. -/
private theorem write_inj {managing : List Effect} {last : Config} {reply : Except SyncError Unit}
    (stores : ∀ effect ∈ managing, effect.IsStore)
    (writes : managing ++ [.writeStatus last reply] =
      asked ++ .writeStatus written answer :: later) :
    later = [] ∧ asked = managing ∧ last = written ∧ reply = answer := by
  rcases List.append_eq_append_iff.mp writes with ⟨between, rfl, tail⟩ | ⟨between, rfl, tail⟩
  · cases between with
    | nil =>
      cases tail
      exact ⟨rfl, List.append_nil _, rfl, rfl⟩
    | cons => simp at tail
  · cases between with
    | nil =>
      cases tail
      exact ⟨rfl, (List.append_nil _).symm, rfl, rfl⟩
    | cons first between =>
      obtain ⟨call, reply, same⟩ := stores first (by simp)
      rw [same] at tail
      cases tail

/-- What is written after an event was handled comes last, behind calls to the store. -/
theorem Handling.of_write {handled : Handled}
    (handling : Handling settings now inFlight config retries event effects handled)
    (writes : effects = asked ++ .writeStatus written answer :: later) :
    later = [] ∧ (∀ effect ∈ asked, effect.IsStore) ∧ config.Tends written ∧
      handled.result = flushed answer := by
  rcases handling.write_cases with stores | ⟨managing, last, reply, split, stores, tends, result⟩
  · obtain ⟨call, reply, same⟩ := stores (.writeStatus written answer) (by simp [writes])
    cases same
  · obtain ⟨rfl, rfl, rfl, rfl⟩ := write_inj stores (split.symm.trans writes)
    exact ⟨rfl, stores, tends, result⟩

/-- Only a secret is read to bring an event up. -/
theorem Brings.isRead {delivery : Delivery} {effect : Effect}
    (brings : Brings delivery effects event) (asked : effect ∈ effects) :
    ∃ slot reply, effect = .readSecret slot reply := by
  cases brings with
  | reread =>
    obtain rfl := List.mem_singleton.mp asked
    exact ⟨_, _, rfl⟩
  | _ => cases asked

/-- What is written in the course of a delivery comes last, and it is written of the configuration
that was read. -/
theorem Attending.of_write {delivery : Delivery} {result : Fate × UInt32}
    (attending : Attending settings now inFlight retries delivery effects result)
    (writes : effects = asked ++ .writeStatus written answer :: later) :
    later = [] ∧ ∃ reads base managing,
      asked = reads ++ .readConfig settings.configName (.ok (some base)) :: managing ∧
      (∀ effect ∈ reads, ∃ slot reply, effect = .readSecret slot reply) ∧
      (∀ effect ∈ managing, effect.IsStore) ∧ base.Tends written ∧
      (∀ error, answer = .error error → ∃ event, result.1 = .deferred event) := by
  have asks : .writeStatus written answer ∈ effects := by simp [writes]
  cases attending with
  | vanished => simp at asks
  | unread => simp at asks
  | @brought _ reads event effects _ brings delivering =>
    have early : .writeStatus written answer ∉ reads := fun early => by
      obtain ⟨slot, reply, same⟩ := brings.isRead early
      cases same
    cases delivering with
    | homeless => simp [early] at asks
    | unread => simp [early] at asks
    | @handled base handling handled course =>
      obtain ⟨managing, rfl, split⟩ : ∃ managing,
          asked = reads ++ .readConfig settings.configName (.ok (some base)) :: managing ∧
          handling = managing ++ .writeStatus written answer :: later := by
        rcases List.append_eq_append_iff.mp writes with ⟨between, rfl, tail⟩ | ⟨between, rfl, tail⟩
        · cases between with
          | nil => cases tail
          | cons first between =>
            obtain ⟨rfl, split⟩ := List.cons.inj tail
            exact ⟨between, rfl, split⟩
        · cases between with
          | nil => cases tail
          | cons first between =>
            obtain ⟨rfl, -⟩ := List.cons.inj tail
            simp at early
      obtain ⟨rfl, stores, tends, told⟩ := course.of_write split
      refine ⟨rfl, reads, base, managing, rfl, fun _ => brings.isRead, stores, tends, ?_⟩
      rintro error rfl
      exact ⟨event, by rw [told]; rfl⟩

end Written

end Sync

end PullSecretSync
