import PullSecretSync.Proofs.Agreement

/-!
# The clock decides nothing

The time is only read to stamp a condition. At another time, and for a configuration that differs in
its times, an event takes the same course: the store is called with the same and answers the same,
and a status is written in the same place, with other times in it. Surroundings that do not look
at these times either are left in the same state.
-/

namespace PullSecretSync

open Sync

section Retiming

variable (Times : Instant → Instant → Prop)

/-- Two effects are the same, but for the times in a status that is written. -/
inductive Sync.Effect.Retimed : Effect → Effect → Prop
  | same (effect : Effect) : Retimed effect effect
  | written {config other : Config} (configs : config.Agrees Times other)
      (answer : Except SyncError Unit) :
      Retimed (.writeStatus config answer) (.writeStatus other answer)

/-- Surroundings that neither the log nor the times in a status make a difference to. -/
structure Timeless {σ : Type} (answer : (question : Call) → σ → question.Answer × σ) : Prop where
  quiet : ∀ entry state, answer (.note entry) state = ((), state)
  written : ∀ config other : Config, config.Agrees Times other → ∀ state,
    answer (.writeStatus config) state = answer (.writeStatus other) state

end Retiming

variable {Times : Instant → Instant → Prop} {now now' : Instant} {config other : Config}
  {event : SecretEvent} {effects again : List Effect}

namespace Sync

/-- Effects are the same as themselves. -/
theorem Effect.retimed_refl (effects : List Effect) :
    List.Forall₂ (Effect.Retimed Times) effects effects :=
  List.forall₂_same.mpr fun effect _ => .same effect

/-- Managing the credential calls the store alike and settles the condition alike. -/
theorem Managing.retimed {version : String} {result : Except SyncError Config}
    (managing : Managing version now config event effects result)
    (agrees : config.Agrees Times other) (times : Times now now') :
    ∃ result', Managing version now' other event effects result' ∧
      Likewise (Config.Agrees Times) result result' := by
  have settled (status : ConditionStatus) :
      (config.settle now Config.credentialType status).Agrees Times
        (other.settle now' Config.credentialType status) :=
    agrees.setCondition times
  cases managing with
  | irrelevant role => exact ⟨_, .irrelevant role, .ok agrees⟩
  | echoed role deleted => exact ⟨_, .echoed role deleted, .ok agrees⟩
  | restored role deleted copying told =>
    exact ⟨_, .restored role deleted copying told, .ok (settled _)⟩
  | untold role deleted copying => exact ⟨_, .untold role deleted copying, .ok agrees⟩
  | orphaned role deleted copying missing =>
    exact ⟨_, .orphaned role deleted copying missing, .ok (settled _)⟩
  | unrestored role deleted copying missing =>
    exact ⟨_, .unrestored role deleted copying missing, .error _⟩
  | withdrawn role deleted absent => exact ⟨_, .withdrawn role deleted absent, .ok (settled _)⟩
  | kept role deleted missing => exact ⟨_, .kept role deleted missing, .error _⟩
  | copied role deleted copying => exact ⟨_, .copied role deleted copying, .ok (settled _)⟩
  | uncopied role deleted copying => exact ⟨_, .uncopied role deleted copying, .error _⟩

/-- An event is handled alike at another time. -/
theorem Handling.retimed {settings : Settings} {inFlight : UInt64} {retries : UInt32}
    {handled : Handled}
    (handling : Handling settings now inFlight config retries event effects handled)
    (agrees : config.Agrees Times other) (times : Times now now') :
    ∃ again handled', Handling settings now' inFlight other retries event again handled' ∧
      List.Forall₂ (Effect.Retimed Times) effects again ∧ handled.Agrees Times handled' := by
  have decision : decision settings inFlight config retries event =
      decision settings inFlight other retries event :=
    congrArg Facts.transition (SecretEvent.facts_of_sealed rfl agrees)
  have holds : config.conditionHolds Config.credentialType =
      other.conditionHolds Config.credentialType :=
    agrees.conditionHolds _
  have status : (config.condition Config.credentialType).status =
      (other.condition Config.credentialType).status :=
    (agrees.condition _).status
  have settled (status : ConditionStatus) :
      (config.settle now Config.credentialType status).Agrees Times
        (other.settle now' Config.credentialType status) :=
    agrees.setCondition times
  have reported (error : SyncError) :
      (troubled config now error).Agrees Times (troubled other now' error) :=
    agrees.reportError times
  have wrote {written rewritten : Config} (configs : written.Agrees Times rewritten)
      (asked : List Effect) (answer : Except SyncError Unit) :
      List.Forall₂ (Effect.Retimed Times) (asked ++ [.writeStatus written answer])
        (asked ++ [.writeStatus rewritten answer]) :=
    List.rel_append (Effect.retimed_refl asked) (.cons (.written configs answer) .nil)
  cases handling with
  | busy decided => exact ⟨_, _, .busy (decision.symm.trans decided), .nil, rfl, agrees, rfl⟩
  | ignored decided =>
    rw [decision] at decided
    exact ⟨_, _, .ignored decided, .nil, rfl, agrees, rfl⟩
  | acknowledged decided known =>
    rw [holds] at known
    exact ⟨_, _, .acknowledged (decision.symm.trans decided) known, .nil, rfl, agrees, rfl⟩
  | welcomed decided news answer =>
    rw [holds] at news
    exact ⟨_, _, .welcomed (decision.symm.trans decided) news answer, wrote (settled _) [] answer,
      rfl, settled _, rfl⟩
  | rejected decided answer =>
    exact ⟨_, _, .rejected (decision.symm.trans decided) answer, wrote (reported _) [] answer,
      rfl, reported _, rfl⟩
  | postponed decided =>
    exact ⟨_, _, .postponed (decision.symm.trans decided), .nil, rfl, agrees, rfl⟩
  | accepted decided answer =>
    exact ⟨_, _, .accepted (decision.symm.trans decided) answer, wrote (settled _) [] answer,
      rfl, settled _, rfl⟩
  | steady decided managing same =>
    obtain ⟨_, managing, likewise⟩ := managing.retimed agrees times
    cases likewise with
    | ok managed =>
      rw [(managed.condition _).status, status] at same
      exact ⟨_, _, .steady (decision.symm.trans decided) managing same, Effect.retimed_refl _,
        rfl, managed, rfl⟩
  | turned decided managing changed answer =>
    obtain ⟨_, managing, likewise⟩ := managing.retimed agrees times
    cases likewise with
    | ok managed =>
      rw [(managed.condition _).status, status] at changed
      exact ⟨_, _, .turned (decision.symm.trans decided) managing changed answer,
        wrote managed _ answer, rfl, managed, rfl⟩
  | failed decided managing answer =>
    obtain ⟨_, managing, likewise⟩ := managing.retimed agrees times
    cases likewise with
    | error =>
      exact ⟨_, _, .failed (decision.symm.trans decided) managing answer,
        wrote (reported _) _ answer, rfl, reported _, rfl⟩

end Sync

/-- Surroundings that the times make no difference to serve both courses, and are left in the same
state. -/
theorem Timeless.serves {σ : Type} {answer : (question : Call) → σ → question.Answer × σ}
    {state last : σ} (timeless : Timeless Times answer)
    (retimed : List.Forall₂ (Effect.Retimed Times) effects again)
    (serves : Serves answer state effects last) : Serves answer state again last := by
  induction retimed generalizing state with
  | nil => exact serves
  | cons head rest ih =>
    cases head with
    | same effect =>
      obtain ⟨same, further⟩ := serves_cons_iff.mp serves
      exact serves_cons_iff.mpr ⟨same, ih further⟩
    | written configs =>
      obtain ⟨same, further⟩ := serves_cons_iff.mp serves
      rw [timeless.written _ _ configs] at same further
      exact serves_cons_iff.mpr ⟨same, ih further⟩

end PullSecretSync
