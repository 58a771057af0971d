import PullSecretSync.Proofs.Memory

/-!
# What the condition of the credential tells

A configuration that starts without the credential's condition never gets more than one of its
type, and that one is of few shapes. Its message is never outdated: a condition that holds has
none, and one that does not hold has none only while nothing was reported.
-/

namespace PullSecretSync

open Sync

/-- What the conditions of the credential's type may be. -/
inductive Recorded : List Condition → Prop
  | none : Recorded []
  | holds {condition : Condition} (status : condition.status = .holds)
      (message : condition.message = "") : Recorded [condition]
  | fails {condition : Condition} (status : condition.status = .fails)
      (message : condition.message = "") : Recorded [condition]
  | lacks {condition : Condition} (status : condition.status = .fails)
      (message : condition.message = SyncError.missingCredential.message) : Recorded [condition]
  | unclear {condition : Condition} (status : condition.status = .unknown) (error : SyncError)
      (message : condition.message = error.message) (worded : condition.message ≠ "") :
      Recorded [condition]

namespace Recorded

variable {config : Config} {now : Instant} {verdict : Verdict}

theorem length_le {conditions : List Condition} (recorded : Recorded conditions) :
    conditions.length ≤ 1 := by
  cases recorded with
  | none => exact Nat.zero_le 1
  | _ => exact Nat.le_refl 1

/-- A verdict keeps the shape. -/
theorem record (recorded : Recorded config.credentials) :
    Recorded (config.record now verdict).credentials := by
  have status : ((config.record now verdict).condition Config.credentialType).status =
      verdict.status := Config.status_condition_record
  have message : ((config.record now verdict).condition Config.credentialType).message =
      verdict.message := Config.message_condition_record
  rw [Config.credentials_record recorded.length_le]
  cases verdict with
  | present => exact .holds status message
  | absent => exact .fails status message
  | lacking => exact .lacks status message
  | failed error =>
    refine .unclear status error message ?_
    rw [message]
    exact error.message_ne_empty

/-- A condition that holds has no message. -/
theorem message_eq_empty (recorded : Recorded config.credentials)
    (holds : (config.condition Config.credentialType).status = .holds) :
    (config.condition Config.credentialType).message = "" := by
  rw [Config.condition_eq_head] at holds ⊢
  generalize config.credentials = conditions at recorded holds
  cases recorded with
  | none => rfl
  | holds _ message => exact message
  | fails status => exact absurd (status.symm.trans holds) (by decide)
  | lacks status => exact absurd (status.symm.trans holds) (by decide)
  | unclear status => exact absurd (status.symm.trans holds) (by decide)

end Recorded

namespace Memory

/-- Nothing was reported since the condition was cleared last, or since the first step. -/
def Unreported (steps : List Step) : Prop :=
  ∃ earlier later, steps = earlier ++ later ∧
    (earlier = [] ∨ ∃ rest step, earlier = rest ++ [step] ∧ step.Clears) ∧
    ∀ step ∈ later, ¬ step.Reports

/-- What the condition of the credential tells after some steps. -/
structure Tells (config : Config) (steps : List Step) : Prop where
  recorded : Recorded config.credentials
  /-- No message is left from before on a condition that holds. -/
  clear : (config.condition Config.credentialType).status = .holds →
    (config.condition Config.credentialType).message = ""
  /-- An empty message on any other condition stands for what was not reported. -/
  unreported : (config.condition Config.credentialType).status ≠ .holds →
    (config.condition Config.credentialType).message = "" → Unreported steps

variable {settings : Settings} {start last : Memory} {steps : List Step} {step : Step}

/-- A report tells the gate. -/
theorem Step.Reports.told (reports : step.Reports) : step.after.config.Told := by
  obtain ⟨status, error, reported⟩ := reports
  rw [reported]
  refine .inr ?_
  rw [Config.message_condition_reportError]
  exact error.message_ne_empty

namespace Runs

/-- The record keeps its shape. -/
theorem recorded (run : Runs settings start steps last)
    (fresh : start.config.credentials = []) : Recorded last.config.credentials := by
  induction run with
  | nil =>
    rw [fresh]
    exact .none
  | concat rest course ih =>
    rcases course.records with same | ⟨verdict, recorded⟩
    · rw [Config.credentials_congr same]
      exact ih
    · rw [recorded]
      exact ih.record

/-- What the gate was not told was not reported. -/
theorem unreported (run : Runs settings start steps last) (untold : ¬ last.config.Told) :
    Unreported steps := by
  induction run with
  | nil => exact ⟨[], [], rfl, .inl rfl, List.forall_mem_nil _⟩
  | @concat steps step rest course ih =>
    by_cases told : step.before.config.Told
    · have clears : step.Clears := (course.told_or_clears told).resolve_left untold
      exact ⟨steps ++ [step], [], (List.append_nil _).symm, .inr ⟨steps, step, rfl, clears⟩,
        List.forall_mem_nil _⟩
    · obtain ⟨earlier, later, rfl, cleared, silent⟩ := ih told
      refine ⟨earlier, later ++ [step], List.append_assoc .., cleared, ?_⟩
      intro other member reports
      rcases List.mem_append.mp member with early | final
      · exact silent other early reports
      · obtain rfl := List.mem_singleton.mp final
        exact untold reports.told

/-- **The shapes of the credential's condition.** Whatever happens to a configuration that starts
without the condition, and whatever store and writer answer: there is at most one condition of
the type, it has one of the shapes, and its message tells what was reported last. -/
theorem tells (run : Runs settings start steps last)
    (fresh : start.config.credentials = []) : Tells last.config steps where
  recorded := run.recorded fresh
  clear := (run.recorded fresh).message_eq_empty
  unreported := by
    intro lost blank
    apply run.unreported
    rintro (holds | worded)
    · exact lost holds
    · exact worded blank

end Runs

/-- The lack of the credential is reported, an unstamped replica turns up, and the pull secret is
deleted. Neither of the two writes succeeds, and in the end there is nothing that was reported. -/
theorem tells_after_failed_writes :
    let settings : Settings := ⟨"4.1.0", "cluster", 3, 5⟩
    let source : Secret := { metadata := { name := some "coreos-pull-secret",
                                           space := some "kube-system" } }
    let stray : Secret := { metadata := { name := some "samples-registry-credentials",
                                          space := some "openshift" } }
    let config := Config.new "cluster" { installType := .rhel }
    let lacking := config.record ⟨1, 0⟩ .lacking
    let troubled := lacking.record ⟨2, 0⟩ (.failed (.unstamped "openshift"))
    let absent := troubled.record ⟨3, 0⟩ .absent
    let lost : Except SyncError Unit := .error (.conflict "cluster")
    let steps : List Step := [
      ⟨⟨1, 0⟩, ⟨config, 0⟩, .gated ⟨true, true⟩, [], ⟨lacking, 0⟩⟩,
      ⟨⟨2, 0⟩, ⟨lacking, 0⟩, .handled (.applied stray) 0 (flushed lost),
        [.writeStatus troubled lost], ⟨troubled, 0⟩⟩,
      ⟨⟨3, 0⟩, ⟨troubled, 0⟩, .handled (.removed source) 0 (flushed lost),
        [.delete (.ok ()), .writeStatus absent lost], ⟨absent, 0⟩⟩]
    config.credentials = [] ∧ Runs settings ⟨config, 0⟩ steps ⟨absent, 0⟩ ∧
      Tells absent steps ∧ (absent.condition Config.credentialType).status = .fails ∧
      Unreported steps := by
  intro settings source stray config lacking troubled absent lost steps
  have fresh : config.credentials = [] := rfl
  have gated : Step.Course settings steps[0] := ⟨leads_passGate_iff.mpr ⟨rfl, rfl⟩, rfl⟩
  have rejecting : Handling settings ⟨2, 0⟩ 0 lacking 0 (.applied stray) _ _ :=
    .rejected (by decide) lost
  have rejected : Step.Course settings steps[1] := leads_handle_iff.mpr rejecting
  have deleted : gone (.ok ()) = true := rfl
  have managing : Managing "4.1.0" ⟨3, 0⟩ troubled (.removed source) _ (.ok absent) :=
    .withdrawn rfl rfl deleted
  have turning : Handling settings ⟨3, 0⟩ 0 troubled 0 (.removed source) _ _ :=
    .turned (by decide) managing (by decide) lost
  have turned : Step.Course settings steps[2] := leads_handle_iff.mpr turning
  have run : Runs settings ⟨config, 0⟩ steps ⟨absent, 0⟩ :=
    ((Runs.nil.concat gated).concat rejected).concat turned
  have told := run.tells fresh
  exact ⟨fresh, run, told, by decide, told.unreported (by decide) (by decide)⟩

end Memory

end PullSecretSync
