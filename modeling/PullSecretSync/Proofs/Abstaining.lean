import PullSecretSync.Proofs.Memory

/-!
# An unmanaged configuration

No event has an effect while the configuration is unmanaged. Reconciling it passes the gate all the
same: it asks nobody what is managed, so a missing credential is reported for an unmanaged
configuration too. Such a report is all that is ever done for one.
-/

namespace PullSecretSync

open Sync

namespace Memory

namespace Step

/-- The step handles an event or reconciles the configuration, or others change what is asked
for. -/
def Operates (step : Step) : Prop :=
  (∃ event inFlight result, step.deed = .handled event inFlight result) ∨ step.Reconciles ∨
    step.deed = .respecified

/-- The step asks nobody for anything and leaves what was found as it was. -/
def HandsOff (step : Step) : Prop :=
  step.effects = [] ∧ step.after.config.status = step.before.config.status

/-- The step reconciles a configuration that lacks the credential without anybody being told. -/
def Lacks (step : Step) : Prop :=
  step.Reconciles ∧ step.before.config.needsCredential = true ∧ ¬ step.before.config.Told

variable {settings : Settings} {step : Step}

/-- What is lacking is written, whatever the management state. -/
theorem Course.of_lacks (course : step.Course settings) (lacks : step.Lacks) :
    ∃ answer, step.effects =
      [.writeStatus (step.before.config.record step.now .lacking) answer] := by
  obtain ⟨⟨result, deed⟩, lacking⟩ := lacks
  have flush : (step.before.config.gate step.now).1.flush = true :=
    Config.gate_flush_iff.mpr lacking
  obtain ⟨reconciling, -⟩ := course.reconciling deed
  generalize step.effects = effects at reconciling ⊢
  cases reconciling with
  | passed still => simp [still] at flush
  | recorded =>
    refine ⟨result, ?_⟩
    rw [Config.gate_config, if_pos flush]

/-- For an unmanaged configuration nothing is done unless it lacks the credential. -/
theorem Course.handsOff_or_lacks (course : step.Course settings) (operates : step.Operates)
    (unmanaged : step.before.config.spec.managementState = .unmanaged) :
    step.HandsOff ∨ step.Lacks := by
  rcases operates with ⟨event, inFlight, result, deed⟩ | ⟨result, deed⟩ | deed
  · rw [Course, deed] at course
    obtain ⟨still, same⟩ := (leads_handle_iff.mp course).of_unmanaged unmanaged
    exact .inl ⟨still, congrArg (·.status) same⟩
  · obtain ⟨reconciling, kept⟩ := course.reconciling deed
    generalize effects : step.effects = asked at reconciling
    cases reconciling with
    | passed =>
      refine .inl ⟨effects, ?_⟩
      rw [kept, effects]
      rfl
    | recorded flush => exact .inr ⟨⟨result, deed⟩, Config.gate_flush_iff.mp flush⟩
  · rw [Course, deed] at course
    exact .inl ⟨course.1, course.2.1⟩

end Step

/-- What is done for an unmanaged configuration. -/
structure Abstains (start : Memory) (steps : List Step) : Prop where
  /-- The store is not called. -/
  stores : ∀ step ∈ steps, ∀ effect ∈ step.effects, ¬ effect.IsStore
  /-- All that is written is that the credential is missing. -/
  written : ∀ step ∈ steps, step.HandsOff ∨ step.Lacks ∧ ∃ answer,
    step.effects = [.writeStatus (step.before.config.record step.now .lacking) answer]
  /-- Nothing is done at all exactly if the gate was told before, or the credential is never needed
  by what is reconciled. -/
  handsOff_iff : (∀ step ∈ steps, step.HandsOff) ↔
    start.config.Told ∨ ∀ step ∈ steps, step.Reconciles → step.before.config.needsCredential = false

namespace Runs

variable {settings : Settings} {start last : Memory} {steps : List Step}

/-- Without a step that does anything, what was found stays. -/
theorem status_eq (run : Runs settings start steps last) (still : ∀ step ∈ steps, step.HandsOff) :
    last.config.status = start.config.status := by
  induction run with
  | nil => rfl
  | @concat steps step rest course ih =>
    have early : step.before.config.status = start.config.status :=
      ih fun other member => still other (List.mem_append_left _ member)
    have final : step.HandsOff := still step (by simp)
    exact final.2.trans early

/-- A run that starts told, or that reconciles nothing that needs the credential, does nothing for
an unmanaged configuration. -/
theorem handsOff (run : Runs settings start steps last) (operates : ∀ step ∈ steps, step.Operates)
    (unmanaged : ∀ step ∈ steps, step.before.config.spec.managementState = .unmanaged)
    (harmless : start.config.Told ∨
      ∀ step ∈ steps, step.Reconciles → step.before.config.needsCredential = false) :
    ∀ step ∈ steps, step.HandsOff := by
  induction run with
  | nil => exact List.forall_mem_nil _
  | @concat steps step rest course ih =>
    have early : ∀ other ∈ steps, other.HandsOff := by
      refine ih (fun other member => operates other (List.mem_append_left _ member))
        (fun other member => unmanaged other (List.mem_append_left _ member)) ?_
      exact harmless.imp_right fun unneeded other member =>
        unneeded other (List.mem_append_left _ member)
    have final : step.HandsOff := by
      refine (course.handsOff_or_lacks (operates step (by simp)) (unmanaged step (by simp))
        ).resolve_right ?_
      rintro ⟨reconciles, needed, untold⟩
      rcases harmless with told | unneeded
      · exact untold ((Config.told_congr (rest.status_eq early)).mpr told)
      · simp [unneeded step (by simp) reconciles] at needed
    intro other member
    rcases List.mem_append.mp member with before | same
    · exact early other before
    · obtain rfl := List.mem_singleton.mp same
      exact final

/-- **What is done for an unmanaged configuration.** Whatever else is asked for, and whatever
events and reconciliations there are: the store is left alone, and nothing is written but the lack
of the credential. Nothing at all is done unless it is needed and was not reported. -/
theorem abstains (run : Runs settings start steps last) (operates : ∀ step ∈ steps, step.Operates)
    (unmanaged : ∀ step ∈ steps, step.before.config.spec.managementState = .unmanaged) :
    Abstains start steps := by
  have written : ∀ step ∈ steps, step.HandsOff ∨ step.Lacks ∧ ∃ answer,
      step.effects = [.writeStatus (step.before.config.record step.now .lacking) answer] := by
    intro step member
    have course : step.Course settings := run.course_of_mem member
    exact (course.handsOff_or_lacks (operates step member) (unmanaged step member)).imp_right
      fun lacks => ⟨lacks, course.of_lacks lacks⟩
  refine ⟨?_, written, ?_, run.handsOff operates unmanaged⟩
  · rintro step member effect asked ⟨call, answer, rfl⟩
    rcases written step member with ⟨still, -⟩ | ⟨-, reply, writes⟩
    · simp [still] at asked
    · simp [writes] at asked
  · intro still
    by_cases told : start.config.Told
    · exact .inl told
    · refine .inr fun step member reconciles => ?_
      by_contra needed
      obtain ⟨before, after, rfl⟩ := List.append_of_mem member
      obtain ⟨rest, course, -⟩ := run.at_step
      have same : step.before.config.status = start.config.status :=
        rest.status_eq fun other early => still other (List.mem_append_left _ early)
      have untold : ¬ step.before.config.Told := (Config.told_congr same).not.mpr told
      obtain ⟨answer, writes⟩ := course.of_lacks ⟨reconciles, by simpa using needed, untold⟩
      have quiet : step.effects = [] := (still step member).1
      simp [writes] at quiet

end Runs

/-- The pull secret turns up and is ignored, and then the lack of the credential is written for an
unmanaged configuration of rhel content. -/
theorem not_handsOff_of_needed_credential :
    let settings : Settings := ⟨"4.1.0", "cluster", 3, 5⟩
    let source : Secret := { metadata := { name := some "coreos-pull-secret",
                                           space := some "kube-system" } }
    let config := Config.new "cluster" { installType := .rhel, managementState := .unmanaged }
    let lacking := config.record ⟨2, 0⟩ .lacking
    let steps : List Step := [
      ⟨⟨1, 0⟩, ⟨config, 0⟩, .handled (.applied source) 0 (.ok .ignored), [], ⟨config, 0⟩⟩,
      ⟨⟨2, 0⟩, ⟨config, 0⟩, .reconciled (.ok ()), [.writeStatus lacking (.ok ())],
        ⟨lacking, 0⟩⟩]
    (∀ step ∈ steps, step.Operates) ∧
      (∀ step ∈ steps, step.before.config.spec.managementState = .unmanaged) ∧
      Runs settings ⟨config, 0⟩ steps ⟨lacking, 0⟩ ∧ Abstains ⟨config, 0⟩ steps ∧
      ¬ (∀ step ∈ steps, step.HandsOff) ∧ config.status ≠ lacking.status := by
  intro settings source config lacking steps
  have operates : ∀ step ∈ steps, step.Operates := by
    simp [steps, Step.Operates, Step.Reconciles]
  have unmanaged : ∀ step ∈ steps, step.before.config.spec.managementState = .unmanaged := by
    simp [steps, config, Config.new]
  have ignoring : Handling settings ⟨1, 0⟩ 0 config 0 (.applied source) _ _ :=
    .ignored (.inl (by decide))
  have ignored : Step.Course settings steps[0] := leads_handle_iff.mpr ignoring
  have written : Step.Course settings steps[1] :=
    ⟨leads_reconcile_iff.mpr (.recorded (by decide) (.ok ())), rfl⟩
  have run : Runs settings ⟨config, 0⟩ steps ⟨lacking, 0⟩ :=
    (Runs.nil.concat ignored).concat written
  have abstains := run.abstains operates unmanaged
  refine ⟨operates, unmanaged, run, abstains, ?_, by decide⟩
  rw [abstains.handsOff_iff]
  rintro (told | unneeded)
  · rcases told with holds | worded
    · exact absurd holds (by decide)
    · exact worded rfl
  · exact absurd (unneeded steps[1] (by simp [steps]) ⟨_, rfl⟩) (by decide)

end Memory

end PullSecretSync
