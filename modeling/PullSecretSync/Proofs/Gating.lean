import PullSecretSync.Proofs.Memory

/-!
# The gate along a run

The gate holds content back as long as it needs a credential that is not there. That the credential
is missing is reported once: before the gate asks for another write, some step has cleared the
condition.
-/

namespace PullSecretSync

open Sync

/-- The credential is needed for rhel content from its own registry, which is the one that is used
where none is named. -/
theorem Config.needsCredential_iff {config : Config} : config.needsCredential = true ↔
    config.spec.installType = .rhel ∧
      config.spec.samplesRegistry ∈ [none, some "", some "registry.redhat.io"] := by
  unfold needsCredential credentialRegistry
  cases config.spec.installType with
  | centos => simp
  | rhel => cases config.spec.samplesRegistry <;> simp

/-- The gate blocks exactly as long as the credential is needed and not known to exist. -/
theorem Config.gate_block_iff {config : Config} {now : Instant} :
    (config.gate now).1.block = true ↔ config.needsCredential = true ∧
      (config.condition credentialType).status ≠ .holds := by
  unfold gate
  cases needed : config.needsCredential with
  | false => simp
  | true =>
    by_cases holds : (config.condition credentialType).status = .holds
    · simp [holds]
    · by_cases blank : (config.condition credentialType).message = ""
      · simp [holds, blank]
      · simp [holds, blank]

namespace Memory

namespace Step

/-- The step passes the gate, which asks for a write. -/
def Flushes (step : Step) : Prop := ∃ gate, step.gate? = some gate ∧ gate.flush = true

/-- How a step passes the gate. -/
structure Passes (step : Step) (gate : Gate) : Prop where
  block_iff : gate.block = true ↔
    step.before.config.spec.installType = .rhel ∧
      step.before.config.spec.samplesRegistry ∈ [none, some "", some "registry.redhat.io"] ∧
      (step.before.config.condition Config.credentialType).status ≠ .holds
  block_of_flush : gate.flush = true → gate.block = true
  /-- Whether the credential is known to exist is left as it is. -/
  holds : step.after.config.conditionHolds Config.credentialType =
    step.before.config.conditionHolds Config.credentialType
  others : step.after.config.conditions.filter (·.type ≠ Config.credentialType) =
    step.before.config.conditions.filter (·.type ≠ Config.credentialType)
  still : gate.flush = false → step.after = step.before

variable {settings : Settings} {step : Step} {gate : Gate}

/-- What the gate says, and what it leaves, is what a configuration's gate does. -/
theorem Course.gate_eq (course : step.Course settings)
    (succeeded : ∀ result, step.deed = .reconciled result → result = .ok ())
    (passing : step.gate? = some gate) :
    gate = (step.before.config.gate step.now).1 ∧
      step.after = { step.before with config := (step.before.config.gate step.now).2 } := by
  unfold gate? at passing
  split at passing
  · rename_i passed deed
    cases passing
    rw [Course, deed] at course
    obtain ⟨leads, kept⟩ := course
    obtain ⟨-, result⟩ := leads_passGate_iff.mp leads
    have config : step.after.config = (step.before.config.gate step.now).2 :=
      congrArg (·.2) result
    have after : step.after = ⟨step.after.config, step.after.retries⟩ := rfl
    refine ⟨congrArg (·.1) result, ?_⟩
    rw [after, config, kept]
  · rename_i result deed
    cases passing
    rcases course.reconciled_cases deed with ⟨-, kept⟩ | ⟨⟨error, failed⟩, -⟩
    · exact ⟨rfl, kept⟩
    · have fine : result = .ok () := succeeded result deed
      rw [failed] at fine
      cases fine
  · cases passing

/-- A step that asks for a write has found something to report, and has put it on record. -/
theorem Course.told_of_flushes (course : step.Course settings)
    (succeeded : ∀ result, step.deed = .reconciled result → result = .ok ())
    (flushes : step.Flushes) : ¬ step.before.config.Told ∧ step.after.config.Told := by
  obtain ⟨gate, passing, flush⟩ := flushes
  obtain ⟨rfl, kept⟩ := course.gate_eq succeeded passing
  refine ⟨(Config.gate_flush_iff.mp flush).2, ?_⟩
  have recorded : step.after.config = step.before.config.record step.now .lacking := by
    rw [kept, Config.gate_config, if_pos flush]
  rw [recorded, Config.told_record_iff]
  intro same
  cases same

/-- A gate blocks as long as the credential is needed and not there. It only adds a report. -/
theorem Course.passes (course : step.Course settings)
    (succeeded : ∀ result, step.deed = .reconciled result → result = .ok ())
    (passing : step.gate? = some gate) : step.Passes gate := by
  obtain ⟨rfl, kept⟩ := course.gate_eq succeeded passing
  have flushed (flush : (step.before.config.gate step.now).1.flush = true) :
      step.after.config = step.before.config.record step.now .lacking := by
    rw [kept, Config.gate_config, if_pos flush]
  have still (quiet : (step.before.config.gate step.now).1.flush = false) :
      step.after = step.before := by
    rw [kept, Config.gate_config, quiet]
    rfl
  constructor
  case block_iff => rw [Config.gate_block_iff, Config.needsCredential_iff, and_assoc]
  case block_of_flush =>
    intro flush
    obtain ⟨needed, untold⟩ := Config.gate_flush_iff.mp flush
    exact Config.gate_block_iff.mpr ⟨needed, fun holds => untold (.inl holds)⟩
  case holds =>
    cases flush : (step.before.config.gate step.now).1.flush with
    | false => rw [still flush]
    | true =>
      have untold : ¬ step.before.config.Told := (Config.gate_flush_iff.mp flush).2
      have lost : (step.before.config.condition Config.credentialType).status ≠ .holds :=
        fun holds => untold (.inl holds)
      rw [flushed flush, Config.conditionHolds, Config.conditionHolds,
        Config.status_condition_record]
      simp [lost, Verdict.status]
  case others =>
    cases flush : (step.before.config.gate step.now).1.flush with
    | false => rw [still flush]
    | true => rw [flushed flush, Config.others_record]
  case still => exact still

/-- A reconciled configuration that gets written is written as the gate left it, and reconciling
what was written asks for nothing. -/
theorem Course.settled (course : step.Course settings) {result : Except SyncError Unit}
    (deed : step.deed = .reconciled result) (succeeded : result = .ok ()) :
    (step.effects = [] ∧ ¬ step.Flushes) ∨
      (step.effects = [.writeStatus step.after.config (.ok ())] ∧ step.Flushes ∧
        ∀ now effects again, Leads (reconcile step.after.config now) effects again →
          effects = [] ∧ again = .ok ()) := by
  have passing : step.gate? = some (step.before.config.gate step.now).1 := by
    rw [gate?, deed]
  have fine : ∀ other, step.deed = .reconciled other → other = .ok () := by
    intro other same
    cases deed.symm.trans same
    exact succeeded
  obtain ⟨-, kept⟩ := course.gate_eq fine passing
  obtain ⟨reconciling, -⟩ := course.reconciling deed
  generalize effects : step.effects = asked at reconciling
  cases reconciling with
  | passed still =>
    refine .inl ⟨rfl, ?_⟩
    rintro ⟨gate, passed, flush⟩
    cases passing.symm.trans passed
    simp [still] at flush
  | recorded flush =>
    have flushes : step.Flushes := ⟨_, passing, flush⟩
    have told : step.after.config.Told := (course.told_of_flushes fine flushes).2
    refine .inr ⟨by rw [kept, succeeded], flushes, ?_⟩
    intro now effects again leads
    cases leads_reconcile_iff.mp leads with
    | passed => exact ⟨rfl, rfl⟩
    | recorded lost => exact absurd told (Config.gate_flush_iff.mp lost).2

end Step

/-- What the gate does along a run. -/
structure Gates (steps : List Step) : Prop where
  passes : ∀ step ∈ steps, ∀ gate, step.gate? = some gate → step.Passes gate
  /-- The condition is cleared between two writes that the gate asks for. -/
  cleared : ∀ early first between second late,
    steps = early ++ first :: between ++ second :: late → first.Flushes → second.Flushes →
      ∃ step ∈ between, step.Clears
  /-- Reconciling writes what the gate asks for. To reconcile what was written needs no write. -/
  settled : ∀ step ∈ steps, step.Reconciles →
    (step.effects = [] ∧ ¬ step.Flushes) ∨
      (step.effects = [.writeStatus step.after.config (.ok ())] ∧ step.Flushes ∧
        ∀ now effects again, Leads (reconcile step.after.config now) effects again →
          effects = [] ∧ again = .ok ())

variable {settings : Settings} {start last : Memory} {steps : List Step}

/-- **The gate blocks when needed and reports once.** In every run whose reconciliations get their
writes through, whatever else happens in it. -/
theorem Runs.gates (run : Runs settings start steps last)
    (succeeded : ∀ step ∈ steps, ∀ result, step.deed = .reconciled result → result = .ok ()) :
    Gates steps where
  passes := by
    intro step member gate passing
    exact (run.course_of_mem member).passes (succeeded step member) passing
  cleared := by
    rintro early first between second late rfl flushed again
    have told : first.after.config.Told :=
      ((run.course_of_mem (by simp)).told_of_flushes (succeeded first (by simp)) flushed).2
    have untold : ¬ second.before.config.Told :=
      ((run.course_of_mem (by simp)).told_of_flushes (succeeded second (by simp)) again).1
    by_contra kept
    push Not at kept
    have tail : Runs settings start (early ++ first :: between) second.before :=
      run.at_step.1
    exact untold (tail.at_step.2.2.told_of_not_clears told kept)
  settled := by
    rintro step member ⟨result, deed⟩
    exact (run.course_of_mem member).settled deed (succeeded step member result deed)

/-- The lack of the credential is written, the pull secret is deleted, and the lack is written
again: the deletion has cleared the condition. -/
theorem gates_after_deletion :
    let settings : Settings := ⟨"4.1.0", "cluster", 3, 5⟩
    let source : Secret := { metadata := { name := some "coreos-pull-secret",
                                           space := some "kube-system" } }
    let config := Config.new "cluster" { installType := .rhel }
    let lacking := config.record ⟨1, 0⟩ .lacking
    let absent := lacking.record ⟨2, 0⟩ .absent
    let renewed := absent.record ⟨3, 0⟩ .lacking
    let steps : List Step := [
      ⟨⟨1, 0⟩, ⟨config, 0⟩, .reconciled (.ok ()), [.writeStatus lacking (.ok ())],
        ⟨lacking, 0⟩⟩,
      ⟨⟨2, 0⟩, ⟨lacking, 0⟩, .handled (.removed source) 0 (.ok .unchanged),
        [.delete (.ok ())], ⟨absent, 0⟩⟩,
      ⟨⟨3, 0⟩, ⟨absent, 0⟩, .reconciled (.ok ()), [.writeStatus renewed (.ok ())],
        ⟨renewed, 0⟩⟩]
    (∀ step ∈ steps, ∀ result, step.deed = .reconciled result → result = .ok ()) ∧
      Runs settings ⟨config, 0⟩ steps ⟨renewed, 0⟩ ∧ Gates steps ∧
      steps[0].Flushes ∧ steps[1].Clears ∧ steps[2].Flushes := by
  intro settings source config lacking absent renewed steps
  have succeeded : ∀ step ∈ steps, ∀ result, step.deed = .reconciled result → result = .ok () := by
    simp [steps]
  have written : Step.Course settings steps[0] :=
    ⟨leads_reconcile_iff.mpr (.recorded (by decide) (.ok ())), rfl⟩
  have replica : gone (.ok ()) = true := rfl
  have managing : Managing "4.1.0" ⟨2, 0⟩ lacking (.removed source) _ (.ok absent) :=
    .withdrawn rfl rfl replica
  have steadying : Handling settings ⟨2, 0⟩ 0 lacking 0 (.removed source) _ _ :=
    .steady (by decide) managing (by decide)
  have deleted : Step.Course settings steps[1] := leads_handle_iff.mpr steadying
  have rewritten : Step.Course settings steps[2] :=
    ⟨leads_reconcile_iff.mpr (.recorded (by decide) (.ok ())), rfl⟩
  have run : Runs settings ⟨config, 0⟩ steps ⟨renewed, 0⟩ :=
    ((Runs.nil.concat written).concat deleted).concat rewritten
  have gates := run.gates succeeded
  have first : steps[0].Flushes := ⟨_, rfl, by decide⟩
  have second : steps[2].Flushes := ⟨_, rfl, by decide⟩
  obtain ⟨step, member, clears⟩ := gates.cleared [] steps[0] [steps[1]] steps[2] [] rfl first second
  obtain rfl := List.mem_singleton.mp member
  exact ⟨succeeded, run, gates, first, clears, second⟩

end Memory

end PullSecretSync
