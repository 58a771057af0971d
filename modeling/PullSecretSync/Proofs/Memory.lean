import Mathlib.Data.List.Induction
import PullSecretSync.Proofs.Verdict

/-!
# A configuration in memory

A configuration is kept in memory from one step to the next: an event is handled on it, the
credential is managed for an event, it passes the gate or is reconciled, or others change what is
asked for. Nothing is assumed about the events, the clock, the number of upserts in flight or the
answers that a step gets. Whatever happens, a step leaves what was found, or it puts one verdict on
record.
-/

namespace PullSecretSync

open Sync

/-- What is kept from one step to the next. -/
structure Memory where
  config : Config
  /-- The count of deferred deletions. -/
  retries : UInt32

/-- What is done in a step, and what comes of it. -/
inductive Deed where
  | handled (event : SecretEvent) (inFlight : UInt64) (result : Except SyncError Outcome)
  | managed (event : SecretEvent) (result : Except SyncError Unit)
  | gated (gate : Gate)
  | reconciled (result : Except SyncError Unit)
  /-- Others change the specification or the metadata. -/
  | respecified

/-- The configuration whose status was written last, if one was. -/
def Sync.accepted (effects : List Effect) : Option Config :=
  (effects.filterMap fun
    | ⟨.writeStatus config, .ok ()⟩ => some config
    | _ => none).getLast?

namespace Memory

/-- A step, with what was asked and answered, and the memory before and after it. -/
structure Step where
  now : Instant
  before : Memory
  deed : Deed
  effects : List Effect
  after : Memory

namespace Step

/-- The step is a course of what it does. A failure to manage the credential leaves the
configuration in memory; reconciling it works on a copy, which takes its place once its status was
written. -/
def Course (settings : Settings) (step : Step) : Prop :=
  match step.deed with
  | .handled event inFlight result =>
    Leads (handle settings step.now inFlight step.before.config step.before.retries event)
      step.effects ⟨result, step.after.config, step.after.retries⟩
  | .managed event result => ∃ managed,
    Leads (manage settings.version step.now step.before.config event) step.effects managed ∧
      result = managed.map (fun _ => ()) ∧
      step.after = { step.before with config := managed.toOption.getD step.before.config }
  | .gated gate =>
    Leads (passGate step.before.config step.now) step.effects (gate, step.after.config) ∧
      step.after.retries = step.before.retries
  | .reconciled result =>
    Leads (reconcile step.before.config step.now) step.effects result ∧
      step.after =
        { step.before with config := (accepted step.effects).getD step.before.config }
  | .respecified => step.effects = [] ∧
      step.after.config.status = step.before.config.status ∧
      step.after.retries = step.before.retries

/-- The gate that the step passes, when it passes one. -/
def gate? (step : Step) : Option Gate :=
  match step.deed with
  | .gated gate => some gate
  | .reconciled _ => some (step.before.config.gate step.now).1
  | _ => none

/-- The step reconciles the configuration. -/
def Reconciles (step : Step) : Prop := ∃ result, step.deed = .reconciled result

/-- The step sets the condition to false without a message, where it was true or had one. -/
def Clears (step : Step) : Prop :=
  step.before.config.Told ∧
    step.after.config = step.before.config.settle step.now Config.credentialType .fails

/-- The step puts an error on record. -/
def Reports (step : Step) : Prop :=
  ∃ status error, step.after.config = step.before.config.reportError step.now
    Config.credentialType status (SyncError.message error)

end Step

/-- Some steps lead from one memory to another. -/
inductive Runs (settings : Settings) (start : Memory) : List Step → Memory → Prop
  | nil : Runs settings start [] start
  | concat {steps : List Step} {step : Step} (rest : Runs settings start steps step.before)
      (course : step.Course settings) : Runs settings start (steps ++ [step]) step.after

variable {settings : Settings} {start last : Memory} {steps before after : List Step} {step : Step}

/-! ## Single steps -/

namespace Step

/-- Reconciling passes the gate, and it asks for a write if the gate does. -/
theorem Course.reconciling {result : Except SyncError Unit} (course : step.Course settings)
    (deed : step.deed = .reconciled result) :
    Reconciling step.before.config step.now step.effects result ∧
      step.after =
        { step.before with config := (accepted step.effects).getD step.before.config } := by
  rw [Course, deed] at course
  obtain ⟨leads, kept⟩ := course
  exact ⟨leads_reconcile_iff.mp leads, kept⟩

/-- A configuration that was reconciled is as the gate left it, unless its status was not
written. -/
theorem Course.reconciled_cases {result : Except SyncError Unit} (course : step.Course settings)
    (deed : step.deed = .reconciled result) :
    (result = .ok () ∧ step.after =
        { step.before with config := (step.before.config.gate step.now).2 }) ∨
      ((∃ error, result = .error error) ∧ step.after = step.before) := by
  obtain ⟨reconciling, kept⟩ := course.reconciling deed
  rw [kept]
  generalize step.effects = effects at reconciling
  cases reconciling with
  | passed still =>
    have same : (step.before.config.gate step.now).2 = step.before.config := by
      rw [Config.gate_config, still]
      rfl
    exact .inl ⟨rfl, by rw [same]; rfl⟩
  | recorded flush =>
    cases result with
    | ok => exact .inl ⟨rfl, rfl⟩
    | error error => exact .inr ⟨⟨error, rfl⟩, rfl⟩

/-- A step leaves what was found, or it puts one verdict on record. -/
theorem Course.records (course : step.Course settings) :
    step.after.config.status = step.before.config.status ∨
      ∃ verdict, step.after.config = step.before.config.record step.now verdict := by
  have gated (config : Config) (now : Instant) : (config.gate now).2.status = config.status ∨
      ∃ verdict, (config.gate now).2 = config.record now verdict := by
    rw [Config.gate_config]
    split
    · exact .inr ⟨.lacking, rfl⟩
    · exact .inl rfl
  cases deed : step.deed with
  | handled event inFlight result =>
    rw [Course, deed] at course
    rcases (leads_handle_iff.mp course).records with same | recorded
    · exact .inl (congrArg (·.status) same)
    · exact .inr recorded
  | managed event result =>
    rw [Course, deed] at course
    obtain ⟨managed, leads, -, kept⟩ := course
    rw [kept]
    cases managed with
    | error error => exact .inl rfl
    | ok config =>
      rcases (leads_manage_iff.mp leads).records with same | recorded
      · exact .inl (congrArg (·.status) same)
      · exact .inr recorded
  | gated gate =>
    rw [Course, deed] at course
    obtain ⟨-, passed⟩ := leads_passGate_iff.mp course.1
    have same : step.after.config = (step.before.config.gate step.now).2 :=
      congrArg (·.2) passed
    rw [same]
    exact gated _ _
  | reconciled result =>
    rcases course.reconciled_cases deed with ⟨-, kept⟩ | ⟨-, kept⟩
    · rw [kept]
      exact gated _ _
    · exact .inl (by rw [kept])
  | respecified =>
    rw [Course, deed] at course
    exact .inl course.2.1

/-- What the gate was told stays told, unless the step clears it. -/
theorem Course.told_or_clears (course : step.Course settings) (told : step.before.config.Told) :
    step.after.config.Told ∨ step.Clears := by
  rcases course.records with same | ⟨verdict, recorded⟩
  · exact .inl ((Config.told_congr same).mpr told)
  · by_cases absent : verdict = .absent
    · subst absent
      exact .inr ⟨told, recorded⟩
    · rw [recorded, Config.told_record_iff]
      exact .inl absent

end Step

/-! ## Runs -/

namespace Runs

/-- The last step follows the others. -/
theorem of_concat (run : Runs settings start (steps ++ [step]) last) :
    Runs settings start steps step.before ∧ step.Course settings ∧ last = step.after := by
  generalize split : steps ++ [step] = all at run
  cases run with
  | nil => simp at split
  | concat rest course =>
    obtain ⟨rfl, same⟩ := List.append_inj' split rfl
    cases same
    exact ⟨rest, course, rfl⟩

/-- A run can be cut at any point. -/
theorem of_append (run : Runs settings start (before ++ after) last) :
    ∃ middle, Runs settings start before middle ∧ Runs settings middle after last := by
  induction after using List.reverseRecOn generalizing last with
  | nil =>
    rw [List.append_nil] at run
    exact ⟨last, run, .nil⟩
  | append_singleton after step ih =>
    rw [← List.append_assoc] at run
    obtain ⟨early, course, rfl⟩ := run.of_concat
    obtain ⟨middle, first, second⟩ := ih early
    exact ⟨middle, first, second.concat course⟩

/-- The steps behind a step go on with what it has left. -/
theorem at_step (run : Runs settings start (before ++ step :: after) last) :
    Runs settings start before step.before ∧ step.Course settings ∧
      Runs settings step.after after last := by
  rw [List.append_cons] at run
  obtain ⟨middle, first, second⟩ := run.of_append
  obtain ⟨early, course, rfl⟩ := first.of_concat
  exact ⟨early, course, second⟩

/-- Every step of a run takes its course. -/
theorem course_of_mem (run : Runs settings start steps last) (member : step ∈ steps) :
    step.Course settings := by
  obtain ⟨before, after, rfl⟩ := List.append_of_mem member
  exact run.at_step.2.1

/-- What the gate was told stays told while no step clears it. -/
theorem told_of_not_clears (run : Runs settings start steps last) (told : start.config.Told)
    (kept : ∀ step ∈ steps, ¬ step.Clears) : last.config.Told := by
  induction run with
  | nil => exact told
  | @concat steps step rest course ih =>
    have early : step.before.config.Told :=
      ih fun other member => kept other (List.mem_append_left _ member)
    have uncleared : ¬ step.Clears := kept step (by simp)
    exact (course.told_or_clears early).resolve_right uncleared

end Runs

end Memory

end PullSecretSync
