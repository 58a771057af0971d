import Mathlib.Data.List.Induction
import PullSecretSync.Proofs.Handling

/-!
# Rounds

Events are handled one after the other, each on a configuration of its own. A round is one event
with what was asked and answered for it; only the count of deferred deletions goes from one round
to the next. Nothing is assumed about events, configurations, upserts in flight or answers.
-/

namespace PullSecretSync

open Sync

/-- An event that was handled. -/
structure Round where
  event : SecretEvent
  /-- The configuration that the event was handled on. -/
  config : Config
  inFlight : UInt64
  now : Instant
  effects : List Effect
  handled : Handled

/-- The round is a course of handling its event, where some deletions were deferred before. -/
abbrev Round.Course (settings : Settings) (retries : UInt32) (round : Round) : Prop :=
  Leads (handle settings round.now round.inFlight round.config retries round.event) round.effects
    round.handled

/-- Some rounds, of which the first meets no deferred deletions, lead to a count of them. -/
inductive Rounds (settings : Settings) : List Round → UInt32 → Prop
  | nil : Rounds settings [] 0
  | concat {rounds : List Round} {retries : UInt32} {round : Round}
      (rest : Rounds settings rounds retries) (course : round.Course settings retries) :
      Rounds settings (rounds ++ [round]) round.handled.retries

namespace Rounds

variable {settings : Settings} {rounds before after : List Round} {round : Round}
  {retries : UInt32}

/-- The last round follows the others. -/
theorem of_concat (run : Rounds settings (rounds ++ [round]) retries) :
    ∃ count, Rounds settings rounds count ∧ round.Course settings count ∧
      retries = round.handled.retries := by
  generalize split : rounds ++ [round] = all at run
  cases run with
  | nil => simp at split
  | concat rest course =>
    obtain ⟨rfl, same⟩ := List.append_inj' split rfl
    cases same
    exact ⟨_, rest, course, rfl⟩

/-- The rounds up to any point are rounds themselves. -/
theorem of_append (run : Rounds settings (before ++ after) retries) :
    ∃ count, Rounds settings before count := by
  induction after using List.reverseRecOn generalizing retries with
  | nil =>
    rw [List.append_nil] at run
    exact ⟨retries, run⟩
  | append_singleton after round ih =>
    rw [← List.append_assoc] at run
    obtain ⟨count, early, -⟩ := run.of_concat
    exact ih early

/-- Rounds can be cut at any round. -/
theorem at_round (run : Rounds settings (before ++ round :: after) retries) :
    ∃ count, Rounds settings before count ∧ round.Course settings count := by
  rw [← List.singleton_append, ← List.append_assoc] at run
  obtain ⟨_, early⟩ := run.of_append
  obtain ⟨count, rest, course, -⟩ := early.of_concat
  exact ⟨count, rest, course⟩

end Rounds

end PullSecretSync
