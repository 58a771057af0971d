import Mathlib.Algebra.BigOperators.Group.Finset.Basic
import PullSecretSync.Api.Await

/-!
# The schedule of a wait

A wait for the configuration's kind goes on in rounds, each with a check and, unless the check finds
the kind, an interval. The checks keep to a schedule that is known beforehand: the time of a check
depends on nothing but the number of checks before it. A check that fails counts as one that found
nothing, and the first check that finds the kind is the last one. This holds whatever is answered
and whatever happens between two rounds.
-/

namespace PullSecretSync

namespace Await

open Interaction

/-- What a wait meets with: who answers its questions, from which state. -/
structure Circumstances (σ : Type) where
  answer : (question : HttpCall) → σ → question.Answer × σ
  /-- The state at the beginning of a round, whatever happened since the round before. -/
  state : Nat → σ

/-- The time at which the check of a round is due, in seconds since the first one. -/
def dueTime (round : Nat) : Nat := ∑ earlier ∈ Finset.range round, min (10 * 2 ^ earlier) 60

/-- What the result of a check means. -/
def Finding.of : Except ApiError Bool → Finding
  | .ok true => .available
  | .ok false => .missing
  | .error error => .failed error

namespace Circumstances

variable {σ : Type} (circumstances : Circumstances σ)

/-- The result that a check has in a round. -/
def result (round : Nat) : Except ApiError Bool :=
  (Http.servesConfig.run circumstances.answer (circumstances.state round)).1

/-- What a check asks in a round, with the answers. -/
def inquiry (round : Nat) : List (Exchange HttpCall HttpCall.Answer) :=
  (Http.servesConfig.run circumstances.answer (circumstances.state round)).2.1

/-- How the wait stands at the beginning of a round. -/
def stand : Nat → Await
  | 0 => start
  | round + 1 =>
    ((stand round).step.run circumstances.answer (circumstances.state round)).1

/-- What the wait asks in a round, with the answers. -/
def exchanges (round : Nat) : List (Exchange HttpCall HttpCall.Answer) :=
  ((circumstances.stand round).step.run circumstances.answer (circumstances.state round)).2.1

/-- No check before a round would find the kind. -/
def Unfound (round : Nat) : Prop := ∀ earlier < round, circumstances.result earlier ≠ .ok true

end Circumstances

/-- A wait keeps to its schedule. -/
structure Scheduled {σ : Type} (circumstances : Circumstances σ) : Prop where
  /-- While the kind was not found, the check of a round is made at its time, with one entry in the
  log about what comes next. -/
  checks : ∀ round, circumstances.Unfound round → ∃ interval : UInt64,
    circumstances.stand round = .pending (dueTime round) interval ∧
      circumstances.exchanges round = circumstances.inquiry round ++
        [⟨.note ((Finding.of (circumstances.result round)).entry interval), ()⟩] ∧
      interval.toNat = min (10 * 2 ^ round) 60 ∧
      (interval * 2).toNat = 2 * interval.toNat ∧ 2 * interval.toNat ≤ 120
  /-- The wait is over, with success, at the time of the first check that finds the kind. Nothing is
  asked after it. -/
  ends : ∀ round, circumstances.Unfound round → circumstances.result round = .ok true →
    ∀ later, round < later →
      circumstances.stand later = .over (dueTime round) (.ok ()) ∧
        circumstances.exchanges later = []
  /-- The wait never ends with an error. -/
  faultless : ∀ round time error, circumstances.stand round ≠ .over time (.error error)
  /-- Checks that fail and checks that find nothing are the same to the wait: it stands the same
  wherever the same rounds find the kind. -/
  alike : ∀ {τ : Type} (others : Circumstances τ),
    (∀ round, others.result round = .ok true ↔ circumstances.result round = .ok true) →
    ∀ round, others.stand round = circumstances.stand round

/-! ## Intervals -/

/-- The double of an interval up to the longest one fits in a machine word. -/
theorem toNat_mul_two {interval : UInt64} (bound : interval.toNat ≤ 60) :
    (interval * 2).toNat = 2 * interval.toNat := by
  have two : (2 : UInt64).toNat = 2 := rfl
  rw [UInt64.toNat_mul, two, Nat.mod_eq_of_lt (by omega), Nat.mul_comm]

theorem toNat_nextInterval {interval : UInt64} (bound : interval.toNat ≤ 60) :
    (nextInterval interval).toNat = min (2 * interval.toNat) 60 := by
  have longest : longestInterval.toNat = 60 := rfl
  have doubled := toNat_mul_two bound
  have within_iff : interval * 2 ≤ longestInterval ↔ 2 * interval.toNat ≤ 60 := by
    rw [UInt64.le_iff_toNat_le, doubled, longest]
  change (if interval * 2 ≤ longestInterval then interval * 2 else longestInterval).toNat = _
  by_cases within : 2 * interval.toNat ≤ 60
  · rw [if_pos (within_iff.mpr within), doubled, Nat.min_eq_left within]
  · rw [if_neg (mt within_iff.mp within), longest, Nat.min_eq_right (by omega)]

theorem dueTime_succ (round : Nat) :
    dueTime (round + 1) = dueTime round + min (10 * 2 ^ round) 60 :=
  Finset.sum_range_succ _ _

/-- The interval after a round is that of the next one. -/
theorem min_doubled (round : Nat) :
    min (2 * min (10 * 2 ^ round) 60) 60 = min (10 * 2 ^ (round + 1)) 60 := by
  rw [pow_succ]
  omega

/-! ## Rounds -/

/-- A check asks whether the kind is served and leaves an entry on what it found. -/
theorem run_checkOnce {σ : Type} (answer : (question : HttpCall) → σ → question.Answer × σ)
    (interval : UInt64) (state : σ) :
    ((Http.checkOnce interval).run answer state).1 =
        .of (Http.servesConfig.run answer state).1 ∧
      ((Http.checkOnce interval).run answer state).2.1 =
        (Http.servesConfig.run answer state).2.1 ++
          [⟨.note ((Finding.of (Http.servesConfig.run answer state).1).entry interval), ()⟩] := by
  rw [Http.checkOnce, bind_eq, run_bind]
  match Http.servesConfig.run answer state with
  | (.ok true, _, _) => exact ⟨rfl, rfl⟩
  | (.ok false, _, _) => exact ⟨rfl, rfl⟩
  | (.error _, _, _) => exact ⟨rfl, rfl⟩

theorem meet_of_unfound {result : Except ApiError Bool} (unfound : result ≠ .ok true) (time : Nat)
    (interval : UInt64) : (pending time interval).meet (.of result) =
      pending (time + interval.toNat) (nextInterval interval) := by
  match result with
  | .ok true => exact absurd rfl unfound
  | .ok false => rfl
  | .error _ => rfl

namespace Circumstances

variable {σ τ : Type} {circumstances : Circumstances σ} {others : Circumstances τ}
  {round time : Nat} {interval : UInt64}

theorem stand_succ_of_pending (stands : circumstances.stand round = .pending time interval) :
    circumstances.stand (round + 1) =
      (pending time interval).meet (.of (circumstances.result round)) := by
  rw [stand, stands, step, bind_eq, run_bind]
  exact congrArg (pending time interval).meet (run_checkOnce _ _ _).1

theorem exchanges_of_pending (stands : circumstances.stand round = .pending time interval) :
    circumstances.exchanges round = circumstances.inquiry round ++
      [⟨.note ((Finding.of (circumstances.result round)).entry interval), ()⟩] := by
  rw [exchanges, stands, step, bind_eq, run_bind]
  exact (List.append_nil _).trans (run_checkOnce _ _ _).2

/-- A wait that is over stays so and asks nothing. -/
theorem stand_of_over {result : Except ApiError Unit} {later : Nat}
    (stands : circumstances.stand round = .over time result) (after : round ≤ later) :
    circumstances.stand later = .over time result ∧ circumstances.exchanges later = [] := by
  have quiet {round : Nat} (stands : circumstances.stand round = .over time result) :
      circumstances.exchanges round = [] := by
    rw [exchanges, stands]
    rfl
  induction later, after using Nat.le_induction with
  | base => exact ⟨stands, quiet stands⟩
  | succ later _ ih =>
    have next : circumstances.stand (later + 1) = .over time result := by
      rw [stand, ih.1]
      rfl
    exact ⟨next, quiet next⟩

/-- While the kind is not found, the times and the intervals are those of the schedule. -/
theorem Unfound.stand_eq (unfound : circumstances.Unfound round) : ∃ interval : UInt64,
    circumstances.stand round = .pending (dueTime round) interval ∧
      interval.toNat = min (10 * 2 ^ round) 60 := by
  induction round with
  | zero => exact ⟨firstInterval, rfl, rfl⟩
  | succ round ih =>
    obtain ⟨interval, stands, length⟩ := ih fun earlier before => unfound earlier (by omega)
    have bound : interval.toNat ≤ 60 := by omega
    refine ⟨nextInterval interval, ?_, ?_⟩
    · rw [stand_succ_of_pending stands, meet_of_unfound (unfound round (by omega)), length,
        dueTime_succ]
    · rw [toNat_nextInterval bound, length, min_doubled]

/-- The wait is over after the first check that finds the kind. -/
theorem Unfound.stand_succ_eq (unfound : circumstances.Unfound round)
    (found : circumstances.result round = .ok true) :
    circumstances.stand (round + 1) = .over (dueTime round) (.ok ()) := by
  obtain ⟨interval, stands, -⟩ := unfound.stand_eq
  rw [stand_succ_of_pending stands, found]
  rfl

/-- Before a round the kind was never found, or some check was the first that found it. -/
theorem unfound_or_first (circumstances : Circumstances σ) (round : Nat) :
    circumstances.Unfound round ∨
      ∃ first < round, circumstances.Unfound first ∧ circumstances.result first = .ok true := by
  induction round with
  | zero => exact .inl fun earlier before => absurd before (Nat.not_lt_zero earlier)
  | succ round ih =>
    rcases ih with unfound | ⟨first, before, unfound, found⟩
    · by_cases found : circumstances.result round = .ok true
      · exact .inr ⟨round, round.lt_succ_self, unfound, found⟩
      · refine .inl fun earlier before => ?_
        rcases Nat.lt_succ_iff_lt_or_eq.mp before with sooner | rfl
        · exact unfound earlier sooner
        · exact found
    · exact .inr ⟨first, by omega, unfound, found⟩

/-- How a wait stands depends on nothing but when the kind is found. The schedule gives the
intervals as numbers, and words are told apart by their numbers. -/
theorem stand_congr (same : ∀ round, others.result round = .ok true ↔
    circumstances.result round = .ok true) (round : Nat) :
    others.stand round = circumstances.stand round := by
  have unfound_iff (round : Nat) : others.Unfound round ↔ circumstances.Unfound round :=
    forall₂_congr fun earlier _ => not_congr (same earlier)
  rcases circumstances.unfound_or_first round with unfound | ⟨first, before, unfound, found⟩
  · obtain ⟨interval, stands, length⟩ := unfound.stand_eq
    obtain ⟨interval', stands', length'⟩ := ((unfound_iff round).mpr unfound).stand_eq
    obtain rfl : interval' = interval := UInt64.toNat_inj.mp (length'.trans length.symm)
    rw [stands, stands']
  · have ends := unfound.stand_succ_eq found
    have ends' := ((unfound_iff first).mpr unfound).stand_succ_eq ((same first).mpr found)
    rw [(stand_of_over ends before).1, (stand_of_over ends' before).1]

end Circumstances

/-- **The schedule of a wait.** Whatever is answered and whatever happens between two rounds, a wait
makes its checks at the times of the schedule until the first one that finds the kind. -/
theorem keeps_schedule {σ : Type} (circumstances : Circumstances σ) : Scheduled circumstances where
  checks round unfound := by
    obtain ⟨interval, stands, length⟩ := unfound.stand_eq
    have bound : interval.toNat ≤ 60 := by omega
    exact ⟨interval, stands, Circumstances.exchanges_of_pending stands, length,
      toNat_mul_two bound, by omega⟩
  ends _ unfound found _ after := Circumstances.stand_of_over (unfound.stand_succ_eq found) after
  faultless round time error stands := by
    rcases circumstances.unfound_or_first round with unfound | ⟨first, before, unfound, found⟩
    · obtain ⟨interval, pending, -⟩ := unfound.stand_eq
      cases pending.symm.trans stands
    · have ends := Circumstances.stand_of_over (unfound.stand_succ_eq found) before
      cases ends.1.symm.trans stands
  alike _ same := Circumstances.stand_congr same

/-- The first times of the schedule. -/
example : (List.range 6).map dueTime = [0, 10, 30, 70, 130, 190] := by decide

/-! ## Checks in any order -/

/-- The replies of a server that has some documents under their paths, or that cannot be reached. -/
def replies : (question : HttpCall) → Option (List (String × String)) →
    question.Answer × Option (List (String × String))
  | .send _, none => (.failed, none)
  | .send request, some documents =>
    (match Json.lookup request.address.path documents with
      | some content => .answered 200 content
      | none => .answered 404 "", some documents)
  | .note _, state => ((), state)

/-- The documents of a server that serves the kind, or not. -/
def documents (serves : Bool) : List (String × String) :=
  let name := "\"groupVersion\":\"samples.operator.openshift.io/v1\""
  let group := "\x7b\"name\":\"samples.operator.openshift.io\",\"versions\":[\x7b" ++ name ++
    ",\"version\":\"v1\"\x7d]\x7d"
  let resource := "\x7b\"kind\":\"Config\",\"name\":\"configs\"\x7d"
  [("/apis", "\x7b\"groups\":[" ++ (if serves then group else "") ++ "]\x7d"),
    ("/apis/samples.operator.openshift.io/v1",
      "\x7b" ++ name ++ ",\"resources\":[" ++ resource ++ "]\x7d")]

theorem result_of_documents (serves : Bool) :
    (Http.servesConfig.run replies (some (documents serves))).1.toOption = some serves := by
  cases serves with
  | false => decide +kernel
  | true => decide +kernel

/-- Checks may find the kind, find nothing and fail in any order. -/
theorem exists_circumstances (wanted : Nat → Option Bool) :
    ∃ circumstances : Circumstances (Option (List (String × String))),
      ∀ round, (circumstances.result round).toOption = wanted round := by
  refine ⟨⟨replies, fun round => (wanted round).map documents⟩, fun round => ?_⟩
  rw [Circumstances.result]
  dsimp only
  cases wanted round with
  | none => rfl
  | some serves => exact result_of_documents serves

theorem result_eq_iff {σ : Type} {circumstances : Circumstances σ} {round : Nat} :
    circumstances.result round = .ok true ↔
      (circumstances.result round).toOption = some true := by
  cases circumstances.result round with
  | error error => simp [Except.toOption]
  | ok serves => simp [Except.toOption]

/-- A wait whose first four checks fail or find nothing is over after 130 seconds if the fifth one
finds the kind. -/
theorem over_after_failures : ∃ circumstances : Circumstances (Option (List (String × String))),
    (List.range 5).map (fun round => (circumstances.result round).toOption) =
        [none, some false, some false, none, some true] ∧
      circumstances.stand 5 = .over 130 (.ok ()) := by
  let wanted (round : Nat) : Option Bool :=
    [none, some false, some false, none].getD round (some true)
  obtain ⟨circumstances, results⟩ := exists_circumstances wanted
  have unfound : circumstances.Unfound 4 := by
    have missed : ∀ round < 4, wanted round ≠ some true := by decide
    intro round before found
    exact missed round before ((results round).symm.trans (result_eq_iff.mp found))
  have found : circumstances.result 4 = .ok true := result_eq_iff.mpr (results 4)
  refine ⟨circumstances, ?_, ?_⟩
  · simp only [results]
    decide
  · exact ((keeps_schedule circumstances).ends 4 unfound found 5 (by omega)).1

end Await

end PullSecretSync
