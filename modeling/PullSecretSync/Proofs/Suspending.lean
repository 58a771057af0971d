import PullSecretSync.Proofs.Guards
import PullSecretSync.Proofs.Retiming
import PullSecretSync.Proofs.Session

/-!
# Events during an upsert

A reconciler handles events one after the other, on a configuration in memory and against
surroundings that answer as they like, while upserts begin and end. An event that comes while an
upsert is in flight is suspended: it is asked for again, and nothing else comes of it. The other
steps do not notice whether it came at all.
-/

namespace PullSecretSync

open Sync

/-- What a reconciler works with. -/
structure Desk (σ : Type) where
  upserts : Upserts
  /-- What is known of counters and guards without the counts. -/
  lineage : Lineage
  config : Config
  /-- The count of deferred deletions. -/
  retries : UInt32
  /-- The store, and whatever else answers. -/
  around : σ

/-- What happens at a desk. -/
inductive Move (σ : Type) where
  | event (event : SecretEvent)
  | upsert (change : Upserts.Change)
  /-- Others change what is asked for. -/
  | respecified (metadata : ObjectMeta) (spec : ConfigSpec)
  /-- Others change what is around. -/
  | elsewhere (turn : σ → σ)

/-- A step with what comes of it, and the desk before and after it. -/
structure Desk.Step (σ : Type) where
  now : Instant
  move : Move σ
  before : Desk σ
  /-- What came of an event. -/
  result : Option (Except SyncError Outcome)
  effects : List Effect
  after : Desk σ

/-- A reconciler that is gated by a counter, and how its surroundings answer. -/
structure Reconciler (σ : Type) where
  settings : Settings
  gate : Nat
  answer : (question : Call) → σ → question.Answer × σ

/-- A desk on which no upsert was ever counted. -/
def Desk.opened {σ : Type} (config : Config) (retries : UInt32) (around : σ) : Desk σ :=
  ⟨{}, {}, config, retries, around⟩

/-- Counters and guards are those of the lineage, and the counts those of the guards. -/
structure Desk.Sound {σ : Type} (desk : Desk σ) : Prop where
  counts : desk.upserts.Sound
  tracks : desk.upserts.Tracks desk.lineage

namespace Reconciler

variable {σ : Type} (reconciler : Reconciler σ)

/-- Do a move. -/
def perform (now : Instant) (desk : Desk σ) (move : Move σ) : Desk.Step σ :=
  match move with
  | .event event =>
    let inFlight := desk.upserts.inFlight reconciler.gate
    let ran := (handle reconciler.settings now inFlight desk.config desk.retries event).run
      reconciler.answer desk.around
    ⟨now, move, desk, some ran.1.result, loud ran.2.1,
      ⟨desk.upserts, desk.lineage, ran.1.config, ran.1.retries, ran.2.2⟩⟩
  | .upsert change =>
    ⟨now, move, desk, none, [],
      { desk with
        upserts := desk.upserts.apply change
        lineage := desk.lineage.apply change }⟩
  | .respecified metadata spec =>
    ⟨now, move, desk, none, [], { desk with config := { desk.config with metadata, spec } }⟩
  | .elsewhere turn => ⟨now, move, desk, none, [], { desk with around := turn desk.around }⟩

/-- Do some moves, each at its time. -/
def run (desk : Desk σ) : List (Instant × Move σ) → List (Desk.Step σ)
  | [] => []
  | (now, move) :: rest =>
    let step := reconciler.perform now desk move
    step :: run step.after rest

/-- The desk after some moves. -/
def finish (desk : Desk σ) : List (Instant × Move σ) → Desk σ
  | [] => desk
  | (now, move) :: rest => finish (reconciler.perform now desk move).after rest

/-- The step handles an event while a guard is alive that was begun on the reconciler's counter, or
on one that is connected with it by cloning. -/
def suspends (step : Desk.Step σ) : Bool :=
  match step.move with
  | .event _ => 0 < step.before.lineage.alive reconciler.gate
  | _ => false

/-- The steps that are not suspended. -/
def kept (desk : Desk σ) (moves : List (Instant × Move σ)) : List (Desk.Step σ) :=
  (reconciler.run desk moves).filter (!reconciler.suspends ·)

end Reconciler

section Agreement

variable {σ : Type} (Times : Instant → Instant → Prop)

/-- Two desks differ at most in the times of conditions. -/
structure Desk.Agrees (desk other : Desk σ) : Prop where
  upserts : desk.upserts = other.upserts
  lineage : desk.lineage = other.lineage
  config : desk.config.Agrees Times other.config
  retries : desk.retries = other.retries
  around : desk.around = other.around

/-- Two steps make the same move with the same result and, but for times, the same effects. -/
structure Desk.Step.Agrees (step other : Desk.Step σ) : Prop where
  move : step.move = other.move
  before : step.before.Agrees Times other.before
  result : step.result = other.result
  effects : List.Forall₂ (Effect.Retimed Times) step.effects other.effects
  after : step.after.Agrees Times other.after

/-- Suspended steps do nothing, and without them the same happens at other times. -/
structure Reconciler.Undisturbed (reconciler : Reconciler σ) (start : Desk σ)
    (moves others : List (Instant × Move σ)) : Prop where
  suspended : ∀ step ∈ reconciler.run start moves, reconciler.suspends step = true →
    step.result = some (.ok (.retry .upsertInProgress)) ∧ step.effects = [] ∧
      step.after = step.before
  kept : List.Forall₂ (Desk.Step.Agrees Times) (reconciler.kept start moves)
    (reconciler.run start others)
  finish : (reconciler.finish start moves).Agrees Times (reconciler.finish start others)

end Agreement

namespace Reconciler

variable {σ : Type} {Times : Instant → Instant → Prop} {reconciler : Reconciler σ}
  {desk other : Desk σ} {now now' : Instant} {moves others : List (Instant × Move σ)}

/-! ## Single steps -/

theorem move_perform (now : Instant) (desk : Desk σ) (move : Move σ) :
    (reconciler.perform now desk move).move = move := by
  cases move <;> rfl

theorem before_perform (now : Instant) (desk : Desk σ) (move : Move σ) :
    (reconciler.perform now desk move).before = desk := by
  cases move <;> rfl

theorem now_perform (now : Instant) (desk : Desk σ) (move : Move σ) :
    (reconciler.perform now desk move).now = now := by
  cases move <;> rfl

/-- An event takes some course, which what is around answers. -/
theorem exists_handling (quiet : ∀ entry state, reconciler.answer (.note entry) state = ((), state))
    (now : Instant) (desk : Desk σ) (event : SecretEvent) :
    ∃ effects handled around,
      Handling reconciler.settings now (desk.upserts.inFlight reconciler.gate) desk.config
        desk.retries event effects handled ∧
      Serves reconciler.answer desk.around effects around := by
  obtain ⟨leads, serves⟩ := leads_loud quiet
    (handle reconciler.settings now (desk.upserts.inFlight reconciler.gate) desk.config
      desk.retries event) desk.around
  exact ⟨_, _, _, leads_handle_iff.mp leads, serves⟩

/-- A course that is answered is the one that is taken. -/
theorem perform_event (quiet : ∀ entry state, reconciler.answer (.note entry) state = ((), state))
    {event : SecretEvent} {effects : List Effect} {handled : Handled} {around : σ}
    (handling : Handling reconciler.settings now (desk.upserts.inFlight reconciler.gate)
      desk.config desk.retries event effects handled)
    (serves : Serves reconciler.answer desk.around effects around) :
    reconciler.perform now desk (.event event) =
      ⟨now, .event event, desk, some handled.result, effects,
        ⟨desk.upserts, desk.lineage, handled.config, handled.retries, around⟩⟩ := by
  obtain ⟨same, asked, after⟩ := (leads_handle_iff.mpr handling).run_eq quiet serves
  rw [perform, same, asked, after]

/-- A suspended event is asked for again, and nothing else comes of it. -/
theorem perform_of_suspends
    (quiet : ∀ entry state, reconciler.answer (.note entry) state = ((), state))
    (sound : desk.Sound) (fits : desk.lineage.Fits) {move : Move σ}
    (suspends : reconciler.suspends (reconciler.perform now desk move) = true) :
    reconciler.perform now desk move =
      ⟨now, move, desk, some (.ok (.retry .upsertInProgress)), [], desk⟩ := by
  rw [Reconciler.suspends, move_perform, before_perform] at suspends
  cases move with
  | event event =>
    have busy : 0 < desk.lineage.alive reconciler.gate := of_decide_eq_true suspends
    have inFlight : 0 < desk.upserts.inFlight reconciler.gate :=
      sound.tracks.inFlight_pos sound.counts fits busy
    obtain ⟨effects, handled, around, handling, serves⟩ :=
      exists_handling quiet now desk event
    rw [perform_event quiet handling serves]
    obtain ⟨rfl, rfl⟩ := handling.of_inFlight inFlight
    rw [serves_nil_iff] at serves
    rw [serves]
  | _ => cases suspends

/-- Whatever happens, the counts stay those of the guards. -/
theorem sound_perform (sound : desk.Sound) (now : Instant) (move : Move σ) :
    (reconciler.perform now desk move).after.Sound := by
  cases move with
  | upsert change => exact ⟨sound.counts.apply change, sound.tracks.apply sound.counts change⟩
  | _ => exact ⟨sound.counts, sound.tracks⟩

/-- The same move at another time agrees. -/
theorem perform_agrees (timeless : Timeless Times reconciler.answer)
    (agrees : desk.Agrees Times other) (times : Times now now') (move : Move σ) :
    (reconciler.perform now desk move).Agrees Times (reconciler.perform now' other move) := by
  cases move with
  | event event =>
    obtain ⟨effects, handled, around, handling, serves⟩ :=
      exists_handling timeless.quiet now desk event
    obtain ⟨again, handled', rehandling, retimed, handleds⟩ :=
      handling.retimed agrees.config times
    have serves' : Serves reconciler.answer desk.around again around :=
      timeless.serves retimed serves
    rw [agrees.upserts, agrees.retries] at rehandling
    rw [agrees.around] at serves'
    rw [perform_event timeless.quiet handling serves,
      perform_event timeless.quiet rehandling serves']
    have after : Desk.Agrees Times
        ⟨desk.upserts, desk.lineage, handled.config, handled.retries, around⟩
        ⟨other.upserts, other.lineage, handled'.config, handled'.retries, around⟩ :=
      ⟨agrees.upserts, agrees.lineage, handleds.config, handleds.retries, rfl⟩
    exact ⟨rfl, agrees, congrArg some handleds.result, retimed, after⟩
  | upsert change =>
    have upserts : desk.upserts.apply change = other.upserts.apply change := by
      rw [agrees.upserts]
    have lineage : desk.lineage.apply change = other.lineage.apply change := by
      rw [agrees.lineage]
    exact ⟨rfl, agrees, rfl, .nil, upserts, lineage, agrees.config, agrees.retries,
      agrees.around⟩
  | respecified metadata spec =>
    exact ⟨rfl, agrees, rfl, .nil, agrees.upserts, agrees.lineage,
      ⟨rfl, rfl, agrees.config.status⟩, agrees.retries, agrees.around⟩
  | elsewhere turn =>
    exact ⟨rfl, agrees, rfl, .nil, agrees.upserts, agrees.lineage, agrees.config, agrees.retries,
      congrArg turn agrees.around⟩

/-! ## Runs -/

/-- Suspended steps do nothing. -/
theorem suspended (quiet : ∀ entry state, reconciler.answer (.note entry) state = ((), state))
    (sound : desk.Sound)
    (fits : ∀ step ∈ reconciler.run desk moves, step.before.lineage.Fits) :
    ∀ step ∈ reconciler.run desk moves, reconciler.suspends step = true →
      step.result = some (.ok (.retry .upsertInProgress)) ∧ step.effects = [] ∧
        step.after = step.before := by
  induction moves generalizing desk with
  | nil => exact List.forall_mem_nil _
  | cons head rest ih =>
    obtain ⟨now, move⟩ := head
    rw [run, List.forall_mem_cons] at fits ⊢
    obtain ⟨first, later⟩ := fits
    rw [before_perform] at first
    refine ⟨?_, ih (sound_perform sound now move) later⟩
    intro suspends
    rw [perform_of_suspends quiet sound first suspends]
    exact ⟨rfl, rfl, rfl⟩

/-- The steps that are kept can be done without the others. -/
theorem kept_agrees (timeless : Timeless Times reconciler.answer) (sound : desk.Sound)
    (fits : ∀ step ∈ reconciler.run desk moves, step.before.lineage.Fits)
    (agrees : desk.Agrees Times other)
    (alike : List.Forall₂ (fun step move => Times step.now move.1 ∧ step.move = move.2)
      (reconciler.kept desk moves) others) :
    List.Forall₂ (Desk.Step.Agrees Times) (reconciler.kept desk moves)
        (reconciler.run other others) ∧
      (reconciler.finish desk moves).Agrees Times (reconciler.finish other others) := by
  induction moves generalizing desk other others with
  | nil =>
    cases alike
    exact ⟨.nil, agrees⟩
  | cons head rest ih =>
    obtain ⟨now, move⟩ := head
    rw [run, List.forall_mem_cons] at fits
    obtain ⟨first, later⟩ := fits
    rw [before_perform] at first
    have sound' : (reconciler.perform now desk move).after.Sound :=
      sound_perform sound now move
    rw [kept, run, List.filter_cons] at alike ⊢
    rw [finish]
    cases suspends : reconciler.suspends (reconciler.perform now desk move) with
    | true =>
      simp only [suspends, Bool.not_true, Bool.false_eq_true, if_false] at alike ⊢
      have same : (reconciler.perform now desk move).after = desk := by
        rw [perform_of_suspends timeless.quiet sound first suspends]
      rw [same] at alike later ⊢
      exact ih sound later agrees alike
    | false =>
      simp only [suspends, Bool.not_false, if_true] at alike ⊢
      cases alike with
      | @cons _ head' _ tail paired further =>
        obtain ⟨now', move'⟩ := head'
        obtain ⟨times, same⟩ := paired
        rw [now_perform] at times
        rw [move_perform] at same
        subst same
        have step := perform_agrees timeless agrees times move
        obtain ⟨steps, last⟩ := ih sound' later step.after further
        exact ⟨.cons step steps, last⟩

/-- **What is suspended is invisible.** Take any counters, guards, events and changes, from a desk
on which no upsert was ever counted. An event that comes while a guard of the reconciler's counter
or of one of its clones is alive is asked for again, and nothing else comes of it. If all these
events are left out and the rest happens at other times, every other step has the same result, and
what is left in the end differs in times at most. -/
theorem undisturbed {config : Config} {retries : UInt32} {around : σ}
    (timeless : Timeless Times reconciler.answer) (refl : ∀ time, Times time time)
    (fits : ∀ step ∈ reconciler.run (.opened config retries around) moves,
      step.before.lineage.Fits)
    (alike : List.Forall₂ (fun step move => Times step.now move.1 ∧ step.move = move.2)
      (reconciler.kept (.opened config retries around) moves) others) :
    reconciler.Undisturbed Times (.opened config retries around) moves others := by
  have sound : (Desk.opened config retries around).Sound := ⟨.empty, .empty⟩
  have agrees : (Desk.opened config retries around).Agrees Times (.opened config retries around) :=
    ⟨rfl, rfl, .refl refl config, rfl, rfl⟩
  obtain ⟨kept, finish⟩ := kept_agrees timeless sound fits agrees alike
  exact ⟨suspended timeless.quiet sound fits, kept, finish⟩

/-- A guard is begun on a clone of the reconciler's counter. The pull secret is suspended while the
guard is alive, and copied when it comes again. -/
theorem undisturbed_by_clone :
    let reconciler : Reconciler Surroundings :=
      ⟨⟨"4.1.0", "cluster", 3, 5⟩, 0, Surroundings.answer⟩
    let pull : Secret := { metadata := { name := some "coreos-pull-secret",
                                         space := some "kube-system" } }
    let Times : Instant → Instant → Prop :=
      fun time other => time = other ∨ other.seconds = time.seconds + 10
    let desk : Desk Surroundings := .opened (.new "cluster" {}) 2 ⟨[], fun _ => []⟩
    let moves : List (Instant × Move Surroundings) :=
      [(⟨1, 0⟩, .upsert .create), (⟨2, 0⟩, .upsert (.clone 0)), (⟨3, 0⟩, .upsert (.start 1)),
        (⟨4, 0⟩, .event (.applied pull)), (⟨5, 0⟩, .upsert (.drop 0)),
        (⟨6, 0⟩, .event (.applied pull))]
    let others : List (Instant × Move Surroundings) :=
      [(⟨11, 0⟩, .upsert .create), (⟨12, 0⟩, .upsert (.clone 0)), (⟨13, 0⟩, .upsert (.start 1)),
        (⟨15, 0⟩, .upsert (.drop 0)), (⟨16, 0⟩, .event (.applied pull))]
    (∀ step ∈ reconciler.run desk moves, step.before.lineage.Fits) ∧
      reconciler.Undisturbed Times desk moves others ∧
      (reconciler.run desk moves).map (·.result) =
        [none, none, none, some (.ok (.retry .upsertInProgress)), none,
          some (.ok .statusFlushed)] ∧
      (reconciler.finish desk others).retries = 0 := by
  intro reconciler pull Times desk moves others
  have timeless : Timeless Times reconciler.answer := ⟨fun _ _ => rfl, fun _ _ _ _ => rfl⟩
  have short : ∀ step ∈ reconciler.run desk moves, step.before.lineage.guards.length ≤ 1 := by
    decide
  have fits : ∀ step ∈ reconciler.run desk moves, step.before.lineage.Fits := by
    intro step member counter
    have few := short step member
    have below := step.before.lineage.alive_le_length counter
    have room : 1 < UInt64.size := by decide
    omega
  have alike : List.Forall₂ (fun step move => Times step.now move.1 ∧ step.move = move.2)
      (reconciler.kept desk moves) others :=
    .cons ⟨.inr rfl, rfl⟩ (.cons ⟨.inr rfl, rfl⟩ (.cons ⟨.inr rfl, rfl⟩
      (.cons ⟨.inr rfl, rfl⟩ (.cons ⟨.inr rfl, rfl⟩ .nil))))
  exact ⟨fits, undisturbed timeless (fun _ => .inl rfl) fits alike, by decide, by decide⟩

end Reconciler

end PullSecretSync
