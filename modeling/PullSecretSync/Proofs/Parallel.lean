import Mathlib.Data.List.Forall2
import PullSecretSync.Interaction

/-!
# Parallel interactions

Two computations are parallel when they ask like questions and, as long as they get like answers,
go on in parallel until both are done with like values. What counts as alike is left open. Among
surroundings that answer like questions alike, parallel computations have like exchanges, one for
one, and leave the surroundings alike.
-/

namespace PullSecretSync.Interaction

variable {Q : Type} {A : Q → Type} {α β γ δ σ τ : Type}

/-- What counts as alike. -/
structure Likeness (Q : Type) (A : Q → Type) where
  /-- Two questions are alike. -/
  Asks : Q → Q → Prop
  /-- Two questions and their answers are alike. -/
  Meets : Exchange Q A → Exchange Q A → Prop

variable {likeness : Likeness Q A} {Ends : α → β → Prop}

/-- Two computations ask alike and end in like values. -/
inductive Parallel (likeness : Likeness Q A) (Ends : α → β → Prop) :
    Interaction Q A α → Interaction Q A β → Prop
  | done {value : α} {other : β} (ends : Ends value other) :
      Parallel likeness Ends (.done value) (.done other)
  | ask {question other : Q} {next : A question → Interaction Q A α}
      {next' : A other → Interaction Q A β} (asks : likeness.Asks question other)
      (rest : ∀ answer reply, likeness.Meets ⟨question, answer⟩ ⟨other, reply⟩ →
        Parallel likeness Ends (next answer) (next' reply)) :
      Parallel likeness Ends (.ask question next) (.ask other next')

namespace Parallel

/-- What is asked after parallel computations is parallel if it is so after like values. -/
theorem bind {Finally : γ → δ → Prop} {x : Interaction Q A α} {y : Interaction Q A β}
    {f : α → Interaction Q A γ} {g : β → Interaction Q A δ} (parallel : Parallel likeness Ends x y)
    (next : ∀ value other, Ends value other → Parallel likeness Finally (f value) (g other)) :
    Parallel likeness Finally (x.bind f) (y.bind g) := by
  induction parallel with
  | done ends => exact next _ _ ends
  | ask asks rest ih => exact .ask asks ih

theorem mono {Finally : α → β → Prop} {x : Interaction Q A α} {y : Interaction Q A β}
    (parallel : Parallel likeness Ends x y)
    (ends : ∀ value other, Ends value other → Finally value other) :
    Parallel likeness Finally x y := by
  induction parallel with
  | done like => exact .done (ends _ _ like)
  | ask asks rest ih => exact .ask asks ih

/-- A computation is parallel to itself where every question is like itself, and like answers to one
question are the same. -/
theorem refl (asks : ∀ question, likeness.Asks question question)
    (meets : ∀ question answer reply,
      likeness.Meets ⟨question, answer⟩ ⟨question, reply⟩ → answer = reply)
    (x : Interaction Q A α) : Parallel likeness Eq x x := by
  induction x with
  | done value => exact .done rfl
  | ask question next ih =>
    refine .ask (asks question) fun answer reply alike => ?_
    obtain rfl := meets question answer reply alike
    exact ih answer

/-- Two surroundings in like states answer like questions alike, and are in like states again. -/
def Attuned (likeness : Likeness Q A) (answer : (question : Q) → σ → A question × σ)
    (reply : (question : Q) → τ → A question × τ) (Holds : σ → τ → Prop) : Prop :=
  ∀ question other, likeness.Asks question other → ∀ state state', Holds state state' →
    likeness.Meets ⟨question, (answer question state).1⟩ ⟨other, (reply other state').1⟩ ∧
      Holds (answer question state).2 (reply other state').2

/-- Parallel computations run alike among surroundings that answer alike. -/
theorem run {answer : (question : Q) → σ → A question × σ}
    {reply : (question : Q) → τ → A question × τ} {Holds : σ → τ → Prop}
    {x : Interaction Q A α} {y : Interaction Q A β} (parallel : Parallel likeness Ends x y)
    (attuned : Attuned likeness answer reply Holds) {state : σ} {state' : τ}
    (holds : Holds state state') :
    Ends (x.run answer state).1 (y.run reply state').1 ∧
      List.Forall₂ likeness.Meets (x.run answer state).2.1 (y.run reply state').2.1 ∧
      Holds (x.run answer state).2.2 (y.run reply state').2.2 := by
  induction parallel generalizing state state' with
  | done ends => exact ⟨ends, .nil, holds⟩
  | ask asks rest ih =>
    obtain ⟨meets, holds⟩ := attuned _ _ asks state state' holds
    obtain ⟨ends, all, holds⟩ := ih _ _ meets holds
    exact ⟨ends, .cons meets all, holds⟩

end Parallel

end PullSecretSync.Interaction
