/-!
# Interactions

A computation that puts questions to its surroundings is a finite tree: it is done, or it asks a
question and continues with the answer. Who answers is left open, so a law about an interaction
holds for every store, server and clock. Two readings are given: the answers come from a monad
(`answeredBy`), or from a state, and then the whole exchange is recorded (`run`).
-/

namespace PullSecretSync

/-- A computation whose questions `q : Q` are answered in `A q`. -/
inductive Interaction (Q : Type) (A : Q → Type) (α : Type) : Type where
  /-- No more questions. -/
  | done (value : α)
  /-- Ask, and go on with the answer. -/
  | ask (question : Q) (next : A question → Interaction Q A α)

namespace Interaction

variable {Q : Type} {A : Q → Type} {α β σ : Type}

/-- Continue a computation when it is done. -/
def bind : Interaction Q A α → (α → Interaction Q A β) → Interaction Q A β
  | .done value, f => f value
  | .ask question next, f => .ask question fun answer => (next answer).bind f

instance : Monad (Interaction Q A) where
  pure := .done
  bind := bind

@[simp] theorem pure_eq (value : α) : (pure value : Interaction Q A α) = .done value := rfl

@[simp] theorem bind_eq (x : Interaction Q A α) (f : α → Interaction Q A β) :
    x >>= f = x.bind f := rfl

@[simp] theorem done_bind (value : α) (f : α → Interaction Q A β) :
    (Interaction.done value).bind f = f value := rfl

@[simp] theorem ask_bind (question : Q) (next : A question → Interaction Q A α)
    (f : α → Interaction Q A β) :
    (Interaction.ask question next).bind f = .ask question fun a => (next a).bind f := rfl

theorem bind_done (x : Interaction Q A α) : x.bind .done = x := by
  induction x with
  | done => rfl
  | ask question next ih => simp [ih]

theorem bind_assoc {γ : Type} (x : Interaction Q A α) (f : α → Interaction Q A β)
    (g : β → Interaction Q A γ) : (x.bind f).bind g = x.bind fun a => (f a).bind g := by
  induction x with
  | done => rfl
  | ask question next ih => simp [ih]

instance : LawfulMonad (Interaction Q A) :=
  LawfulMonad.mk' _ (fun x => bind_done x) (fun _ _ => rfl) (fun x f g => bind_assoc x f g)

/-- A single question. -/
def query (question : Q) : Interaction Q A (A question) := .ask question .done

/-- Let every question be answered by an action of `m`. -/
def answeredBy {m : Type → Type} [Monad m] (answer : (question : Q) → m (A question)) :
    Interaction Q A α → m α
  | .done value => pure value
  | .ask question next => do
    let a ← answer question
    (next a).answeredBy answer

/-- A question with the answer it got. -/
abbrev Exchange (Q : Type) (A : Q → Type) := (question : Q) × A question

/-- Let the answers come from a state, which each question may change, and record every exchange
in order. -/
def run (answer : (question : Q) → σ → A question × σ) :
    Interaction Q A α → σ → α × List (Exchange Q A) × σ
  | .done value, state => (value, [], state)
  | .ask question next, state =>
    let (a, state) := answer question state
    let (value, exchanges, state) := (next a).run answer state
    (value, ⟨question, a⟩ :: exchanges, state)

@[simp] theorem run_done (answer : (question : Q) → σ → A question × σ) (value : α) (state : σ) :
    (Interaction.done value).run answer state = (value, [], state) := rfl

@[simp] theorem run_ask (answer : (question : Q) → σ → A question × σ) (question : Q)
    (next : A question → Interaction Q A α) (state : σ) :
    (Interaction.ask question next).run answer state =
      let r := (next (answer question state).1).run answer (answer question state).2
      (r.1, ⟨question, (answer question state).1⟩ :: r.2.1, r.2.2) := rfl

/-- What is asked after a computation is done follows what it asked itself. -/
theorem run_bind (answer : (question : Q) → σ → A question × σ) (x : Interaction Q A α)
    (f : α → Interaction Q A β) (state : σ) :
    (x.bind f).run answer state =
      let r := x.run answer state
      let s := (f r.1).run answer r.2.2
      (s.1, r.2.1 ++ s.2.1, s.2.2) := by
  induction x generalizing state with
  | done => rfl
  | ask question next ih => simp [ih]

end Interaction

end PullSecretSync
