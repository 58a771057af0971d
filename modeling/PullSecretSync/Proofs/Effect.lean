import PullSecretSync.Sync.Call

/-!
# Effects of the synchronisation

An effect is a question with the answer that it got. `Leads` says which effects a computation may
have, and with which value it may end, when the surroundings answer as they like; entries in the
log are left out. Every run against a state is one of these courses, and its effects account for
how the state changed. Laws about courses therefore hold of every store, server and clock.
-/

namespace PullSecretSync

/-- Whether a question only leaves an entry in the log. -/
@[simp] def Call.isNote : Call → Bool
  | .note _ => true
  | _ => false

namespace Sync

variable {α β σ : Type}

/-- A question of the synchronisation with the answer it got. -/
abbrev Effect := Interaction.Exchange Call Call.Answer

/-- A call to the store with its answer. -/
abbrev Effect.store (call : StoreCall) (answer : call.Answer) : Effect := ⟨.store call, answer⟩

/-- The writing of a status with its answer. -/
abbrev Effect.writeStatus (config : Config) (answer : Except SyncError Unit) : Effect :=
  ⟨.writeStatus config, answer⟩

/-- The reading of a configuration with its answer. -/
abbrev Effect.readConfig (name : String) (answer : Except ApiError (Option Config)) : Effect :=
  ⟨.readConfig name, answer⟩

/-- The reading of a secret with its answer. -/
abbrev Effect.readSecret (slot : Slot) (answer : Except ApiError (Option Secret)) : Effect :=
  ⟨.readSecret slot, answer⟩

/-- A computation may have some effects, in this order, and end with a value. -/
inductive Leads : Sync α → List Effect → α → Prop
  | done (value : α) : Leads (.done value) [] value
  | note {entry : LogEntry} {next : Unit → Sync α} {effects : List Effect} {value : α}
      (rest : Leads (next ()) effects value) : Leads (.ask (.note entry) next) effects value
  | ask {question : Call} {next : question.Answer → Sync α} {effects : List Effect} {value : α}
      (loud : question.isNote = false) (answer : question.Answer)
      (rest : Leads (next answer) effects value) :
      Leads (.ask question next) (⟨question, answer⟩ :: effects) value

@[simp] theorem leads_done {value result : α} {effects : List Effect} :
    Leads (.done value) effects result ↔ effects = [] ∧ result = value := by
  constructor
  · rintro ⟨⟩
    exact ⟨rfl, rfl⟩
  · rintro ⟨rfl, rfl⟩
    exact .done _

@[simp] theorem leads_note {entry : LogEntry} {next : Unit → Sync α} {effects : List Effect}
    {result : α} : Leads (.ask (.note entry) next) effects result ↔
      Leads (next ()) effects result := by
  constructor
  · intro h
    cases h with
    | note rest => exact rest
    | ask loud => cases loud
  · exact .note

/-- A question that is no entry in the log is the first effect. -/
theorem leads_ask {question : Call} (loud : question.isNote = false)
    {next : question.Answer → Sync α} {effects : List Effect} {result : α} :
    Leads (.ask question next) effects result ↔
      ∃ answer rest, effects = ⟨question, answer⟩ :: rest ∧ Leads (next answer) rest result := by
  constructor
  · intro h
    cases h with
    | note => cases loud
    | ask _ answer rest => exact ⟨answer, _, rfl, rest⟩
  · rintro ⟨answer, rest, rfl, h⟩
    exact .ask loud answer h

/-- The effects of a computation that goes on after another follow those of the first. -/
theorem leads_bind {x : Sync α} {f : α → Sync β} {effects : List Effect} {result : β} :
    Leads (x.bind f) effects result ↔
      ∃ first value rest, effects = first ++ rest ∧ Leads x first value ∧
        Leads (f value) rest result := by
  induction x generalizing effects with
  | done value =>
    constructor
    · intro h
      exact ⟨[], value, effects, rfl, .done value, h⟩
    · rintro ⟨first, _, rest, rfl, ⟨⟩, h⟩
      exact h
  | ask question next ih =>
    constructor
    · intro h
      cases h with
      | note h =>
        obtain ⟨first, value, rest, rfl, hx, hf⟩ := (ih _).mp h
        exact ⟨first, value, rest, rfl, .note hx, hf⟩
      | ask loud answer h =>
        obtain ⟨first, value, rest, rfl, hx, hf⟩ := (ih _).mp h
        exact ⟨_, value, rest, rfl, .ask loud answer hx, hf⟩
    · rintro ⟨first, value, rest, rfl, hx, hf⟩
      cases hx with
      | note hx => exact .note ((ih _).mpr ⟨first, value, rest, rfl, hx, hf⟩)
      | ask loud answer hx => exact .ask loud answer ((ih _).mpr ⟨_, value, rest, rfl, hx, hf⟩)

/-- A computation that goes on without effects has the effects of its first part. -/
theorem Leads.bind_quiet {x : Sync α} {f : α → Sync β} {value : α} {effects : List Effect}
    {result : β} (h : Leads x effects value) (quiet : Leads (f value) [] result) :
    Leads (x.bind f) effects result :=
  leads_bind.mpr ⟨effects, value, [], (List.append_nil effects).symm, h, quiet⟩

/-! ## Single questions -/

section Questions

variable {effects : List Effect} {result : α}

@[simp] theorem leads_note_bind {severity : Severity} {text : String} {next : Unit → Sync α} :
    Leads ((note severity text).bind next) effects result ↔ Leads (next ()) effects result :=
  leads_note

theorem leads_store_bind {call : StoreCall} {next : call.Answer → Sync α} :
    Leads ((store call).bind next) effects result ↔
      ∃ answer rest, effects = .store call answer :: rest ∧ Leads (next answer) rest result :=
  leads_ask rfl

theorem leads_writeStatus_bind {config : Config} {next : Except SyncError Unit → Sync α} :
    Leads ((writeStatus config).bind next) effects result ↔
      ∃ answer rest, effects = .writeStatus config answer :: rest ∧
        Leads (next answer) rest result :=
  leads_ask rfl

theorem leads_readConfig_bind {name : String}
    {next : Except ApiError (Option Config) → Sync α} :
    Leads ((readConfig name).bind next) effects result ↔
      ∃ answer rest, effects = .readConfig name answer :: rest ∧
        Leads (next answer) rest result :=
  leads_ask rfl

theorem leads_readSecret_bind {slot : Slot} {next : Except ApiError (Option Secret) → Sync α} :
    Leads ((readSecret slot).bind next) effects result ↔
      ∃ answer rest, effects = .readSecret slot answer :: rest ∧
        Leads (next answer) rest result :=
  leads_ask rfl

end Questions

/-- Every question has an answer. -/
theorem nonempty_answer (question : Call) : Nonempty question.Answer := by
  cases question with
  | store call => cases call <;> exact ⟨.error (.conflict "")⟩
  | writeStatus => exact ⟨.ok ()⟩
  | readConfig => exact ⟨.ok none⟩
  | readSecret => exact ⟨.ok none⟩
  | note => exact ⟨()⟩

/-- Every computation has a course. -/
theorem exists_leads (x : Sync α) : ∃ effects result, Leads x effects result := by
  induction x with
  | done value => exact ⟨[], value, .done value⟩
  | ask question next ih =>
    obtain ⟨answer⟩ := nonempty_answer question
    obtain ⟨effects, result, rest⟩ := ih answer
    cases loud : question.isNote with
    | false => exact ⟨_, result, .ask loud answer rest⟩
    | true =>
      cases question with
      | note => exact ⟨effects, result, .note rest⟩
      | _ => cases loud

/-! ## Courses and runs -/

/-- What a computation is answered fixes its course: of two courses none goes on after the other
has ended. -/
theorem Leads.eq_of_append_eq {x : Sync α} {effects others : List Effect} {result other : α}
    (h : Leads x effects result) (ho : Leads x others other) {rest tail : List Effect}
    (same : effects ++ rest = others ++ tail) :
    effects = others ∧ result = other ∧ rest = tail := by
  induction h generalizing others with
  | done =>
    obtain ⟨rfl, rfl⟩ := leads_done.mp ho
    exact ⟨rfl, rfl, same⟩
  | note _ ih => exact ih (leads_note.mp ho) same
  | ask loud answer _ ih =>
    obtain ⟨_, others, rfl, next⟩ := (leads_ask loud).mp ho
    rw [List.cons_append, List.cons_append] at same
    injection same with head same
    cases head
    obtain ⟨rfl, rfl, rfl⟩ := ih next same
    exact ⟨rfl, rfl, rfl⟩

/-- Of one course there is one result. -/
theorem Leads.result_eq {x : Sync α} {effects : List Effect} {result other : α}
    (h : Leads x effects result) (ho : Leads x effects other) : result = other := by
  have same : effects ++ [] = effects ++ [] := rfl
  exact (h.eq_of_append_eq ho same).2.1

/-- Some effects, with their answers, are those that a state gives rise to, and lead to another
state. -/
inductive Serves (answer : (question : Call) → σ → question.Answer × σ) :
    σ → List Effect → σ → Prop
  | nil (state : σ) : Serves answer state [] state
  | cons {question : Call} {state last : σ} {effects : List Effect}
      (rest : Serves answer (answer question state).2 effects last) :
      Serves answer state (⟨question, (answer question state).1⟩ :: effects) last

section Serving

variable {answer : (question : Call) → σ → question.Answer × σ} {state last : σ} {question : Call}
  {reply : question.Answer} {effects rest : List Effect}

@[simp] theorem serves_nil_iff : Serves answer state [] last ↔ last = state := by
  constructor
  · rintro ⟨⟩
    rfl
  · rintro rfl
    exact .nil _

theorem serves_cons_iff : Serves answer state (⟨question, reply⟩ :: effects) last ↔
    reply = (answer question state).1 ∧ Serves answer (answer question state).2 effects last := by
  constructor
  · intro h
    cases h with
    | cons rest => exact ⟨rfl, rest⟩
  · rintro ⟨rfl, rest⟩
    exact .cons rest

theorem serves_append_iff : Serves answer state (effects ++ rest) last ↔
    ∃ next, Serves answer state effects next ∧ Serves answer next rest last := by
  induction effects generalizing state with
  | nil => simp
  | cons effect effects ih =>
    obtain ⟨question, reply⟩ := effect
    simp only [List.cons_append, serves_cons_iff, ih]
    constructor
    · rintro ⟨same, next, before, after⟩
      exact ⟨next, ⟨same, before⟩, after⟩
    · rintro ⟨next, ⟨same, before⟩, after⟩
      exact ⟨same, next, before, after⟩

end Serving

/-- Some exchanges without the entries in the log. -/
def loud (exchanges : List Effect) : List Effect := exchanges.filter (!·.1.isNote)

/-- A question that is no entry in the log is heard. -/
theorem loud_cons {question : Call} (heard : question.isNote = false) (answer : question.Answer)
    (exchanges : List Effect) :
    loud (⟨question, answer⟩ :: exchanges) = ⟨question, answer⟩ :: loud exchanges := by
  simp only [loud, List.filter_cons, heard, Bool.not_false, if_true]

section Running

variable {answer : (question : Call) → σ → question.Answer × σ}

/-- What is asked in a run against a state that the log does not change is a course that the state
serves. -/
theorem leads_loud (quiet : ∀ entry state, answer (.note entry) state = ((), state)) (x : Sync α)
    (state : σ) :
    Leads x (loud (x.run answer state).2.1) (x.run answer state).1 ∧
      Serves answer state (loud (x.run answer state).2.1) (x.run answer state).2.2 := by
  induction x generalizing state with
  | done value => exact ⟨.done value, .nil state⟩
  | ask question next ih =>
    rw [Interaction.run_ask]
    obtain ⟨leads, serves⟩ := ih (answer question state).1 (answer question state).2
    cases question with
    | note entry =>
      rw [quiet] at leads serves ⊢
      exact ⟨.note leads, serves⟩
    | _ => exact ⟨.ask rfl _ leads, .cons serves⟩

/-- The course that a state serves is that of the run against it. -/
theorem Leads.run_eq {x : Sync α} {effects : List Effect} {value : α} {state last : σ}
    (leads : Leads x effects value)
    (quiet : ∀ entry state, answer (.note entry) state = ((), state))
    (serves : Serves answer state effects last) :
    (x.run answer state).1 = value ∧ loud (x.run answer state).2.1 = effects ∧
      (x.run answer state).2.2 = last := by
  induction leads generalizing state with
  | done value =>
    obtain rfl := serves_nil_iff.mp serves
    exact ⟨rfl, rfl, rfl⟩
  | note rest ih =>
    obtain ⟨same, asked, after⟩ := ih serves
    rw [Interaction.run_ask, quiet]
    exact ⟨same, asked, after⟩
  | @ask question next effects value heard reply rest ih =>
    obtain ⟨rfl, further⟩ := serves_cons_iff.mp serves
    obtain ⟨same, asked, after⟩ := ih further
    rw [Interaction.run_ask]
    refine ⟨same, ?_, after⟩
    rw [← asked]
    exact loud_cons heard _ _

/-- A run against a state that the log does not change is a course that the state serves. -/
theorem leads_run (quiet : ∀ entry state, answer (.note entry) state = ((), state)) (x : Sync α)
    (state : σ) :
    ∃ effects, Leads x effects (x.run answer state).1 ∧
      Serves answer state effects (x.run answer state).2.2 :=
  ⟨_, leads_loud quiet x state⟩

end Running

end Sync

end PullSecretSync
