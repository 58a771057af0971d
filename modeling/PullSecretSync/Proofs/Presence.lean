import PullSecretSync.Api.Watch

/-!
# What the forwarded events tell of a secret

A watch on one slot tells whether its secret is there in two ways: by the events on the secret,
which are handed on, and by the end of a list that does not have it, of which nothing is handed on.
The main result compares what was handed on with all that was told, for streams of any length with
any number of lists.
-/

namespace PullSecretSync

/-- What a watch has told of an object so far: whether it is there, and whether it was seen there
since the last list began. -/
structure Sighting where
  present : Bool := false
  seen : Bool := false
  deriving DecidableEq, Repr

namespace Sighting

variable {α : Type}

/-- Take in an event. An object that is still unseen when a list is complete has been deleted. -/
def observe (sighting : Sighting) : WatchEvent α → Sighting
  | .listing => { sighting with seen := false }
  | .listed _ => ⟨true, true⟩
  | .complete => { sighting with present := sighting.seen }
  | .applied _ => ⟨true, true⟩
  | .deleted _ => ⟨false, false⟩

/-- What some events tell. -/
def ofEvents (events : List (WatchEvent α)) : Sighting := events.foldl observe {}

end Sighting

/-- The events on a secret that are handed on. -/
def SecretEvent.forwarded (events : List (WatchEvent Secret)) : List SecretEvent :=
  events.filterMap SecretEvent.ofWatch?

/-- Whether the secret is there according to the events that were handed on. -/
def SecretEvent.presence (events : List (WatchEvent Secret)) : Bool :=
  match (SecretEvent.forwarded events).getLast? with
  | some event => !event.deleted
  | none => false

/-- The secret was there according to the last event that was handed on, and since then a list has
begun and ended without it. -/
def DeletedUnseen (events : List (WatchEvent Secret)) : Prop :=
  ∃ before shown event rest, events = before ++ shown :: rest ∧
    SecretEvent.ofWatch? shown = some event ∧ event.deleted = false ∧
    SecretEvent.forwarded rest = [] ∧ [.listing, .complete].Sublist rest

namespace Sighting

variable {rest : List (WatchEvent Secret)}

/-- An event that is not handed on marks the beginning or the end of a list. -/
private theorem marker {event : WatchEvent Secret} (quiet : SecretEvent.ofWatch? event = none) :
    event = .listing ∨ event = .complete := by
  cases event with
  | listing => exact .inl rfl
  | complete => exact .inr rfl
  | _ => cases quiet

private theorem forwarded_cons_eq_nil {event : WatchEvent Secret}
    (quiet : SecretEvent.forwarded (event :: rest) = []) :
    (event = .listing ∨ event = .complete) ∧ SecretEvent.forwarded rest = [] := by
  rw [SecretEvent.forwarded, List.filterMap_eq_nil_iff, List.forall_mem_cons] at quiet
  exact ⟨marker quiet.1, List.filterMap_eq_nil_iff.mpr quiet.2⟩

/-- Lists that show nothing do not bring back what is not there. -/
theorem foldl_observe_absent (quiet : SecretEvent.forwarded rest = []) :
    rest.foldl observe ⟨false, false⟩ = ⟨false, false⟩ := by
  induction rest with
  | nil => rfl
  | cons event rest ih =>
    obtain ⟨rfl | rfl, silent⟩ := forwarded_cons_eq_nil quiet
    · exact ih silent
    · exact ih silent

/-- What was not seen since a list began is gone when a list ends. -/
theorem foldl_observe_unseen (quiet : SecretEvent.forwarded rest = []) :
    (rest.foldl observe ⟨true, false⟩).present = true ↔ .complete ∉ rest := by
  induction rest with
  | nil => simp
  | cons event rest ih =>
    obtain ⟨rfl | rfl, silent⟩ := forwarded_cons_eq_nil quiet
    · have h := ih silent
      simpa [observe] using h
    · have h := foldl_observe_absent silent
      simp [observe, h]

/-- What was seen is gone when a list has begun and ended since. -/
theorem foldl_observe_seen (quiet : SecretEvent.forwarded rest = []) :
    (rest.foldl observe ⟨true, true⟩).present = true ↔
      ¬ [.listing, .complete].Sublist rest := by
  induction rest with
  | nil => simp
  | cons event rest ih =>
    obtain ⟨rfl | rfl, silent⟩ := forwarded_cons_eq_nil quiet
    · have h := foldl_observe_unseen silent
      rw [List.cons_sublist_cons, List.singleton_sublist]
      exact h
    · have h := ih silent
      rw [List.sublist_cons_iff]
      simpa [observe] using h

end Sighting

/-- Either nothing was handed on, or there is a last event that was. -/
private theorem forwarded_cases (events : List (WatchEvent Secret)) :
    SecretEvent.forwarded events = [] ∨
      ∃ before told event rest, events = before ++ told :: rest ∧
        SecretEvent.ofWatch? told = some event ∧ SecretEvent.forwarded rest = [] := by
  induction events with
  | nil => exact .inl rfl
  | cons first events ih =>
    rcases ih with quiet | ⟨before, told, event, rest, rfl, forwarded, quiet⟩
    · cases forwarded : SecretEvent.ofWatch? first with
      | none =>
        left
        rw [SecretEvent.forwarded, List.filterMap_cons_none forwarded]
        exact quiet
      | some event => exact .inr ⟨[], first, event, events, rfl, forwarded, quiet⟩
    · exact .inr ⟨first :: before, told, event, rest, rfl, forwarded, quiet⟩

private theorem presence_append {before rest : List (WatchEvent Secret)} {told : WatchEvent Secret}
    {event : SecretEvent} (forwarded : SecretEvent.ofWatch? told = some event)
    (quiet : SecretEvent.forwarded rest = []) :
    SecretEvent.presence (before ++ told :: rest) = !event.deleted := by
  rw [SecretEvent.forwarded] at quiet
  simp [SecretEvent.presence, SecretEvent.forwarded, List.filterMap_append, forwarded, quiet]

/-- What is known of a secret after an event that is handed on. -/
private theorem observe_of_forwarded (sighting : Sighting) {told : WatchEvent Secret}
    {event : SecretEvent} (forwarded : SecretEvent.ofWatch? told = some event) :
    sighting.observe told = ⟨!event.deleted, !event.deleted⟩ := by
  cases told <;> cases forwarded <;> rfl

/-- The events that were handed on agree with all that the watch has told, except from the end of a
list that misses a secret until the secret is seen again. -/
theorem presence_eq_iff (events : List (WatchEvent Secret)) :
    SecretEvent.presence events = (Sighting.ofEvents events).present ↔ ¬ DeletedUnseen events := by
  constructor
  · rintro same ⟨before, shown, event, rest, rfl, forwarded, kept, quiet, missed⟩
    rw [presence_append forwarded quiet, kept, Sighting.ofEvents, List.foldl_append,
      List.foldl_cons, observe_of_forwarded _ forwarded, kept] at same
    exact (Sighting.foldl_observe_seen quiet).mp same.symm missed
  · intro seen
    rcases forwarded_cases events with quiet | ⟨before, told, event, rest, rfl, forwarded, quiet⟩
    · rw [SecretEvent.presence, quiet, Sighting.ofEvents]
      exact congrArg Sighting.present (Sighting.foldl_observe_absent quiet).symm
    · rw [presence_append forwarded quiet, Sighting.ofEvents, List.foldl_append, List.foldl_cons,
        observe_of_forwarded _ forwarded]
      cases deleted : event.deleted with
      | true => exact congrArg Sighting.present (Sighting.foldl_observe_absent quiet).symm
      | false =>
        refine ((Sighting.foldl_observe_seen quiet).mpr fun missed => ?_).symm
        exact seen ⟨before, told, event, rest, rfl, forwarded, deleted, quiet, missed⟩

/-- A list that comes back empty is not told. -/
example (secret : Secret) : DeletedUnseen [.applied secret, .listing, .complete] :=
  ⟨[], .applied secret, .applied secret, _, rfl, rfl, rfl, rfl, .refl _⟩

end PullSecretSync
