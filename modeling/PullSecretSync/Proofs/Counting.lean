import Mathlib.Data.List.Induction
import Mathlib.Data.Set.Card
import Mathlib.Logic.Relation
import PullSecretSync.Proofs.Guards

/-!
# Counting the guards of a history

A history of what was done with counters and guards says by itself which guards are alive and which
counters are connected: a guard is alive from its beginning until it is dropped, and the connections
are the least equivalence that holds of a clone and its counter. After every history each counter
tells how many guards are alive that were begun on it or on a counter connected with it. What is
done with other counters does not show in it, and as long as the guards alive are fewer than the
machine words the count does not wrap around.
-/

namespace PullSecretSync

namespace Upserts

/-! ## Histories -/

/-- The counters and guards after all that was done with them. -/
def after (history : List Change) : Upserts := history.foldl apply {}

/-- A counter has been made, by itself or as a clone. -/
def Known (history : List Change) (counter : Nat) : Prop :=
  counter < (after history).counters.length

/-- A guard was begun on a counter and has not been dropped since. -/
def Alive (history : List Change) (guard counter : Nat) : Prop :=
  ∃ before since, history = before ++ .start counter :: since ∧ Known before counter ∧
    guard = (after before).guards.length ∧ .drop guard ∉ since

/-- A counter was made as a clone of another. -/
def Cloned (history : List Change) (clone counter : Nat) : Prop :=
  ∃ before since, history = before ++ .clone counter :: since ∧ Known before counter ∧
    clone = (after before).counters.length

/-- Two counters are connected by cloning, over any number of clones in any direction. -/
def Connected (history : List Change) : Nat → Nat → Prop := Relation.EqvGen (Cloned history)

/-- The guards alive that were begun on a counter or on one that is connected with it. -/
def guardsOf (history : List Change) (counter : Nat) : Set Nat :=
  { guard | ∃ other, Alive history guard other ∧ Connected history counter other }

/-- All guards that are alive. -/
def allGuards (history : List Change) : Set Nat :=
  { guard | ∃ counter, Alive history guard counter }

/-- What is done concerns a counter: an upsert starts or ends on one that is connected with it. -/
def Concerns (history : List Change) (counter : Nat) : Change → Prop
  | .create => False
  | .clone _ => False
  | .start other => Connected history counter other
  | .drop guard => guard ∈ guardsOf history counter

/-- Counters tell how many guards are alive after a history. -/
structure Accurate (history : List Change) : Prop where
  finite : (allGuards history).Finite
  /-- Every counter tells, as a machine word, the number of its guards alive. -/
  told : ∀ counter,
    (after history).inFlight counter = UInt64.ofNat (guardsOf history counter).ncard
  /-- The word is the number itself while there are fewer guards alive than machine words. -/
  exact : (allGuards history).ncard < UInt64.size → ∀ counter,
    ((after history).inFlight counter).toNat = (guardsOf history counter).ncard
  /-- What does not concern a counter does not show in it. -/
  apart : ∀ counter change, Known history counter → ¬ Concerns history counter change →
    (after (history ++ [change])).inFlight counter = (after history).inFlight counter
  /-- An upsert that starts counts as one more, and the word does not wrap around at its end. -/
  rises : ∀ counter other, Known history other → Connected history counter other →
    (allGuards (history ++ [.start other])).ncard < UInt64.size →
    ((after (history ++ [.start other])).inFlight counter).toNat =
      ((after history).inFlight counter).toNat + 1
  /-- An upsert that ends counts as one less, and the word does not wrap around at zero. -/
  falls : ∀ counter, ∀ guard ∈ guardsOf history counter,
    (allGuards history).ncard < UInt64.size →
    ((after (history ++ [.drop guard])).inFlight counter).toNat + 1 =
      ((after history).inFlight counter).toNat
  /-- Nothing happens when a guard is dropped that is not alive, as after it was dropped before. -/
  idle : ∀ guard ∉ allGuards history, after (history ++ [.drop guard]) = after history

end Upserts

namespace Lineage

/-- The lineage after all that was done. -/
def after (history : List Upserts.Change) : Lineage := history.foldl apply {}

theorem after_concat (history : List Upserts.Change) (change : Upserts.Change) :
    after (history ++ [change]) = (after history).apply change := by
  rw [after, List.foldl_concat]
  rfl

end Lineage

namespace Upserts

variable {history : List Change} {change : Change} {guard counter other : Nat}

theorem after_concat (history : List Change) (change : Change) :
    after (history ++ [change]) = (after history).apply change := by
  rw [after, List.foldl_concat]
  rfl

theorem sound_after (history : List Change) : (after history).Sound := by
  induction history using List.reverseRecOn with
  | nil => exact .empty
  | append_singleton history change sound =>
    rw [after_concat]
    exact sound.apply change

theorem tracks_after (history : List Change) : (after history).Tracks (Lineage.after history) := by
  induction history using List.reverseRecOn with
  | nil => exact .empty
  | append_singleton history change tracks =>
    rw [after_concat, Lineage.after_concat]
    exact tracks.apply (sound_after history) change

theorem known_iff : Known history counter ↔ counter < (Lineage.after history).origins.length := by
  rw [Known, (tracks_after history).counters]

theorem length_guards (history : List Change) :
    (after history).guards.length = (Lineage.after history).guards.length := by
  rw [(tracks_after history).guards, List.length_map]

/-- An entry of a history that gets one more is this one or was there before. -/
theorem concat_eq_append_cons_iff {before since : List Change} {entry : Change} :
    history ++ [change] = before ++ entry :: since ↔
      (history = before ∧ change = entry ∧ since = []) ∨
        ∃ between, history = before ++ entry :: between ∧ since = between ++ [change] := by
  rcases List.eq_nil_or_concat since with rfl | ⟨between, last, rfl⟩
  · rw [List.append_singleton_inj]
    simp
  · rw [List.concat_eq_append, ← List.cons_append, ← List.append_assoc, List.append_singleton_inj]
    constructor
    · rintro ⟨rfl, rfl⟩
      exact .inr ⟨between, rfl, rfl⟩
    · rintro (⟨-, -, none⟩ | ⟨other, rfl, same⟩)
      · exact absurd none (by simp)
      · obtain ⟨rfl, rfl⟩ := List.append_singleton_inj.mp same
        exact ⟨rfl, rfl⟩

theorem alive_concat_iff : Alive (history ++ [change]) guard counter ↔
    (change = .start counter ∧ Known history counter ∧ guard = (after history).guards.length) ∨
      (Alive history guard counter ∧ change ≠ .drop guard) := by
  simp only [Alive, concat_eq_append_cons_iff]
  constructor
  · rintro ⟨before, since, ⟨rfl, rfl, rfl⟩ | ⟨between, rfl, rfl⟩, known, rfl, kept⟩
    · exact .inl ⟨rfl, known, rfl⟩
    · rw [List.mem_append, not_or, List.mem_singleton] at kept
      exact .inr ⟨⟨before, between, rfl, known, rfl, kept.1⟩, Ne.symm kept.2⟩
  · rintro (⟨rfl, known, rfl⟩ | ⟨⟨before, between, rfl, known, rfl, kept⟩, other⟩)
    · exact ⟨history, [], .inl ⟨rfl, rfl, rfl⟩, known, rfl, List.not_mem_nil⟩
    · refine ⟨before, between ++ [change], .inr ⟨between, rfl, rfl⟩, known, rfl, ?_⟩
      rw [List.mem_append, not_or, List.mem_singleton]
      exact ⟨kept, Ne.symm other⟩

theorem cloned_concat_iff {clone : Nat} : Cloned (history ++ [change]) clone counter ↔
    (change = .clone counter ∧ Known history counter ∧ clone = (after history).counters.length) ∨
      Cloned history clone counter := by
  simp only [Cloned, concat_eq_append_cons_iff]
  constructor
  · rintro ⟨before, since, ⟨rfl, rfl, rfl⟩ | ⟨between, rfl, rfl⟩, known, rfl⟩
    · exact .inl ⟨rfl, known, rfl⟩
    · exact .inr ⟨before, between, rfl, known, rfl⟩
  · rintro (⟨rfl, known, rfl⟩ | ⟨before, between, rfl, known, rfl⟩)
    · exact ⟨history, [], .inl ⟨rfl, rfl, rfl⟩, known, rfl⟩
    · exact ⟨before, between ++ [change], .inr ⟨between, rfl, rfl⟩, known, rfl⟩

theorem getElem?_concat_eq_some_iff {α : Type} {entries : List α} {last entry : α} {place : Nat} :
    (entries ++ [last])[place]? = some entry ↔
      (place = entries.length ∧ last = entry) ∨ entries[place]? = some entry := by
  grind

/-- The lineage knows the guards that are alive. -/
theorem alive_iff :
    Alive history guard counter ↔ (Lineage.after history).guards[guard]? = some (some counter) := by
  induction history using List.reverseRecOn with
  | nil => simp [Alive, Lineage.after]
  | append_singleton history change ih =>
    rw [alive_concat_iff, ih, Lineage.after_concat, known_iff, length_guards]
    cases change with
    | create => simp [Lineage.apply]
    | clone counter =>
      rw [Lineage.apply]
      split <;> simp
    | start other =>
      rw [Lineage.apply]
      split <;> grind
    | drop other =>
      rw [Lineage.apply, List.getElem?_set]
      grind

/-- A guard alive was begun on a counter that had been made. -/
theorem Alive.known (alive : Alive history guard counter) : Known history counter :=
  known_iff.mpr ((tracks_after history).begun counter (List.mem_of_getElem? (alive_iff.mp alive)))

/-! ## Connections -/

theorem Known.exists_origin (known : Known history counter) :
    ∃ origin, (Lineage.after history).origins[counter]? = some origin :=
  ⟨_, List.getElem?_eq_getElem (known_iff.mp known)⟩

/-- Where a counter comes from stays as it is. -/
theorem origin_concat {origin : Nat}
    (found : (Lineage.after history).origins[counter]? = some origin) (change : Change) :
    (Lineage.after (history ++ [change])).origins[counter]? = some origin := by
  obtain ⟨bound, -⟩ := List.getElem?_eq_some_iff.mp found
  rw [Lineage.after_concat, Lineage.apply.eq_def]
  cases change with
  | create => rw [← found, List.getElem?_append_left bound]
  | clone other =>
    dsimp only
    split
    · rw [← found, List.getElem?_append_left bound]
    · exact found
  | start other =>
    dsimp only
    split <;> exact found
  | drop guard => exact found

/-- A clone comes from where its counter comes from. -/
theorem Cloned.exists_origin {clone : Nat} (cloned : Cloned history clone counter) :
    ∃ origin, (Lineage.after history).origins[clone]? = some origin ∧
      (Lineage.after history).origins[counter]? = some origin := by
  induction history using List.reverseRecOn with
  | nil => simp [Cloned] at cloned
  | append_singleton history change ih =>
    rcases cloned_concat_iff.mp cloned with ⟨rfl, known, rfl⟩ | before
    · obtain ⟨origin, found⟩ := known.exists_origin
      refine ⟨origin, ?_, origin_concat found _⟩
      rw [Lineage.after_concat, Lineage.apply, found, (tracks_after history).counters]
      exact List.getElem?_concat_length
    · obtain ⟨origin, first, second⟩ := ih before
      exact ⟨origin, origin_concat first change, origin_concat second change⟩

/-- What is connected stays connected. -/
theorem Connected.concat (connected : Connected history counter other) (change : Change) :
    Connected (history ++ [change]) counter other :=
  Relation.EqvGen.mono (fun _ _ cloned => cloned_concat_iff.mpr (.inr cloned)) _ _ connected

/-- Counters that are connected come from the same counter. -/
theorem Connected.origins_eq (connected : Connected history counter other) :
    (Lineage.after history).origins[counter]? = (Lineage.after history).origins[other]? := by
  induction connected with
  | rel clone counter cloned =>
    obtain ⟨origin, first, second⟩ := cloned.exists_origin
    exact first.trans second.symm
  | refl counter => rfl
  | symm first second _ same => exact same.symm
  | trans first second third _ _ same next => exact same.trans next

/-- A counter is connected with the one that it comes from. A new clone is one step from its
counter, which is connected with its origin. -/
theorem connected_origin {origin : Nat}
    (found : (Lineage.after history).origins[counter]? = some origin) :
    Connected history counter origin := by
  induction history using List.reverseRecOn generalizing counter with
  | nil => cases found
  | append_singleton history change ih =>
    have kept (old : (Lineage.after history).origins[counter]? = some origin) :
        Connected (history ++ [change]) counter origin := (ih old).concat change
    rw [Lineage.after_concat] at found
    cases change with
    | create =>
      rcases getElem?_concat_eq_some_iff.mp found with ⟨rfl, rfl⟩ | old
      · exact .refl _
      · exact kept old
    | clone other =>
      rw [Lineage.apply] at found
      split at found
      case h_1 _ source known =>
        rcases getElem?_concat_eq_some_iff.mp found with ⟨rfl, rfl⟩ | old
        · have known' : Known history other := known_iff.mpr (List.getElem?_eq_some_iff.mp known).1
          have cloned : Cloned (history ++ [.clone other]) (Lineage.after history).origins.length
              other :=
            cloned_concat_iff.mpr (.inl ⟨rfl, known', (tracks_after history).counters.symm⟩)
          exact .trans _ _ _ (.rel _ _ cloned) ((ih known).concat _)
        · exact kept old
      case h_2 => exact kept found
    | start other =>
      rw [Lineage.apply] at found
      split at found <;> exact kept found
    | drop guard => exact kept found

/-- Counters that come from the same counter are connected. -/
theorem connected_of_origin {origin : Nat}
    (first : (Lineage.after history).origins[counter]? = some origin)
    (second : (Lineage.after history).origins[other]? = some origin) :
    Connected history counter other :=
  .trans _ _ _ (connected_origin first) (.symm _ _ (connected_origin second))

/-- The lineage knows the counters that are connected. -/
theorem kin_iff (known : Known history other) :
    (Lineage.after history).kin counter other = true ↔ Connected history counter other := by
  rw [Lineage.kin, decide_eq_true_iff]
  constructor
  · intro same
    obtain ⟨origin, found⟩ := known.exists_origin
    exact connected_of_origin (same.trans found) found
  · exact Connected.origins_eq

/-- Only counters that have been made are connected with one that has. -/
theorem Connected.known (connected : Connected history counter other)
    (known : Known history other) : Known history counter := by
  obtain ⟨origin, found⟩ := known.exists_origin
  exact known_iff.mpr (List.getElem?_eq_some_iff.mp (connected.origins_eq.trans found)).1

/-- Nothing connects counters later that were not connected when they were made. -/
theorem connected_concat_iff (first : Known history counter) (second : Known history other) :
    Connected (history ++ [change]) counter other ↔ Connected history counter other := by
  refine ⟨fun connected => ?_, fun connected => connected.concat change⟩
  obtain ⟨origin, found⟩ := first.exists_origin
  obtain ⟨origin', found'⟩ := second.exists_origin
  have same : some origin = some origin' := by
    rw [← origin_concat found change, ← origin_concat found' change]
    exact connected.origins_eq
  cases same
  exact connected_of_origin found found'

/-! ## Numbers of guards -/

/-- The places of the entries that have a property. -/
def places {α : Type} (entries : List α) (holds : α → Bool) : Set Nat :=
  { place | ∃ entry, entries[place]? = some entry ∧ holds entry = true }

theorem finite_places {α : Type} (entries : List α) (holds : α → Bool) :
    (places entries holds).Finite := by
  refine (Set.finite_lt_nat entries.length).subset ?_
  rintro place ⟨entry, found, -⟩
  exact (List.getElem?_eq_some_iff.mp found).1

theorem mem_places_concat {α : Type} {entries : List α} {last : α} {holds : α → Bool}
    {place : Nat} : place ∈ places (entries ++ [last]) holds ↔
      (place = entries.length ∧ holds last = true) ∨ place ∈ places entries holds := by
  simp only [places, Set.mem_ofPred_eq, getElem?_concat_eq_some_iff]
  grind

/-- Entries are counted by counting their places. -/
theorem ncard_places {α : Type} (entries : List α) (holds : α → Bool) :
    (places entries holds).ncard = entries.countP holds := by
  induction entries using List.reverseRecOn with
  | nil => simp [places]
  | append_singleton entries last ih =>
    rw [List.countP_append, List.countP_singleton, ← ih]
    cases kept : holds last with
    | true =>
      have grown : places (entries ++ [last]) holds =
          insert entries.length (places entries holds) := by
        ext place
        simp [mem_places_concat, kept]
      have fresh : entries.length ∉ places entries holds := by simp [places]
      rw [grown, Set.ncard_insert_of_notMem fresh (finite_places entries holds)]
      rfl
    | false =>
      have same : places (entries ++ [last]) holds = places entries holds := by
        ext place
        simp [mem_places_concat, kept]
      rw [same]
      rfl

/-- The guards of a counter are those that the lineage counts. -/
theorem guardsOf_eq (history : List Change) (counter : Nat) : guardsOf history counter =
    places (Lineage.after history).guards (·.any ((Lineage.after history).kin counter)) := by
  ext guard
  constructor
  · rintro ⟨other, alive, connected⟩
    exact ⟨some other, alive_iff.mp alive, (kin_iff alive.known).mpr connected⟩
  · rintro ⟨_ | other, found, kin⟩
    · cases kin
    · have alive : Alive history guard other := alive_iff.mpr found
      exact ⟨other, alive, (kin_iff alive.known).mp kin⟩

theorem allGuards_eq (history : List Change) :
    allGuards history = places (Lineage.after history).guards (·.isSome) := by
  ext guard
  constructor
  · rintro ⟨counter, alive⟩
    exact ⟨some counter, alive_iff.mp alive, rfl⟩
  · rintro ⟨_ | counter, found, some⟩
    · cases some
    · exact ⟨counter, alive_iff.mpr found⟩

theorem finite_allGuards (history : List Change) : (allGuards history).Finite :=
  allGuards_eq history ▸ finite_places _ _

theorem guardsOf_subset (history : List Change) (counter : Nat) :
    guardsOf history counter ⊆ allGuards history := by
  rintro guard ⟨other, alive, -⟩
  exact ⟨other, alive⟩

theorem finite_guardsOf (history : List Change) (counter : Nat) :
    (guardsOf history counter).Finite :=
  (finite_allGuards history).subset (guardsOf_subset history counter)

/-- The lineage counts the guards of a counter. -/
theorem ncard_guardsOf (history : List Change) (counter : Nat) :
    (guardsOf history counter).ncard = (Lineage.after history).alive counter := by
  rw [guardsOf_eq, ncard_places, Lineage.alive]

theorem ncard_guardsOf_le (history : List Change) (counter : Nat) :
    (guardsOf history counter).ncard ≤ (allGuards history).ncard :=
  Set.ncard_le_ncard (guardsOf_subset history counter) (finite_allGuards history)

theorem inFlight_after (history : List Change) (counter : Nat) :
    (after history).inFlight counter = UInt64.ofNat (guardsOf history counter).ncard := by
  rw [ncard_guardsOf]
  exact (tracks_after history).inFlight_eq (sound_after history) counter

theorem toNat_inFlight_after (fits : (allGuards history).ncard < UInt64.size) (counter : Nat) :
    ((after history).inFlight counter).toNat = (guardsOf history counter).ncard := by
  rw [inFlight_after]
  exact UInt64.toNat_ofNat_of_lt' ((ncard_guardsOf_le history counter).trans_lt fits)

/-! ## Steps -/

theorem guardsOf_concat (known : Known history counter)
    (apart : ¬ Concerns history counter change) :
    guardsOf (history ++ [change]) counter = guardsOf history counter := by
  ext guard
  constructor
  · rintro ⟨other, alive, connected⟩
    rcases alive_concat_iff.mp alive with ⟨rfl, begun, rfl⟩ | ⟨before, -⟩
    · exact absurd ((connected_concat_iff known begun).mp connected) apart
    · exact ⟨other, before, (connected_concat_iff known before.known).mp connected⟩
  · rintro ⟨other, alive, connected⟩
    refine ⟨other, alive_concat_iff.mpr (.inr ⟨alive, ?_⟩), connected.concat change⟩
    rintro rfl
    exact apart ⟨other, alive, connected⟩

theorem guardsOf_start (known : Known history other) (connected : Connected history counter other) :
    guardsOf (history ++ [.start other]) counter =
      insert (after history).guards.length (guardsOf history counter) := by
  ext guard
  constructor
  · rintro ⟨origin, alive, linked⟩
    rcases alive_concat_iff.mp alive with ⟨-, -, rfl⟩ | ⟨before, -⟩
    · exact Set.mem_insert _ _
    · exact .inr ⟨origin, before,
        (connected_concat_iff (connected.known known) before.known).mp linked⟩
  · rintro (rfl | ⟨origin, alive, linked⟩)
    · exact ⟨other, alive_concat_iff.mpr (.inl ⟨rfl, known, rfl⟩), connected.concat _⟩
    · exact ⟨origin, alive_concat_iff.mpr (.inr ⟨alive, by simp⟩), linked.concat _⟩

theorem guardsOf_drop (known : Known history counter) (guard : Nat) :
    guardsOf (history ++ [.drop guard]) counter = guardsOf history counter \ {guard} := by
  ext guard
  constructor
  · rintro ⟨other, alive, connected⟩
    rcases alive_concat_iff.mp alive with ⟨start, -⟩ | ⟨before, kept⟩
    · cases start
    · refine ⟨⟨other, before, (connected_concat_iff known before.known).mp connected⟩, ?_⟩
      rintro rfl
      exact kept rfl
  · rintro ⟨⟨other, alive, connected⟩, kept⟩
    refine ⟨other, alive_concat_iff.mpr (.inr ⟨alive, ?_⟩), connected.concat _⟩
    intro same
    cases same
    exact kept rfl

/-- The guard of an upsert that starts is a new one. -/
theorem length_guards_notMem (history : List Change) (counter : Nat) :
    (after history).guards.length ∉ guardsOf history counter := by
  rintro ⟨other, alive, -⟩
  have bound := (List.getElem?_eq_some_iff.mp (alive_iff.mp alive)).1
  rw [length_guards] at bound
  exact lt_irrefl _ bound

theorem ncard_guardsOf_start (known : Known history other)
    (connected : Connected history counter other) :
    (guardsOf (history ++ [.start other]) counter).ncard =
      (guardsOf history counter).ncard + 1 := by
  rw [guardsOf_start known connected]
  exact Set.ncard_insert_of_notMem (length_guards_notMem history counter)
    (finite_guardsOf history counter)

theorem ncard_guardsOf_drop (alive : guard ∈ guardsOf history counter) :
    (guardsOf (history ++ [.drop guard]) counter).ncard + 1 =
      (guardsOf history counter).ncard := by
  have known : Known history counter := by
    obtain ⟨other, begun, connected⟩ := alive
    exact connected.known begun.known
  rw [guardsOf_drop known]
  exact Set.ncard_sdiff_singleton_add_one alive (finite_guardsOf history counter)

/-- Nothing happens when a guard is dropped that is not alive. -/
theorem after_drop_of_notMem (gone : guard ∉ allGuards history) :
    after (history ++ [.drop guard]) = after history := by
  rw [after_concat, apply, drop]
  split
  case h_1 place held =>
    refine absurd ?_ gone
    rw [(tracks_after history).guards, List.getElem?_map] at held
    obtain ⟨kept, found, points⟩ := Option.map_eq_some_iff.mp held
    cases kept with
    | none => cases points
    | some counter => exact ⟨counter, alive_iff.mpr found⟩
  case h_2 => rfl

/-- **Counting guards.** After every history each counter tells the number of guards alive that were
begun on it or on one connected with it by cloning. -/
theorem counts_live_guards (history : List Change) : Accurate history where
  finite := finite_allGuards history
  told := inFlight_after history
  exact := toNat_inFlight_after
  apart counter change known apart := by
    rw [inFlight_after, inFlight_after, guardsOf_concat known apart]
  rises counter other known connected fits := by
    have before : (guardsOf history counter).ncard < UInt64.size := by
      have bound := ncard_guardsOf_le (history ++ [.start other]) counter
      rw [ncard_guardsOf_start known connected] at bound
      omega
    rw [toNat_inFlight_after fits, inFlight_after, UInt64.toNat_ofNat_of_lt' before,
      ncard_guardsOf_start known connected]
  falls counter guard alive fits := by
    have fewer := ncard_guardsOf_drop alive
    have before := (ncard_guardsOf_le history counter).trans_lt fits
    rw [toNat_inFlight_after fits, inFlight_after, UInt64.toNat_ofNat_of_lt' (by omega), fewer]
  idle _ := after_drop_of_notMem

/-- A counter and its clone tell of the guard that is left, and a counter of its own does not. -/
example : let upserts := after [.create, .clone 0, .create, .start 0, .start 1, .drop 0, .drop 0]
    upserts.inFlight 0 = 1 ∧ upserts.inFlight 1 = 1 ∧ upserts.inFlight 2 = 0 := by
  decide

end Upserts

end PullSecretSync
