import Mathlib.Data.List.Count
import PullSecretSync.Sync.Upserts

/-!
# Guards that are alive

What is done with counters and guards says by itself which counters were cloned from which, and
which guards are alive. The counts know nothing of that: they are numbers in places that counters
and guards point to. Still, every counter tells how many guards are alive that were begun on it or
on one connected with it by cloning, up to the size of a machine word.
-/

namespace PullSecretSync

/-- What is done with counters and guards. -/
inductive Upserts.Change where
  | create
  | clone (counter : Nat)
  | start (counter : Nat)
  | drop (guard : Nat)
  deriving DecidableEq, Repr

/-- Where counters come from, and which guards are alive. Nothing is counted here. -/
structure Lineage where
  /-- The counter that every counter was cloned from in the first place. -/
  origins : List Nat := []
  /-- The counter that every guard was begun on; nothing once it is dropped. -/
  guards : List (Option Nat) := []
  deriving DecidableEq, Repr

namespace Lineage

/-- Take note of what is done. -/
def apply (lineage : Lineage) : Upserts.Change → Lineage
  | .create => { lineage with origins := lineage.origins ++ [lineage.origins.length] }
  | .clone counter =>
    match lineage.origins[counter]? with
    | some origin => { lineage with origins := lineage.origins ++ [origin] }
    | none => lineage
  | .start counter =>
    if counter < lineage.origins.length then
      { lineage with guards := lineage.guards ++ [some counter] }
    else lineage
  | .drop guard => { lineage with guards := lineage.guards.set guard none }

/-- Two counters are connected by cloning. -/
def kin (lineage : Lineage) (counter other : Nat) : Bool :=
  lineage.origins[counter]? = lineage.origins[other]?

/-- The number of guards alive that were begun on a counter, or on one that is connected with it by
cloning. -/
def alive (lineage : Lineage) (counter : Nat) : Nat :=
  lineage.guards.countP (·.any (lineage.kin counter))

/-- No counter has more guards alive than a machine word can tell. They all share the counter's
count, and a process that shares anything half as often is aborted. -/
def Fits (lineage : Lineage) : Prop := ∀ counter, lineage.alive counter < UInt64.size

theorem alive_le_length (lineage : Lineage) (counter : Nat) :
    lineage.alive counter ≤ lineage.guards.length :=
  List.countP_le_length

end Lineage

namespace Upserts

/-- Do something with counters and guards. -/
def apply (upserts : Upserts) : Change → Upserts
  | .create => upserts.create
  | .clone counter => upserts.clone counter
  | .start counter => upserts.start counter
  | .drop guard => upserts.drop guard

/-- The number of guards that point to a place. -/
def holders (upserts : Upserts) (place : Nat) : Nat := upserts.guards.count (some place)

/-- Every counter and every guard has a count, and the counts are those of the guards. -/
structure Sound (upserts : Upserts) : Prop where
  counters : ∀ place ∈ upserts.counters, place < upserts.counts.length
  guards : ∀ place, some place ∈ upserts.guards → place < upserts.counts.length
  counted : ∀ place < upserts.counts.length,
    upserts.counts[place]? = some (UInt64.ofNat (upserts.holders place))

/-- Counters and guards are those of a lineage: counters that are connected by cloning share a
place, no others do, and a guard points to the place of the counter that it was begun on. -/
structure Tracks (upserts : Upserts) (lineage : Lineage) : Prop where
  counters : upserts.counters.length = lineage.origins.length
  kin : ∀ counter other : Nat, upserts.counters[counter]? = upserts.counters[other]? ↔
    lineage.origins[counter]? = lineage.origins[other]?
  guards : upserts.guards = lineage.guards.map (·.bind (upserts.counters[·]?))
  origins : ∀ origin ∈ lineage.origins, origin < lineage.origins.length
  begun : ∀ counter, some counter ∈ lineage.guards → counter < lineage.origins.length

variable {upserts : Upserts} {lineage : Lineage}

/-! ## The counts -/

theorem holders_start {counter place : Nat} (known : upserts.counters[counter]? = some place)
    (other : Nat) : (upserts.start counter).holders other =
      upserts.holders other + if place = other then 1 else 0 := by
  rw [start, known, holders, holders, List.count_append, List.count_singleton]
  simp

@[simp] theorem counters_drop (upserts : Upserts) (guard : Nat) :
    (upserts.drop guard).counters = upserts.counters := by
  rw [drop]
  split <;> rfl

/-- A guard that is dropped points nowhere, also if it was dropped before. -/
@[simp] theorem guards_drop (upserts : Upserts) (guard : Nat) :
    (upserts.drop guard).guards = upserts.guards.set guard none := by
  cases held : upserts.guards[guard]? with
  | none =>
    have beyond : upserts.guards.length ≤ guard := List.getElem?_eq_none_iff.mp held
    rw [drop, held, List.set_eq_of_length_le beyond]
  | some kept =>
    cases kept with
    | none =>
      obtain ⟨bound, same⟩ := List.getElem?_eq_some_iff.mp held
      rw [drop, held]
      exact (same ▸ List.set_getElem_self bound).symm
    | some place => rw [drop, held]

@[simp] theorem length_counts_drop (upserts : Upserts) (guard : Nat) :
    (upserts.drop guard).counts.length = upserts.counts.length := by
  rw [drop]
  split
  · rw [List.length_modify]
  · rfl

theorem holders_drop {guard place : Nat} (held : upserts.guards[guard]? = some (some place))
    (other : Nat) : (upserts.drop guard).holders other =
      upserts.holders other - if place = other then 1 else 0 := by
  obtain ⟨bound, same⟩ := List.getElem?_eq_some_iff.mp held
  rw [holders, holders, guards_drop, List.count_set bound, same]
  simp

theorem holders_pos {guard place : Nat} (held : upserts.guards[guard]? = some (some place)) :
    0 < upserts.holders place :=
  List.count_pos_iff.mpr (List.mem_of_getElem? held)

namespace Sound

/-- Before anything is done there is nothing to count. -/
theorem empty : Sound {} where
  counters := List.forall_mem_nil _
  guards := by
    intro place held
    cases held
  counted := by
    intro place below
    simp at below

theorem create (sound : upserts.Sound) : upserts.create.Sound where
  counters := by
    intro place known
    rw [Upserts.create, List.length_append, List.length_singleton]
    rcases List.mem_append.mp known with before | fresh
    · have below := sound.counters place before
      omega
    · obtain rfl := List.mem_singleton.mp fresh
      omega
  guards := by
    intro place held
    have below := sound.guards place held
    rw [Upserts.create, List.length_append, List.length_singleton]
    omega
  counted := by
    intro place below
    rw [Upserts.create, List.length_append, List.length_singleton] at below
    by_cases before : place < upserts.counts.length
    · rw [Upserts.create, List.getElem?_append_left before]
      exact sound.counted place before
    · obtain rfl : place = upserts.counts.length := by omega
      have unheld : upserts.holders upserts.counts.length = 0 := by
        apply List.count_eq_zero.mpr
        intro held
        have below := sound.guards _ held
        omega
      have counted : (upserts.counts ++ [0])[upserts.counts.length]? = some 0 := by simp
      rw [Upserts.create, counted]
      exact congrArg some (congrArg UInt64.ofNat unheld.symm)

theorem clone (sound : upserts.Sound) (counter : Nat) : (upserts.clone counter).Sound := by
  cases known : upserts.counters[counter]? with
  | none =>
    rw [Upserts.clone, known]
    exact sound
  | some shared =>
    rw [Upserts.clone, known]
    refine ⟨?_, sound.guards, sound.counted⟩
    intro place member
    rcases List.mem_append.mp member with before | fresh
    · exact sound.counters place before
    · obtain rfl := List.mem_singleton.mp fresh
      exact sound.counters place (List.mem_of_getElem? known)

theorem start (sound : upserts.Sound) (counter : Nat) : (upserts.start counter).Sound := by
  cases known : upserts.counters[counter]? with
  | none =>
    rw [Upserts.start, known]
    exact sound
  | some shared =>
    have bound : shared < upserts.counts.length :=
      sound.counters shared (List.mem_of_getElem? known)
    have lengths : (upserts.start counter).counts.length = upserts.counts.length := by
      rw [Upserts.start, known, List.length_modify]
    refine ⟨?_, ?_, ?_⟩
    · rw [lengths, Upserts.start, known]
      exact sound.counters
    · intro place held
      rw [lengths]
      rw [Upserts.start, known] at held
      rcases List.mem_append.mp held with before | fresh
      · exact sound.guards place before
      · obtain rfl : place = shared := by simpa using fresh
        exact bound
    · intro place below
      rw [lengths] at below
      rw [holders_start known, Upserts.start, known, List.getElem?_modify,
        sound.counted place below]
      by_cases same : shared = place
      · simp [same, UInt64.ofNat_add]
      · simp [same]

theorem drop (sound : upserts.Sound) (guard : Nat) : (upserts.drop guard).Sound where
  counters := by
    rw [counters_drop, length_counts_drop]
    exact sound.counters
  guards := by
    intro place member
    rw [guards_drop] at member
    rw [length_counts_drop]
    have before : some place ∈ upserts.guards :=
      (List.mem_or_eq_of_mem_set member).resolve_right (by simp)
    exact sound.guards place before
  counted := by
    intro place below
    rw [length_counts_drop] at below
    have counted := sound.counted place below
    rcases held : upserts.guards[guard]? with _ | _ | shared
    · rw [Upserts.drop, held]
      exact counted
    · rw [Upserts.drop, held]
      exact counted
    · rw [holders_drop held, Upserts.drop, held, List.getElem?_modify, counted]
      by_cases same : shared = place
      · subst same
        have positive : 0 < upserts.holders shared := holders_pos held
        simp [UInt64.ofNat_sub positive]
      · simp [same]

/-- Whatever is done, the counts stay those of the guards. -/
theorem apply (sound : upserts.Sound) (change : Change) : (upserts.apply change).Sound := by
  cases change with
  | create => exact sound.create
  | clone counter => exact sound.clone counter
  | start counter => exact sound.start counter
  | drop guard => exact sound.drop guard

end Sound

/-! ## The lineage -/

/-- Two lists that repeat themselves in the same places still do so when each of them gets one more
entry, if the new entries are found in the same places before. -/
theorem repeats_append {xs ys : List Nat} {x y : Nat} (lengths : xs.length = ys.length)
    (same : ∀ i j : Nat, xs[i]? = xs[j]? ↔ ys[i]? = ys[j]?)
    (new : ∀ i : Nat, xs[i]? = some x ↔ ys[i]? = some y) (i j : Nat) :
    (xs ++ [x])[i]? = (xs ++ [x])[j]? ↔ (ys ++ [y])[i]? = (ys ++ [y])[j]? := by
  have entry (zs : List Nat) (z k : Nat) :
      (zs ++ [z])[k]? = if k = zs.length then some z else zs[k]? := by
    by_cases last : k = zs.length
    · simp [last]
    · rw [if_neg last, List.getElem?_append]
      split
      · rfl
      · have beyond : zs.length < k := by omega
        rw [List.getElem?_eq_none (by simp; omega), List.getElem?_eq_none (by omega)]
  rw [entry, entry, entry, entry, lengths]
  by_cases first : i = ys.length
  · by_cases second : j = ys.length
    · simp [first, second]
    · rw [if_pos first, if_neg second, if_pos first, if_neg second, eq_comm, new j]
      exact eq_comm
  · by_cases second : j = ys.length
    · rw [if_neg first, if_pos second, if_neg first, if_pos second, new i]
    · rw [if_neg first, if_neg second, if_neg first, if_neg second, same i j]

namespace Tracks

/-- Counters that are added leave the guards where they are. -/
theorem guards_append (tracks : upserts.Tracks lineage) (place : Nat) :
    upserts.guards = lineage.guards.map (·.bind ((upserts.counters ++ [place])[·]?)) := by
  rw [tracks.guards]
  apply List.map_congr_left
  intro guard member
  cases guard with
  | none => rfl
  | some counter =>
    have below := tracks.begun counter member
    have before : counter < upserts.counters.length := by rw [tracks.counters]; exact below
    exact (List.getElem?_append_left before).symm

theorem empty : Tracks {} {} where
  counters := rfl
  kin := by simp
  guards := rfl
  origins := List.forall_mem_nil _
  begun := by
    intro counter member
    cases member

/-- A fresh counter is connected with no other. -/
theorem create (sound : upserts.Sound) (tracks : upserts.Tracks lineage) :
    upserts.create.Tracks (lineage.apply .create) where
  counters := by simp [Upserts.create, Lineage.apply, tracks.counters]
  kin := by
    refine repeats_append tracks.counters tracks.kin fun counter => ?_
    have fresh : upserts.counters[counter]? ≠ some upserts.counts.length := by
      intro known
      have below := sound.counters _ (List.mem_of_getElem? known)
      omega
    have unknown : lineage.origins[counter]? ≠ some lineage.origins.length := by
      intro known
      have below := tracks.origins _ (List.mem_of_getElem? known)
      omega
    exact ⟨fun known => absurd known fresh, fun known => absurd known unknown⟩
  guards := tracks.guards_append _
  origins := by
    intro origin member
    rw [Lineage.apply, List.length_append, List.length_singleton]
    rcases List.mem_append.mp member with before | same
    · have below := tracks.origins origin before
      omega
    · obtain rfl := List.mem_singleton.mp same
      omega
  begun := by
    intro counter member
    have below := tracks.begun counter member
    rw [Lineage.apply, List.length_append]
    omega

/-- A clone is connected with those that its counter is connected with. -/
theorem clone (tracks : upserts.Tracks lineage) (counter : Nat) :
    (upserts.clone counter).Tracks (lineage.apply (.clone counter)) := by
  cases known : upserts.counters[counter]? with
  | none =>
    have beyond : lineage.origins[counter]? = none := by
      rw [List.getElem?_eq_none_iff] at known ⊢
      rw [← tracks.counters]
      exact known
    rw [Upserts.clone, known, Lineage.apply, beyond]
    exact tracks
  | some place =>
    have bound : counter < lineage.origins.length := by
      rw [← tracks.counters]
      exact (List.getElem?_eq_some_iff.mp known).1
    obtain ⟨origin, found⟩ : ∃ origin, lineage.origins[counter]? = some origin :=
      ⟨_, List.getElem?_eq_getElem bound⟩
    rw [Upserts.clone, known, Lineage.apply, found]
    constructor
    case counters => simp [tracks.counters]
    case kin =>
      refine repeats_append tracks.counters tracks.kin fun other => ?_
      rw [← known, ← found]
      exact tracks.kin other counter
    case guards => exact tracks.guards_append place
    case origins =>
      intro other member
      rw [List.length_append]
      rcases List.mem_append.mp member with before | same
      · have below := tracks.origins other before
        omega
      · obtain rfl := List.mem_singleton.mp same
        have below := tracks.origins other (List.mem_of_getElem? found)
        omega
    case begun =>
      intro other member
      have below := tracks.begun other member
      rw [List.length_append]
      omega

theorem start (tracks : upserts.Tracks lineage) (counter : Nat) :
    (upserts.start counter).Tracks (lineage.apply (.start counter)) := by
  rw [Lineage.apply]
  by_cases bound : counter < lineage.origins.length
  · obtain ⟨place, known⟩ : ∃ place, upserts.counters[counter]? = some place :=
      ⟨_, List.getElem?_eq_getElem (by rw [tracks.counters]; exact bound)⟩
    rw [if_pos bound, Upserts.start, known]
    refine ⟨tracks.counters, tracks.kin, ?_, tracks.origins, ?_⟩
    · rw [List.map_append, ← tracks.guards]
      simp [known]
    · intro other member
      rcases List.mem_append.mp member with before | same
      · exact tracks.begun other before
      · obtain rfl : other = counter := by simpa using same
        exact bound
  · have unknown : upserts.counters[counter]? = none := by
      rw [List.getElem?_eq_none_iff, tracks.counters]
      omega
    rw [if_neg bound, Upserts.start, unknown]
    exact tracks

theorem drop (tracks : upserts.Tracks lineage) (guard : Nat) :
    (upserts.drop guard).Tracks (lineage.apply (.drop guard)) := by
  constructor
  case counters =>
    rw [counters_drop]
    exact tracks.counters
  case kin =>
    rw [counters_drop]
    exact tracks.kin
  case guards =>
    rw [guards_drop, counters_drop, tracks.guards, Lineage.apply, List.map_set]
    rfl
  case origins => exact tracks.origins
  case begun =>
    intro counter member
    exact tracks.begun counter ((List.mem_or_eq_of_mem_set member).resolve_right (by simp))

/-- Whatever is done, counters and guards stay those of the lineage. -/
theorem apply (sound : upserts.Sound) (tracks : upserts.Tracks lineage) (change : Change) :
    (upserts.apply change).Tracks (lineage.apply change) := by
  cases change with
  | create => exact tracks.create sound
  | clone counter => exact tracks.clone counter
  | start counter => exact tracks.start counter
  | drop guard => exact tracks.drop guard

/-- The guards that point to the place of a counter are those that were begun on it, or on one that
is connected with it. -/
theorem holders_eq (tracks : upserts.Tracks lineage) {counter place : Nat}
    (known : upserts.counters[counter]? = some place) :
    upserts.holders place = lineage.alive counter := by
  rw [holders, tracks.guards, List.count, List.countP_map, Lineage.alive]
  apply List.countP_congr
  intro guard _
  cases guard with
  | none => simp
  | some other =>
    have linked : lineage.kin counter other = true ↔ some place = upserts.counters[other]? := by
      rw [Lineage.kin, decide_eq_true_iff, ← known]
      exact (tracks.kin counter other).symm
    rw [Option.any_some, linked, Function.comp_apply, Option.bind_some, beq_iff_eq]
    exact eq_comm

/-- A counter tells the number of guards alive that were begun on it, or on one that is connected
with it by cloning. -/
theorem inFlight_eq (sound : upserts.Sound) (tracks : upserts.Tracks lineage) (counter : Nat) :
    upserts.inFlight counter = UInt64.ofNat (lineage.alive counter) := by
  cases known : upserts.counters[counter]? with
  | none =>
    have unbegun : lineage.alive counter = 0 := by
      apply List.countP_eq_zero.mpr
      intro guard member
      cases guard with
      | none => simp
      | some other =>
        have below : other < lineage.origins.length := tracks.begun other member
        have unknown : lineage.origins[counter]? = none := by
          rw [List.getElem?_eq_none_iff, ← tracks.counters]
          exact List.getElem?_eq_none_iff.mp known
        simp [Lineage.kin, unknown, below]
    rw [inFlight, known, unbegun]
    rfl
  | some place =>
    have bound : place < upserts.counts.length :=
      sound.counters place (List.mem_of_getElem? known)
    rw [inFlight, known, Option.bind_some, sound.counted place bound, Option.getD_some,
      tracks.holders_eq known]

/-- A counter tells of a guard that is alive. -/
theorem inFlight_pos (sound : upserts.Sound) (tracks : upserts.Tracks lineage)
    (fits : lineage.Fits) {counter : Nat} (busy : 0 < lineage.alive counter) :
    0 < upserts.inFlight counter := by
  rw [tracks.inFlight_eq sound, UInt64.lt_iff_toNat_lt, UInt64.toNat_ofNat_of_lt' (fits counter)]
  exact busy

end Tracks

end Upserts

end PullSecretSync
