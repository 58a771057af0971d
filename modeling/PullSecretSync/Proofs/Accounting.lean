import Mathlib.Data.List.Sort
import Mathlib.Data.List.TakeWhile
import PullSecretSync.Proofs.Refreshing

/-!
# Accounting for events

A ledger is kept along a run. It numbers the events that come from the watch and follows each of
them: into the queue, through any number of attempts and delays, and to its completion or drop.
The main result says that the ledger of every run is balanced: its lines are the deliveries that
the manager holds, and every event that was watched has exactly one line. What an attempt asked and
was answered decides which line that is: an event is completed by being handled, put off where it
could not be read or handled or is to be handled again, and dropped where there is nothing to handle
it on or for.
-/

namespace PullSecretSync

open Sync

/-- The event that a moment brings from the watch. -/
def Moment.watched? : Moment → Option SecretEvent
  | .watched event => some event
  | _ => none

namespace Attempt

/-- The attempt brought up an event, read the configuration and handled the event on it. -/
def Handles (settings : Settings) (retries : UInt32) (attempt : Attempt) (event : SecretEvent)
    (handled : Handled) : Prop :=
  ∃ reads config effects, Brings attempt.delivery reads event ∧
    attempt.effects =
      reads ++ .readConfig settings.configName (.ok (some config)) :: effects ∧
    Leads (handle settings attempt.now attempt.inFlight config retries event) effects handled

/-- The attempt handled its event, and the outcome does not ask for another one. -/
def Completes (settings : Settings) (retries : UInt32) (attempt : Attempt) (outcome : Outcome) :
    Prop :=
  outcome.isRetry = false ∧ ∃ event handled,
    attempt.Handles settings retries event handled ∧ handled.result = .ok outcome

/-- Why an attempt puts an event off. -/
inductive Defers (settings : Settings) (retries : UInt32) (attempt : Attempt)
    (event : SecretEvent) : Prop
  /-- The secret of an event that was put off before, and is no deletion, cannot be read. -/
  | unrefreshed (error : ApiError) (redelivered : attempt.delivery = .redelivered event)
      (kept : event.deleted = false)
      (asked : attempt.effects = [.readSecret event.slot (.error error)])
  /-- The configuration cannot be read. -/
  | unread {reads : List Effect} (error : ApiError) (brings : Brings attempt.delivery reads event)
      (asked : attempt.effects = reads ++ [.readConfig settings.configName (.error error)])
  /-- The event is to be handled again. -/
  | postponed {handled : Handled} (reason : RetryReason)
      (handles : attempt.Handles settings retries event handled)
      (asks : handled.result = .ok (.retry reason))
  /-- The handling failed. -/
  | failed {handled : Handled} (error : SyncError)
      (handles : attempt.Handles settings retries event handled)
      (fails : handled.result = .error error)

/-- The attempt found no configuration; or no secret, where the event was put off before and is no
deletion. -/
def Vain (settings : Settings) (attempt : Attempt) : Prop :=
  (∃ reads event, Brings attempt.delivery reads event ∧
      attempt.effects = reads ++ [.readConfig settings.configName (.ok none)]) ∨
    ∃ event, attempt.delivery = .redelivered event ∧ event.deleted = false ∧
      attempt.effects = [.readSecret event.slot (.ok none)]

/-- What an attempt asked and was answered decides the fate of its event. -/
structure Decides (settings : Settings) (retries : UInt32) (attempt : Attempt) : Prop where
  completed_iff : ∀ outcome,
    attempt.fate = .completed outcome ↔ attempt.Completes settings retries outcome
  deferred_iff : ∀ event, attempt.fate = .deferred event ↔ attempt.Defers settings retries event
  dropped_iff : attempt.fate = .dropped ↔ attempt.Vain settings

end Attempt

/-- An attempt put an event off, and no release since then was late enough for it. -/
def PutOff (settings : Settings) (moments : List Moment) (attempt : Attempt)
    (event : SecretEvent) : Prop :=
  ∃ before after, moments = before ++ .attended attempt :: after ∧
    attempt.fate = .deferred event ∧
    ∀ time, .released time ∈ after → time < attempt.time + Manager.delay settings

/-- The line of a watched event. -/
structure Entry where
  /-- The place of the event among those that were watched. -/
  number : Nat
  /-- The event as it is by now. -/
  event : SecretEvent
  /-- The attempt that was made at it last. -/
  last : Option Attempt := none

namespace Entry

/-- How the event is delivered. -/
def delivery (entry : Entry) : Delivery :=
  match entry.last with
  | none => .watched entry.event
  | some _ => .redelivered entry.event

@[simp] theorem event_delivery (entry : Entry) : entry.delivery.event = entry.event := by
  rw [delivery]
  split <;> rfl

/-- When the event falls due if it was put off in the last attempt. -/
def due (settings : Settings) (entry : Entry) : Nat :=
  match entry.last with
  | none => 0
  | some attempt => attempt.time + Manager.delay settings

/-- The event is still a deletion or still none, and a deletion is the same as at first. -/
def Stems (watched : List SecretEvent) (entry : Entry) : Prop :=
  ∃ origin, watched[entry.number]? = some origin ∧ entry.event.deleted = origin.deleted ∧
    (origin.deleted = true → entry.event = origin)

/-- If the event was put off, the first release that was late enough has brought it back. -/
def Ripe (settings : Settings) (moments : List Moment) (entry : Entry) : Prop :=
  ∀ attempt, entry.last = some attempt → ∃ before time after,
    moments = before ++ .released time :: after ∧ PutOff settings before attempt entry.event ∧
    attempt.time + Manager.delay settings ≤ time

/-- The last attempt put the event off, and its time has not come. -/
def Waits (settings : Settings) (moments : List Moment) (entry : Entry) : Prop :=
  ∃ attempt, entry.last = some attempt ∧ PutOff settings moments attempt entry.event

/-- The last attempt was one at the event, and handled it for good. -/
def Completed (settings : Settings) (moments : List Moment) (entry : Entry) : Prop :=
  ∃ attempt outcome retries, entry.last = some attempt ∧ .attended attempt ∈ moments ∧
    attempt.delivery.event = entry.event ∧ attempt.fate = .completed outcome ∧
    attempt.Completes settings retries outcome

/-- The last attempt was one at the event, and in vain. -/
def Dropped (settings : Settings) (moments : List Moment) (entry : Entry) : Prop :=
  ∃ attempt, entry.last = some attempt ∧ .attended attempt ∈ moments ∧
    attempt.delivery.event = entry.event ∧ attempt.fate = .dropped ∧ attempt.Vain settings

end Entry

/-- Where the watched events are. -/
structure Ledger where
  watched : List SecretEvent := []
  queue : List Entry := []
  delayed : List Entry := []
  completed : List Entry := []
  dropped : List Entry := []

namespace Ledger

/-- All lines. -/
def entries (ledger : Ledger) : List Entry :=
  ledger.queue ++ ledger.delayed ++ ledger.completed ++ ledger.dropped

/-- Put a line among those of other events that are put off. -/
abbrev insert (settings : Settings) (entry : Entry) (delayed : List Entry) : List Entry :=
  delayed.orderedInsert (fun first second => first.due settings < second.due settings) entry

/-- Enter where an attempt leaves the event of a line. -/
def settle (settings : Settings) (ledger : Ledger) (entry : Entry) (attempt : Attempt) : Ledger :=
  match attempt.fate with
  | .deferred event =>
    { ledger with
      delayed := insert settings { entry with event, last := some attempt } ledger.delayed }
  | .completed _ =>
    { ledger with completed := ledger.completed ++ [{ entry with last := some attempt }] }
  | .dropped => { ledger with dropped := ledger.dropped ++ [{ entry with last := some attempt }] }

/-- Enter what happened. -/
def enter (settings : Settings) (ledger : Ledger) : Moment → Ledger
  | .watched event =>
    { ledger with
      watched := ledger.watched ++ [event]
      queue := ledger.queue ++ [⟨ledger.watched.length, event, none⟩] }
  | .released time =>
    { ledger with
      queue := ledger.queue ++ ledger.delayed.takeWhile (·.due settings ≤ time)
      delayed := ledger.delayed.dropWhile (·.due settings ≤ time) }
  | .attended attempt =>
    match ledger.queue with
    | [] => ledger
    | entry :: queue => settle settings { ledger with queue } entry attempt

/-- The ledger of some moments. -/
def ofMoments (settings : Settings) (moments : List Moment) : Ledger :=
  moments.foldl (enter settings) {}

/-- The ledger tells of some moments, and of the manager that they have led to. -/
structure Balanced (settings : Settings) (moments : List Moment) (manager : Manager)
    (ledger : Ledger) : Prop where
  queue : ledger.queue.map Entry.delivery = manager.queue
  delayed : ledger.delayed.map (fun entry => (entry.due settings, entry.event)) = manager.delayed
  watched : ledger.watched = moments.filterMap Moment.watched?
  /-- Every event that was watched has exactly one line. -/
  once : (ledger.entries.map Entry.number).Perm (List.range ledger.watched.length)
  stems : ∀ entry ∈ ledger.entries, entry.Stems ledger.watched
  ordered : ledger.delayed.Pairwise fun first second => first.due settings ≤ second.due settings
  ripe : ∀ entry ∈ ledger.queue, entry.Ripe settings moments
  waiting : ∀ entry ∈ ledger.delayed, entry.Waits settings moments
  completed : ∀ entry ∈ ledger.completed, entry.Completed settings moments
  dropped : ∀ entry ∈ ledger.dropped, entry.Dropped settings moments

end Ledger

/-! ## What an attempt makes of an event -/

namespace Attempt

variable {settings : Settings} {attempt : Attempt} {retries retries' : UInt32}
  {event : SecretEvent}
  (attending : Leads (attend settings attempt.now attempt.inFlight retries attempt.delivery)
    attempt.effects (attempt.fate, retries'))

include attending

/-- The fate of an event that was handled follows from the outcome. -/
theorem Handles.fate_eq {handled : Handled}
    (handles : attempt.Handles settings retries event handled) :
    attempt.fate = Sync.fate event handled.result := by
  obtain ⟨reads, config, effects, brings, asked, course⟩ := handles
  have handling : Attending settings attempt.now attempt.inFlight retries attempt.delivery
      attempt.effects (Sync.fate event handled.result, handled.retries) := by
    rw [asked]
    exact .brought brings (.handled (leads_handle_iff.mp course))
  exact congrArg Prod.fst (attending.result_eq (leads_attend_iff.mpr handling))

/-- What is delivered is put off, completed or dropped, each on its own grounds. -/
theorem fate_cases :
    (∃ event, attempt.fate = .deferred event ∧ attempt.Defers settings retries event) ∨
      (∃ outcome, attempt.fate = .completed outcome ∧
        attempt.Completes settings retries outcome) ∨
      (attempt.fate = .dropped ∧ attempt.Vain settings) := by
  obtain ⟨delivery, now, time, inFlight, effects, fate⟩ := attempt
  cases leads_attend_iff.mp attending with
  | vanished kept => exact .inr (.inr ⟨rfl, .inr ⟨_, rfl, kept, rfl⟩⟩)
  | unread kept error => exact .inl ⟨_, rfl, .unrefreshed error rfl kept rfl⟩
  | brought brings delivering =>
    cases delivering with
    | homeless => exact .inr (.inr ⟨rfl, .inl ⟨_, _, brings, rfl⟩⟩)
    | unread error => exact .inl ⟨_, rfl, .unread error brings rfl⟩
    | @handled config effects handled handling =>
      have handles : Handles settings retries ⟨delivery, now, time, inFlight, _, _⟩ _ handled :=
        ⟨_, config, effects, brings, rfl, leads_handle_iff.mpr handling⟩
      cases told : handled.result with
      | error error => exact .inl ⟨_, rfl, .failed error handles told⟩
      | ok outcome =>
        cases outcome with
        | retry reason => exact .inl ⟨_, rfl, .postponed reason handles told⟩
        | _ => exact .inr (.inl ⟨_, rfl, rfl, _, handled, handles, told⟩)

theorem Completes.fate_eq {outcome : Outcome}
    (completes : attempt.Completes settings retries outcome) :
    attempt.fate = .completed outcome := by
  obtain ⟨settled, event, handled, handles, told⟩ := completes
  rw [handles.fate_eq attending, told, fate_eq_completed settled]

theorem Defers.fate_eq (defers : attempt.Defers settings retries event) :
    attempt.fate = .deferred event := by
  cases defers with
  | unrefreshed error redelivered kept asked =>
    rw [asked, redelivered] at attending
    exact congrArg Prod.fst (attending.result_eq (leads_attend_iff.mpr (.unread kept error)))
  | unread error brings asked =>
    rw [asked] at attending
    exact congrArg Prod.fst
      (attending.result_eq (leads_attend_iff.mpr (.brought brings (.unread error))))
  | postponed reason handles asks => rw [handles.fate_eq attending, asks, Sync.fate]
  | failed error handles fails => rw [handles.fate_eq attending, fails, Sync.fate]

theorem Vain.fate_eq (vain : attempt.Vain settings) : attempt.fate = .dropped := by
  rcases vain with ⟨reads, event, brings, asked⟩ | ⟨event, redelivered, kept, asked⟩
  · rw [asked] at attending
    exact congrArg Prod.fst
      (attending.result_eq (leads_attend_iff.mpr (.brought brings .homeless)))
  · rw [asked, redelivered] at attending
    exact congrArg Prod.fst (attending.result_eq (leads_attend_iff.mpr (.vanished kept)))

/-- The grounds of the three fates exclude each other. -/
theorem decides : attempt.Decides settings retries := by
  refine ⟨fun outcome => ⟨fun told => ?_, fun grounds => grounds.fate_eq attending⟩,
    fun event => ⟨fun told => ?_, fun grounds => grounds.fate_eq attending⟩,
    fun told => ?_, fun grounds => grounds.fate_eq attending⟩
  · rcases fate_cases attending with ⟨_, fate, -⟩ | ⟨_, fate, completes⟩ | ⟨fate, -⟩
    · cases fate.symm.trans told
    · cases fate.symm.trans told
      exact completes
    · cases fate.symm.trans told
  · rcases fate_cases attending with ⟨_, fate, defers⟩ | ⟨_, fate, -⟩ | ⟨fate, -⟩
    · cases fate.symm.trans told
      exact defers
    · cases fate.symm.trans told
    · cases fate.symm.trans told
  · rcases fate_cases attending with ⟨_, fate, -⟩ | ⟨_, fate, -⟩ | ⟨fate, vain⟩
    · cases fate.symm.trans told
    · cases fate.symm.trans told
    · exact vain

end Attempt

/-! ## What lasts -/

section Lasting

variable {settings : Settings} {moments : List Moment} {moment : Moment} {attempt : Attempt}
  {event : SecretEvent} {entry : Entry}

/-- An event still waits for its time after a moment that is no late release. -/
theorem PutOff.concat (put : PutOff settings moments attempt event)
    (early : ∀ time, moment = .released time → time < attempt.time + Manager.delay settings) :
    PutOff settings (moments ++ [moment]) attempt event := by
  obtain ⟨before, after, rfl, fate, since⟩ := put
  refine ⟨before, after ++ [moment], by simp, fate, ?_⟩
  intro time released
  rcases List.mem_append.mp released with sooner | last
  · exact since time sooner
  · exact early time (List.mem_singleton.mp last).symm

theorem Entry.Waits.concat (waits : entry.Waits settings moments)
    (early : ∀ time, moment = .released time → time < entry.due settings) :
    entry.Waits settings (moments ++ [moment]) := by
  obtain ⟨attempt, last, put⟩ := waits
  simp only [due, last] at early
  exact ⟨attempt, last, put.concat early⟩

theorem Entry.Ripe.concat (ripe : entry.Ripe settings moments) (moment : Moment) :
    entry.Ripe settings (moments ++ [moment]) := by
  intro attempt last
  obtain ⟨before, time, after, rfl, put, late⟩ := ripe attempt last
  exact ⟨before, time, after ++ [moment], by simp, put, late⟩

theorem Entry.Completed.concat (completed : entry.Completed settings moments) (moment : Moment) :
    entry.Completed settings (moments ++ [moment]) := by
  obtain ⟨attempt, outcome, retries, last, made, done⟩ := completed
  exact ⟨attempt, outcome, retries, last, List.mem_append_left _ made, done⟩

theorem Entry.Dropped.concat (dropped : entry.Dropped settings moments) (moment : Moment) :
    entry.Dropped settings (moments ++ [moment]) := by
  obtain ⟨attempt, last, made, lost⟩ := dropped
  exact ⟨attempt, last, List.mem_append_left _ made, lost⟩

/-- An event goes on stemming from the same one when others are watched. -/
theorem Entry.Stems.append {watched : List SecretEvent} (stems : entry.Stems watched)
    (more : List SecretEvent) : entry.Stems (watched ++ more) := by
  obtain ⟨origin, found, same⟩ := stems
  have place := (List.getElem?_eq_some_iff.mp found).1
  exact ⟨origin, by rw [List.getElem?_append_left place, found], same⟩

end Lasting

namespace Ledger

variable {settings : Settings} {moments : List Moment} {manager next last : Manager}
  {ledger : Ledger} {attempt : Attempt} {entry : Entry} {queue : List Delivery}

/-! ## The order of the events that are put off -/

/-- What is left behind a release in an ordered list is too early for it. -/
theorem lt_due_of_mem_dropWhile {delayed : List Entry} {time : Nat}
    (ordered : delayed.Pairwise fun first second => first.due settings ≤ second.due settings)
    (left : entry ∈ delayed.dropWhile (·.due settings ≤ time)) : time < entry.due settings := by
  induction delayed with
  | nil => cases left
  | cons head rest ih =>
    obtain ⟨first, ordered⟩ := List.pairwise_cons.mp ordered
    by_cases due : head.due settings ≤ time
    · rw [List.dropWhile_cons_of_pos (by simpa using due)] at left
      exact ih ordered left
    · rw [List.dropWhile_cons_of_neg (by simpa using due)] at left
      rcases List.mem_cons.mp left with rfl | later
      · exact Nat.lt_of_not_le due
      · exact (Nat.lt_of_not_le due).trans_le (first entry later)

/-- A line goes to its place in an ordered list. -/
theorem ordered_insert {delayed : List Entry}
    (ordered : delayed.Pairwise fun first second => first.due settings ≤ second.due settings)
    (entry : Entry) : (insert settings entry delayed).Pairwise
      fun first second => first.due settings ≤ second.due settings := by
  induction delayed with
  | nil => simp
  | cons head rest ih =>
    obtain ⟨first, behind⟩ := List.pairwise_cons.mp ordered
    rw [insert, List.orderedInsert_cons]
    split
    · rename_i sooner
      refine List.pairwise_cons.mpr ⟨fun other member => ?_, ordered⟩
      rcases List.mem_cons.mp member with rfl | later
      · exact sooner.le
      · exact sooner.le.trans (first other later)
    · rename_i later
      refine List.pairwise_cons.mpr ⟨fun other member => ?_, ih behind⟩
      rcases (List.mem_orderedInsert _).mp member with rfl | old
      · exact Nat.le_of_not_lt later
      · exact first other old

/-- A line is put where the manager puts its event. -/
theorem map_insert (delayed : List Entry) (entry : Entry) :
    (insert settings entry delayed).map (fun line => (line.due settings, line.event)) =
      Manager.insertDelayed (entry.due settings) entry.event
        (delayed.map fun line => (line.due settings, line.event)) := by
  induction delayed with
  | nil => rfl
  | cons head rest ih =>
    rw [insert, List.orderedInsert_cons, List.map_cons, Manager.insertDelayed]
    split
    · rfl
    · rw [List.map_cons, ih]

/-! ## The lines after a moment -/

@[simp] theorem queue_settle : (ledger.settle settings entry attempt).queue = ledger.queue := by
  rw [settle]
  split <;> rfl

@[simp] theorem watched_settle :
    (ledger.settle settings entry attempt).watched = ledger.watched := by
  rw [settle]
  split <;> rfl

/-- After an attempt there is one line more, and it has the number of its event. -/
theorem entries_settle (ledger : Ledger) (entry : Entry) (attempt : Attempt) :
    ∃ moved : Entry, moved.number = entry.number ∧
      (ledger.settle settings entry attempt).entries.Perm (moved :: ledger.entries) ∧
      moved.event = match attempt.fate with
        | .deferred event => event
        | _ => entry.event := by
  rw [settle]
  cases attempt.fate with
  | deferred event =>
    refine ⟨{ entry with event, last := some attempt }, rfl, ?_, rfl⟩
    have put := List.perm_orderedInsert
      (fun first second : Entry => first.due settings < second.due settings)
      { entry with event, last := some attempt } ledger.delayed
    simp only [entries, List.append_assoc]
    exact ((put.append_right _).append_left _).trans List.perm_middle
  | completed =>
    refine ⟨{ entry with last := some attempt }, rfl, ?_, rfl⟩
    have done : (ledger.queue ++ ledger.delayed ++ ledger.completed ++
        { entry with last := some attempt } :: ledger.dropped).Perm _ := List.perm_middle
    simpa only [entries, List.append_assoc, List.singleton_append] using done
  | dropped =>
    refine ⟨{ entry with last := some attempt }, rfl, ?_, rfl⟩
    simpa only [entries, List.append_assoc] using List.perm_append_singleton
      { entry with last := some attempt } ledger.entries

/-- The line of the first delivery may be moved to where an attempt leaves its event. -/
theorem Balanced.lines_settle {lines : List Entry}
    (balanced : Balanced settings moments manager ledger) (first : ledger.queue = entry :: lines)
    (delivery : entry.delivery = attempt.delivery)
    (attending : Leads (attend settings attempt.now attempt.inFlight manager.retries
      attempt.delivery) attempt.effects (attempt.fate, next.retries)) :
    (((settle settings { ledger with queue := lines } entry attempt).entries.map
        Entry.number).Perm (List.range ledger.watched.length)) ∧
      ∀ other ∈ (settle settings { ledger with queue := lines } entry attempt).entries,
        other.Stems ledger.watched := by
  have whole : ledger.entries = entry :: ({ ledger with queue := lines } : Ledger).entries := by
    simp [entries, first]
  obtain ⟨moved, number, perm, event⟩ :=
    @entries_settle settings { ledger with queue := lines } entry attempt
  constructor
  · refine (perm.map Entry.number).trans ?_
    rw [List.map_cons, number, ← List.map_cons, ← whole]
    exact balanced.once
  · intro other member
    rcases List.mem_cons.mp (perm.mem_iff.mp member) with rfl | old
    · obtain ⟨origin, found, same, kept⟩ := balanced.stems entry (by simp [whole])
      rw [← number] at found
      refine ⟨origin, found, ?_⟩
      rw [event]
      cases fate : attempt.fate with
      | deferred put =>
        obtain ⟨flag, snapshot⟩ := (leads_attend_iff.mp attending).of_deferred fate
        rw [← delivery, Entry.event_delivery] at flag snapshot
        exact ⟨flag.trans same, fun deleted => (snapshot (same.trans deleted)).trans (kept deleted)⟩
      | _ => exact ⟨same, kept⟩
    · exact balanced.stems other (by simp [whole, old])

/-- An event from the watch gets a line of its own. -/
theorem Balanced.watched_concat (balanced : Balanced settings moments manager ledger)
    (event : SecretEvent) : Balanced settings (moments ++ [.watched event]) (manager.watch event)
      (ledger.enter settings (.watched event)) := by
  have lines : (ledger.enter settings (.watched event)).entries.Perm
      (⟨ledger.watched.length, event, none⟩ :: ledger.entries) := by
    simp only [enter, entries, List.append_assoc, List.cons_append, List.nil_append]
    exact List.perm_middle
  refine ⟨?_, balanced.delayed, ?_, ?_, ?_, balanced.ordered, ?_, ?_,
    fun entry member => (balanced.completed entry member).concat _,
    fun entry member => (balanced.dropped entry member).concat _⟩
  · simp [enter, Manager.watch, balanced.queue, Entry.delivery]
  · simp [enter, balanced.watched, Moment.watched?]
  · refine (lines.map Entry.number).trans ?_
    rw [enter, List.length_append, List.length_singleton, List.range_succ, List.map_cons]
    exact (balanced.once.cons _).trans (List.perm_append_singleton _ _).symm
  · intro entry member
    rcases List.mem_cons.mp (lines.mem_iff.mp member) with rfl | old
    · exact ⟨event, by simp [enter], rfl, fun _ => rfl⟩
    · exact (balanced.stems entry old).append [event]
  · intro entry member
    rcases List.mem_append.mp member with old | new
    · exact (balanced.ripe entry old).concat _
    · rw [List.mem_singleton.mp new]
      rintro _ ⟨⟩
  · exact fun entry member => (balanced.waiting entry member).concat (by simp)

/-- A release moves the lines of the events that have fallen due. -/
theorem Balanced.released_concat (balanced : Balanced settings moments manager ledger)
    (time : Nat) : Balanced settings (moments ++ [.released time]) (manager.release time)
      (ledger.enter settings (.released time)) := by
  let due (entry : Entry) : Bool := entry.due settings ≤ time
  have whole : ledger.delayed.takeWhile due ++ ledger.delayed.dropWhile due = ledger.delayed :=
    List.takeWhile_append_dropWhile
  have lines : (ledger.enter settings (.released time)).entries = ledger.entries := by
    simp only [enter, entries, List.append_assoc]
    rw [← List.append_assoc (List.takeWhile _ _), whole]
  have ripening : ∀ entry ∈ ledger.delayed.takeWhile due, entry.Waits settings moments := by
    intro entry member
    refine balanced.waiting entry ?_
    rw [← whole]
    exact List.mem_append_left _ member
  have staying : ∀ entry ∈ ledger.delayed.dropWhile due, entry.Waits settings moments := by
    intro entry member
    refine balanced.waiting entry ?_
    rw [← whole]
    exact List.mem_append_right _ member
  refine ⟨?_, ?_, ?_, ?_, ?_, balanced.ordered.sublist (List.dropWhile_sublist _), ?_, ?_,
    fun entry member => (balanced.completed entry member).concat _,
    fun entry member => (balanced.dropped entry member).concat _⟩
  · rw [enter, Manager.release, ← balanced.delayed, ← balanced.queue, List.map_append,
      List.takeWhile_map, List.map_map]
    congr 1
    refine List.map_congr_left fun entry member => ?_
    obtain ⟨attempt, last, -⟩ := ripening entry member
    simp [Entry.delivery, last]
  · rw [enter, Manager.release, ← balanced.delayed, List.dropWhile_map]
    rfl
  · simp [enter, balanced.watched, Moment.watched?]
  · rw [lines]
    exact balanced.once
  · rw [lines]
    exact balanced.stems
  · intro entry member
    rcases List.mem_append.mp member with old | new
    · exact (balanced.ripe entry old).concat _
    · intro attempt last
      obtain ⟨other, same, put⟩ := ripening entry new
      obtain rfl := Option.some.inj (same.symm.trans last)
      have late := List.mem_takeWhile_imp new
      rw [decide_eq_true_eq, Entry.due, same] at late
      exact ⟨moments, time, [], rfl, put, late⟩
  · intro entry member
    refine (staying entry member).concat ?_
    rintro _ ⟨⟩
    exact lt_due_of_mem_dropWhile balanced.ordered member

/-- An attempt moves the line of its event to those of its fate, and the others stay. -/
theorem Balanced.attended_concat (balanced : Balanced settings moments manager ledger)
    (queued : manager.queue = attempt.delivery :: queue)
    (attending : Leads (attend settings attempt.now attempt.inFlight manager.retries
      attempt.delivery) attempt.effects (attempt.fate, next.retries))
    (stepping : Leads (manager.step settings attempt.now attempt.time attempt.inFlight)
      attempt.effects next) :
    Balanced settings (moments ++ [.attended attempt]) next
      (ledger.enter settings (.attended attempt)) := by
  obtain ⟨entry, lines, first, delivery, rest⟩ :
      ∃ entry lines, ledger.queue = entry :: lines ∧ entry.delivery = attempt.delivery ∧
        lines.map Entry.delivery = queue :=
    List.map_eq_cons_iff.mp (balanced.queue.trans queued)
  obtain ⟨once, stems⟩ := balanced.lines_settle first delivery attending
  have watched : ledger.watched =
      (moments ++ [Moment.attended attempt]).filterMap Moment.watched? := by
    simp [balanced.watched, Moment.watched?]
  have ripe : ∀ other ∈ lines, other.Ripe settings (moments ++ [.attended attempt]) :=
    fun other member => (balanced.ripe other (by simp [first, member])).concat _
  have waiting : ∀ other ∈ ledger.delayed,
      other.Waits settings (moments ++ [.attended attempt]) :=
    fun other member => (balanced.waiting other member).concat (by simp)
  have completed : ∀ other ∈ ledger.completed,
      other.Completed settings (moments ++ [.attended attempt]) :=
    fun other member => (balanced.completed other member).concat _
  have dropped : ∀ other ∈ ledger.dropped,
      other.Dropped settings (moments ++ [.attended attempt]) :=
    fun other member => (balanced.dropped other member).concat _
  have made : Moment.attended attempt ∈ moments ++ [Moment.attended attempt] := by simp
  have own : attempt.delivery.event = entry.event := by rw [← delivery, Entry.event_delivery]
  rw [Manager.eq_conclude queued attending stepping, enter, first]
  rcases Attempt.fate_cases attending with ⟨put, fate, -⟩ | ⟨outcome, fate, done⟩ | ⟨fate, vain⟩
  · simp only [settle, fate] at once stems ⊢
    refine ⟨rest, ?_, watched, once, stems, ordered_insert balanced.ordered _, ripe, ?_,
      completed, dropped⟩
    · rw [map_insert, balanced.delayed]
      rfl
    · intro other member
      rcases (List.mem_orderedInsert _).mp member with rfl | old
      · exact ⟨attempt, rfl, moments, [], rfl, fate, by simp⟩
      · exact waiting other old
  · simp only [settle, fate] at once stems ⊢
    refine ⟨rest, balanced.delayed, watched, once, stems, balanced.ordered, ripe, waiting, ?_,
      dropped⟩
    intro other member
    rcases List.mem_append.mp member with old | new
    · exact completed other old
    · rw [List.mem_singleton.mp new]
      exact ⟨attempt, outcome, _, rfl, made, own, fate, done⟩
  · simp only [settle, fate] at once stems ⊢
    refine ⟨rest, balanced.delayed, watched, once, stems, balanced.ordered, ripe, waiting,
      completed, ?_⟩
    intro other member
    rcases List.mem_append.mp member with old | new
    · exact dropped other old
    · rw [List.mem_singleton.mp new]
      exact ⟨attempt, rfl, made, own, fate, vain⟩

/-- A balanced ledger is kept so by a run. -/
theorem Balanced.run {past : List Moment} (balanced : Balanced settings past manager ledger)
    (run : Manager.Runs settings manager moments last) :
    Balanced settings (past ++ moments) last (moments.foldl (enter settings) ledger) := by
  induction run generalizing past ledger with
  | nil => simpa using balanced
  | watched _ ih => simpa using ih (balanced.watched_concat _)
  | released _ ih => simpa using ih (balanced.released_concat _)
  | attended queued attending stepping _ ih =>
    simpa using ih (balanced.attended_concat queued attending stepping)

/-- The first ledger is balanced. -/
theorem balanced_nil : Balanced settings [] {} {} := by
  refine ⟨rfl, rfl, rfl, .refl _, ?_, .nil, ?_, ?_, ?_, ?_⟩ <;>
    · rintro _ ⟨⟩

end Ledger

variable {settings : Settings} {moments : List Moment} {manager : Manager}

/-- **Every event that was watched is in exactly one place.** The ledger of every run is balanced.
What an attempt asked and was answered decides the fate of its event, and at most one event is put
off, by the delay. A drop needs a refusal that gives as its reason that there is no such object. -/
theorem Manager.Runs.balanced (run : Manager.Runs settings {} moments manager) :
    (Ledger.ofMoments settings moments).Balanced settings moments manager ∧
      (∀ before attempt after, moments = before ++ .attended attempt :: after →
        ∃ here next, Manager.Runs settings {} before here ∧
          Manager.Runs settings next after manager ∧
          attempt.Decides settings here.retries ∧
          (next.delayed = here.delayed ∨ ∃ event, attempt.fate = .deferred event ∧
            next.delayed.Perm
              ((attempt.time + Manager.delay settings, event) :: here.delayed))) ∧
      Http.ReadsByReason := by
  refine ⟨Ledger.balanced_nil.run run, ?_, Http.readsByReason⟩
  rintro before attempt after rfl
  obtain ⟨here, next, queue, prior, queued, attending, stepping, later⟩ := run.at_attempt
  have left := Manager.eq_conclude queued attending stepping
  refine ⟨here, next, prior, later, Attempt.decides attending, ?_⟩
  cases fate : attempt.fate with
  | deferred event =>
    rw [left, fate]
    exact .inr ⟨event, rfl, Manager.delayed_conclude_perm ..⟩
  | completed outcome =>
    rw [left, fate]
    exact .inl rfl
  | dropped =>
    rw [left, fate]
    exact .inl rfl

/-- The pull secret is seen while an upsert is in flight. The event is put off and brought back five
seconds later; the secret is gone by then, and the event is dropped. -/
theorem Ledger.balanced_of_vanished_secret :
    let settings : Settings := ⟨"4.1.0", "cluster", 3, 5⟩
    let source : Secret := { metadata := { name := some "coreos-pull-secret",
                                           space := some "kube-system" } }
    let busy : Attempt := {
      delivery := .watched (.applied source)
      now := ⟨0, 0⟩
      time := 1000
      inFlight := 1
      effects := [.readConfig "cluster" (.ok (some (Config.new "cluster" {})))]
      fate := .deferred (.applied source) }
    let vain : Attempt := {
      delivery := .redelivered (.applied source)
      now := ⟨5, 0⟩
      time := 6000
      inFlight := 0
      effects := [.readSecret ⟨"kube-system", "coreos-pull-secret"⟩ (.ok none)]
      fate := .dropped }
    let moments : List Moment :=
      [.watched (.applied source), .attended busy, .released 6000, .attended vain]
    (Ledger.ofMoments settings moments).Balanced settings moments {} ∧
      (Ledger.ofMoments settings moments).dropped = [⟨0, .applied source, some vain⟩] := by
  intro settings source busy vain moments
  have handling : Handling settings ⟨0, 0⟩ 1 (Config.new "cluster" {}) 0 (.applied source) _ _ :=
    .busy (by decide)
  let waiting : Manager := { delayed := [(6000, .applied source)] }
  have attending : Leads (attend settings busy.now busy.inFlight
      (Manager.watch {} (.applied source)).retries busy.delivery) busy.effects
      (busy.fate, waiting.retries) :=
    leads_attend_iff.mpr (.brought (.watched _) (.handled handling))
  have again : Leads (attend settings vain.now vain.inFlight (waiting.release 6000).retries
      vain.delivery) vain.effects (vain.fate, ({} : Manager).retries) :=
    leads_attend_iff.mpr (.vanished rfl)
  have stepping : Leads ((Manager.watch {} (.applied source)).step settings busy.now busy.time
      busy.inFlight) busy.effects waiting :=
    (Manager.leads_step_iff rfl).mpr ⟨_, leads_attend_iff.mp attending, rfl⟩
  have ending : Leads ((waiting.release 6000).step settings vain.now vain.time vain.inFlight)
      vain.effects {} :=
    (Manager.leads_step_iff rfl).mpr ⟨_, leads_attend_iff.mp again, rfl⟩
  have run : Manager.Runs settings {} moments {} :=
    .watched (.attended rfl attending stepping
      (.released (.attended rfl again ending (.nil _))))
  exact ⟨run.balanced.1, by simp [moments, busy, vain, Ledger.ofMoments, Ledger.enter,
    Ledger.settle, Entry.due, Manager.delay, settings]⟩

/-- A server that refuses to show the secret with code 403, and gives as its reason that there is no
such object: the event, which was put off for an upsert, is dropped. -/
theorem Manager.dropped_after_403 :
    let settings : Settings := ⟨"4.1.0", "cluster", 1, 5⟩
    let pull : Secret := { metadata := { name := some "coreos-pull-secret",
                                         space := some "kube-system" } }
    let answer (call : HttpCall) (sent : List String) : call.Answer × List String :=
      match call with
      | .send request =>
        (if request.address.path = "/apis/samples.operator.openshift.io/v1/configs/cluster" then
          .answered 200 "\x7b\"metadata\": \x7b\"name\": \"cluster\"\x7d, \"spec\": \x7b\x7d\x7d"
        else
          .answered 403 "\x7b\"status\": \"Failure\", \"reason\": \"NotFound\", \"code\": 403\x7d",
          sent ++ [request.method.text ++ " " ++ request.address.path])
      | .note _ => ((), sent)
    let (busy, _, first) :=
      (Http.ofSync ((Manager.watch {} (.applied pull)).step settings ⟨1, 0⟩ 1000 1)).run answer []
    let (last, _, sent) :=
      (Http.ofSync ((busy.release 6000).step settings ⟨6, 0⟩ 6000 0)).run answer first
    busy.delayed.length = 1 ∧
      sent = ["GET /apis/samples.operator.openshift.io/v1/configs/cluster",
        "GET /api/v1/namespaces/kube-system/secrets/coreos-pull-secret"] ∧
      last.queue.length = 0 ∧ last.delayed.length = 0 := by
  decide +kernel

end PullSecretSync
