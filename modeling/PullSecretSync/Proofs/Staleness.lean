import Mathlib.Logic.Relation
import PullSecretSync.Proofs.Quiescence

/-!
# Deletions that are out of date

A deletion that was put off is handled as it was, whatever has happened since. It may be the
deletion of a pull secret that is back by then and copied, and then its handling takes a live
replica away. The main result says that nothing else can be behind it, whatever fails on the way:
the deletion did take place, and the pull secret was put again since. Where nothing fails but the
writing of a status, an event of the pull secret or the deletion of the replica is still to be
handled afterwards, and in every later state without such events the replica is the copy again.
-/

namespace PullSecretSync

open Sync

/-- The effects delete the replica, or put on record that the credential does not exist. -/
def Sync.TearsDown (effects : List Effect) : Prop :=
  (∃ answer, .delete answer ∈ effects) ∨
    ∃ config answer, .writeStatus config answer ∈ effects ∧
      (config.condition Config.credentialType).status = .fails

/-- The slot of the pull secret, and what its watch has to deliver, is as it was in another
cluster, and the watch of the replica's slot tells nothing new about the pull secret. -/
structure Cluster.Apart (cluster next : Cluster) : Prop where
  slot : next.secrets.get? .source = cluster.secrets.get? .source
  feed : next.feed .source = cluster.feed .source
  foreign : ∀ event ∈ next.feed .replica,
    event ∈ cluster.feed .replica ∨ event.secret.role? ≠ some .source

namespace Cluster

variable {cluster next last : Cluster} {version : String} {effect : Effect} {effects : List Effect}

theorem Apart.refl (cluster : Cluster) : cluster.Apart cluster :=
  ⟨rfl, rfl, fun _ told => .inl told⟩

theorem Apart.trans (first : cluster.Apart next) (second : next.Apart last) :
    cluster.Apart last := by
  refine ⟨second.slot.trans first.slot, second.feed.trans first.feed, fun event told => ?_⟩
  rcases second.foreign event told with old | foreign
  · exact first.foreign event old
  · exact .inr foreign

/-- The secret in the replica's slot does not pass for the pull secret. -/
def Unmixed (cluster : Cluster) : Prop :=
  ∀ secret, cluster.secrets.get? .replica = some secret → secret.role? ≠ some .source

/-- Writing a replica leaves the pull secret alone. -/
theorem apart_put (secret : Secret) :
    cluster.Apart (cluster.put .replica (secret.replica version)) ∧
      (cluster.put .replica (secret.replica version)).Unmixed := by
  have named : Slot.replica.role? = some .replica := Role.role?_slot .replica
  refine ⟨⟨SecretMap.get?_put_of_ne (by decide) .., by simp [put, tell, named], ?_⟩, ?_⟩
  · intro event told
    simp only [put, tell, named, if_true, List.mem_append, List.mem_singleton] at told
    exact told.imp_right (by rintro rfl; simp [SecretEvent.applied])
  · intro written held
    obtain rfl : secret.replica version = written := by simpa [put] using held
    simp

/-- Emptying the slot of the replica leaves the pull secret alone. -/
theorem apart_erase (unmixed : cluster.Unmixed) :
    cluster.Apart (cluster.erase .replica) ∧ (cluster.erase .replica).Unmixed := by
  have named : Slot.replica.role? = some .replica := Role.role?_slot .replica
  cases held : cluster.secrets.get? .replica with
  | none =>
    rw [erase, held]
    exact ⟨.refl _, unmixed⟩
  | some secret =>
    rw [erase, held]
    refine ⟨⟨SecretMap.get?_erase_of_ne (by decide) _, by simp [tell, named], ?_⟩, ?_⟩
    · intro event told
      simp only [tell, named, if_true, List.mem_append, List.mem_singleton] at told
      exact told.imp_right (by rintro rfl; exact unmixed secret held)
    · intro other present
      simp at present

/-- The answers to what is asked in a course leave the pull secret alone. -/
theorem Answers.apart (answers : Answers cluster effect next)
    (replicates : ∀ call answer, effect = .store call answer → call.Replicates version)
    (unmixed : cluster.Unmixed) : cluster.Apart next ∧ next.Unmixed := by
  cases answers with
  | store call =>
    have replicates := replicates call _ rfl
    cases call with
    | get => exact ⟨.refl _, unmixed⟩
    | create space written =>
      obtain ⟨rfl, secret, rfl⟩ := replicates
      rw [after]
      split
      · exact ⟨.refl _, unmixed⟩
      · exact apart_put secret
    | update space written =>
      obtain ⟨rfl, secret, rfl⟩ := replicates
      rw [after]
      split
      · exact apart_put secret
      · exact ⟨.refl _, unmixed⟩
    | delete slot =>
      obtain rfl : slot = .replica := replicates
      exact apart_erase unmixed
  | written => exact ⟨⟨rfl, rfl, fun _ told => .inl told⟩, unmixed⟩
  | _ => exact ⟨.refl _, unmixed⟩

theorem Exchanges.apart (exchanges : Exchanges cluster effects last)
    (replicates : ∀ call answer, .store call answer ∈ effects → call.Replicates version)
    (unmixed : cluster.Unmixed) : cluster.Apart last := by
  induction exchanges with
  | nil => exact .refl _
  | cons answers _ ih =>
    obtain ⟨first, unmixed⟩ := answers.apart
      (fun call answer same => replicates call answer (same ▸ List.mem_cons_self)) unmixed
    refine first.trans (ih (fun call answer later => ?_) unmixed)
    exact replicates call answer (List.mem_cons_of_mem _ later)

/-- A replica is created where there is none. -/
theorem answers_create (empty : cluster.secrets.get? .replica = none) (secret : Secret) :
    Answers cluster (.create version secret (.ok (secret.replica version)))
      (cluster.put .replica (secret.replica version)) := by
  have slot : SecretMap.slotIn Slot.replica.space (secret.replica version) = .replica := rfl
  have answers : Answers cluster _ _ :=
    .store (.create Slot.replica.space (secret.replica version))
  simpa [SecretMap.answer, after, slot, empty] using answers

/-- A replica that is there is updated. -/
theorem exchanges_update {old : Secret} (held : cluster.secrets.get? .replica = some old)
    (secret : Secret) : Exchanges cluster
      [.create version secret (.error (.alreadyExists .replica)),
        .update version secret (.ok (secret.replica version))]
      (cluster.put .replica (secret.replica version)) := by
  have slot : SecretMap.slotIn Slot.replica.space (secret.replica version) = .replica := rfl
  have refused : Answers cluster _ _ :=
    .store (.create Slot.replica.space (secret.replica version))
  have updated : Answers cluster _ _ :=
    .store (.update Slot.replica.space (secret.replica version))
  simp only [SecretMap.answer, after, slot, held, Option.isSome_some, if_true] at refused updated
  exact .cons refused (.cons updated (.nil _))

/-- A replica that is there is deleted. -/
theorem answers_delete {old : Secret} (held : cluster.secrets.get? .replica = some old) :
    Answers cluster (.delete (.ok ())) (cluster.erase .replica) := by
  have answers : Answers cluster _ _ := .store (.delete .replica)
  simpa [SecretMap.answer, after, held] using answers

/-- The writing of statuses leaves the secrets alone. -/
theorem Exchanges.secrets_eq (exchanges : Exchanges cluster effects last)
    (written : ∀ effect ∈ effects, ∃ config answer, effect = .writeStatus config answer) :
    last.secrets = cluster.secrets := by
  induction exchanges with
  | nil => rfl
  | cons answers _ ih =>
    obtain ⟨config, answer, rfl⟩ := written _ List.mem_cons_self
    rw [ih fun effect later => written effect (List.mem_cons_of_mem _ later)]
    rcases answers.of_writeStatus with ⟨-, rfl⟩ | ⟨-, -, rfl⟩ <;> rfl

end Cluster

namespace World

/-- The pull secret as it is in its slot. -/
abbrev source? (world : World) : Option Secret := world.cluster.secrets.get? .source

/-- A step of the system where everything may fail and others interfere. What the manager asks may
be answered in any way and may do anything, and anything may change by itself; but the pull secret
is only put and removed, and its watch tells of that in order. -/
inductive Rough (settings : Settings) : World → World → Prop
  | putSource {world : World} {secret : Secret} (named : secret.slot? = some .source) :
      Rough settings world
        { world with cluster := world.cluster.put .source secret, sourced := true }
  | removeSource {world : World} :
      Rough settings world { world with cluster := world.cluster.erase .source }
  | disturb {world : World} {cluster : Cluster} {upserts : Upserts}
      (apart : world.cluster.Apart cluster) :
      Rough settings world { world with cluster, upserts }
  | deliver {world : World} {role : Role} {event : SecretEvent} {rest : List SecretEvent}
      (fed : world.cluster.feed role = event :: rest) :
      Rough settings world
        { world with
          cluster.feed := Role.set world.cluster.feed role rest
          manager := world.manager.watch event }
  | redeliver {world : World} (before : List (Nat × SecretEvent))
      {after : List (Nat × SecretEvent)} {due : Nat} {event : SecretEvent}
      (delayed : world.manager.delayed = before ++ (due, event) :: after) :
      Rough settings world
        { world with
          manager.queue := world.manager.queue ++ [.redelivered event]
          manager.delayed := before ++ after }
  | attend {world : World} {now : Instant} {time : Nat} {inFlight : UInt64}
      {effects : List Effect} {manager : Manager} {cluster : Cluster}
      (stepping : Leads (world.manager.step settings now time inFlight) effects manager)
      (apart : world.cluster.Apart cluster) :
      Rough settings world { world with cluster, manager }

/-- An event is to be delivered, queued or put off. -/
def Carries (world : World) (event : SecretEvent) : Prop :=
  (∃ role, event ∈ world.cluster.feed role) ∨
    (∃ delivery ∈ world.manager.queue, delivery.event = event) ∨
    ∃ due, (due, event) ∈ world.manager.delayed

/-- No deletion of a pull secret is to be delivered, queued or put off. -/
def Untold (world : World) : Prop :=
  ∀ event, world.Carries event → event.secret.role? = some .source → event.deleted = false

/-- The way from a world where it may start: the worlds that were passed, the first one first, and
the one that was reached. -/
inductive History (Starts : World → Prop) (Moves : World → World → Prop) : List World → World → Prop
  | start {world : World} (starts : Starts world) : History Starts Moves [] world
  | next {past : List World} {world next : World} (before : History Starts Moves past world)
      (moves : Moves world next) : History Starts Moves (past ++ [world]) next

/-- A pull secret was removed; the worlds since then. -/
def Lost (worlds : List World) (secret : Secret) (since : List World) : Prop :=
  ∃ before held lost after, worlds = before ++ held :: since ∧ since = lost :: after ∧
    held.source? = some secret ∧ lost.source? = none

/-- A pull secret was put where there was none. -/
def Regained (worlds : List World) : Prop :=
  ∃ before absent present after, worlds = before ++ absent :: present :: after ∧
    absent.source? = none ∧ present.source?.isSome = true

/-- What is to come after the replica was taken away: the pull secret is still to be copied, or the
deletion of the replica to be made up for; and wherever the system comes to rest, the replica is the
copy of the pull secret if there is one. -/
structure Recovers (settings : Settings) (world : World) : Prop where
  expects : world.view.Expects .source false ∨ world.view.Expects .replica true
  rests : ∀ later, Relation.ReflTransGen (Step settings) world later → later.Quiescent →
    later.Consistent settings.version

variable {settings : Settings} {world next later : World} {past worlds since : List World}
  {event : SecretEvent} {secret : Secret} {effects : List Effect} {now : Instant} {time : Nat}
  {inFlight : UInt64} {manager : Manager} {queue : List Delivery}

/-! ## Where a deletion comes from -/

theorem Lost.concat (lost : Lost worlds secret since) (world : World) :
    Lost (worlds ++ [world]) secret (since ++ [world]) := by
  obtain ⟨before, held, first, after, rfl, rfl, present, absent⟩ := lost
  exact ⟨before, held, first, after ++ [world], by simp, by simp, present, absent⟩

/-- Between a world without a pull secret and one with it, it was put. -/
theorem regained_of_getLast {first : World} {after : List World} (absent : first.source? = none)
    (ended : (first :: after).getLast? = some world) (present : world.source?.isSome = true) :
    Regained (first :: after) := by
  induction after generalizing first with
  | nil =>
    obtain rfl : first = world := by simpa using ended
    rw [absent] at present
    cases present
  | cons second after ih =>
    cases held : second.source? with
    | some secret => exact ⟨[], first, second, after, rfl, absent, by simp [held]⟩
    | none =>
      obtain ⟨before, gone, back, later, same, left, found⟩ :=
        ih held (by simpa using ended)
      exact ⟨first :: before, gone, back, later, by rw [same]; rfl, left, found⟩

/-- What is told of a slot is told by its watch. -/
theorem mem_feed_tell {cluster : Cluster} {slot : Slot} {told : SecretEvent} {role : Role}
    (fed : event ∈ (cluster.tell slot told).feed role) :
    event ∈ cluster.feed role ∨ event = told := by
  simp only [Cluster.tell] at fed
  split at fed
  · simpa using fed
  · exact .inl fed

/-- A deletion that is put off was delivered before. -/
theorem carries_of_stepping
    (stepping : Leads (world.manager.step settings now time inFlight) effects manager)
    (removed : event.deleted = true)
    (carries : (∃ delivery ∈ manager.queue, delivery.event = event) ∨
      ∃ due, (due, event) ∈ manager.delayed) : world.Carries event := by
  cases queued : world.manager.queue with
  | nil =>
    rw [Manager.step_of_queue_eq_nil queued] at stepping
    obtain ⟨-, rfl⟩ := leads_done.mp stepping
    exact .inr carries
  | cons delivery queue =>
    obtain ⟨⟨fate, retries⟩, attending, rfl⟩ := (Manager.leads_step_iff queued).mp stepping
    rcases carries with ⟨other, waiting, same⟩ | ⟨due, delayed⟩
    · rw [Manager.queue_conclude] at waiting
      exact .inr (.inl ⟨other, by rw [queued]; exact List.mem_cons_of_mem _ waiting, same⟩)
    · rw [(Manager.delayed_conclude_perm ..).mem_iff] at delayed
      cases fate with
      | deferred put =>
        rcases List.mem_cons.mp delayed with new | old
        · obtain ⟨flag, kept⟩ := attending.of_deferred rfl
          obtain rfl : event = put := congrArg Prod.snd new
          exact .inr (.inl ⟨delivery, by rw [queued]; exact List.mem_cons_self,
            (kept (flag.symm.trans removed)).symm⟩)
        · exact .inr (.inr ⟨due, old⟩)
      | _ => exact .inr (.inr ⟨due, delayed⟩)

/-- A step gives rise to the deletion of a pull secret only by removing it. -/
theorem Rough.carries (rough : Rough settings world next) (removed : event.deleted = true)
    (named : event.secret.role? = some .source) (carries : next.Carries event) :
    world.Carries event ∨ (world.source? = some event.secret ∧ next.source? = none) := by
  have known_or_foreign {cluster : Cluster} (apart : world.cluster.Apart cluster) {role : Role}
      (fed : event ∈ cluster.feed role) : world.Carries event := by
    cases role with
    | source => exact .inl ⟨.source, by rwa [apart.feed] at fed⟩
    | replica =>
      rcases apart.foreign event fed with old | foreign
      · exact .inl ⟨.replica, old⟩
      · exact absurd named foreign
  cases rough with
  | putSource =>
    rcases carries with ⟨role, fed⟩ | held
    · rcases mem_feed_tell fed with old | rfl
      · exact .inl (.inl ⟨role, old⟩)
      · cases removed
    · exact .inl (.inr held)
  | removeSource =>
    rcases carries with ⟨role, fed⟩ | held
    · cases held : world.cluster.secrets.get? .source with
      | none =>
        rw [Cluster.erase, held] at fed
        exact .inl (.inl ⟨role, fed⟩)
      | some secret =>
        rw [Cluster.erase, held] at fed
        rcases mem_feed_tell fed with old | rfl
        · exact .inl (.inl ⟨role, old⟩)
        · refine .inr ⟨held, ?_⟩
          simp [source?, Cluster.erase, held]
    · exact .inl (.inr held)
  | disturb apart =>
    rcases carries with ⟨role, fed⟩ | held
    · exact .inl (known_or_foreign apart fed)
    · exact .inl (.inr held)
  | @deliver watched first rest fed =>
    refine .inl ?_
    rcases carries with ⟨role, later⟩ | ⟨delivery, queued, same⟩ | delayed
    · by_cases same : role = watched
      · subst same
        simp only [Role.set_self] at later
        exact .inl ⟨role, by rw [fed]; exact List.mem_cons_of_mem _ later⟩
      · simp only [Role.set_of_ne same] at later
        exact .inl ⟨role, later⟩
    · rcases List.mem_append.mp queued with old | new
      · exact .inr (.inl ⟨delivery, old, same⟩)
      · obtain rfl := List.mem_singleton.mp new
        obtain rfl : first = event := same
        exact .inl ⟨watched, by rw [fed]; exact List.mem_cons_self⟩
    · exact .inr (.inr delayed)
  | @redeliver before after due put delayed =>
    refine .inl ?_
    rcases carries with fed | ⟨delivery, queued, same⟩ | ⟨time, later⟩
    · exact .inl fed
    · rcases List.mem_append.mp queued with old | new
      · exact .inr (.inl ⟨delivery, old, same⟩)
      · obtain rfl := List.mem_singleton.mp new
        obtain rfl : put = event := same
        exact .inr (.inr ⟨due, by rw [delayed]; simp⟩)
    · refine .inr (.inr ⟨time, ?_⟩)
      rw [delayed]
      rcases List.mem_append.mp later with early | late
      · exact List.mem_append_left _ early
      · exact List.mem_append_right _ (List.mem_cons_of_mem _ late)
  | attend stepping apart =>
    rcases carries with ⟨role, fed⟩ | held
    · exact .inl (known_or_foreign apart fed)
    · exact .inl (carries_of_stepping stepping removed held)

/-- Every deletion of a pull secret that is to be handled took place. -/
theorem History.lost_of_carries (history : History Untold (Rough settings) past world)
    (removed : event.deleted = true) (named : event.secret.role? = some .source)
    (carries : world.Carries event) : ∃ since, Lost (past ++ [world]) event.secret since := by
  induction history with
  | start untold => simp [untold event carries named] at removed
  | @next past world next before step ih =>
    rcases step.carries removed named carries with old | ⟨present, absent⟩
    · obtain ⟨since, lost⟩ := ih old
      exact ⟨_, lost.concat next⟩
    · exact ⟨[next], past, world, next, [], by simp, rfl, present, absent⟩

/-! ## Where the cluster answers -/

/-- The manager only looks the pull secret up, and writes or deletes its replica. -/
theorem replicates_of_stepping
    (stepping : Leads (world.manager.step settings now time inFlight) effects manager)
    (call : StoreCall) (answer : call.Answer) (asked : .store call answer ∈ effects) :
    call.Replicates settings.version := by
  cases queued : world.manager.queue with
  | nil =>
    rw [Manager.step_of_queue_eq_nil queued] at stepping
    obtain ⟨rfl, -⟩ := leads_done.mp stepping
    cases asked
  | cons delivery queue =>
    obtain ⟨result, attending, -⟩ := (Manager.leads_step_iff queued).mp stepping
    obtain ⟨_, _, _, _, _, -, -, -, managing, member⟩ := attending.managing_of_mem asked
    obtain ⟨_, _, ⟨⟩, replicates⟩ := managing.replicates member
    exact replicates

theorem Coherent.unmixed (coherent : world.Coherent settings) : world.cluster.Unmixed := by
  intro secret held
  have fits := coherent.sound.held .replica secret held
  simp [fits.named]

/-- A step in a cluster that answers is one where everything may fail. -/
theorem Step.rough (step : Step settings world next) (coherent : world.Coherent settings) :
    Rough settings world next := by
  have unmixed := coherent.unmixed
  cases step with
  | putSource named => exact .putSource named
  | removeSource => exact .removeSource
  | removeReplica => exact .disturb (Cluster.apart_erase unmixed).1
  | configure => exact .disturb ⟨rfl, rfl, fun _ told => .inl told⟩
  | beginUpsert => exact .disturb (.refl _)
  | endUpsert => exact .disturb (.refl _)
  | deliver fed => exact .deliver fed
  | redeliver before delayed => exact .redeliver before delayed
  | attend stepping exchanges =>
    exact .attend stepping (exchanges.apart (replicates_of_stepping stepping) unmixed)

theorem History.reachable (history : History Initial (Step settings) past world) :
    Reachable settings world := by
  induction history with
  | start initial => exact .initial initial
  | next _ step ih => exact ih.step step

theorem Initial.untold (initial : world.Initial) : world.Untold := by
  rintro event (⟨role, fed⟩ | ⟨delivery, queued, -⟩ | ⟨due, delayed⟩) -
  · simp [initial.feeds role] at fed
  · simp [initial.manager] at queued
  · simp [initial.manager] at delayed

theorem History.rough (history : History Initial (Step settings) past world) :
    History Untold (Rough settings) past world := by
  induction history with
  | start initial => exact .start initial.untold
  | next before step ih => exact .next ih (step.rough before.reachable.coherent)

/-- After the deletion of a pull secret the replica is deleted, or nothing is torn down. -/
theorem exists_delete {handled : Handled} {config : Config} {retries : UInt32}
    (handling : Handling settings now inFlight config retries event effects handled)
    (removed : event.deleted = true) (named : event.secret.role? = some .source)
    (tearsDown : TearsDown effects) :
    ∃ answer rest, effects = .delete answer :: rest ∧
      ∀ effect ∈ rest, ∃ config answer, effect = .writeStatus config answer := by
  have managed {effects : List Effect} {result : Except SyncError Config}
      (managing : Managing settings.version now config event effects result) :
      ∃ answer, effects = [.delete answer] := by
    cases managing with
    | irrelevant role => simp [named] at role
    | withdrawn => exact ⟨_, rfl⟩
    | kept => exact ⟨_, rfl⟩
    | copied _ kept => simp [removed] at kept
    | uncopied _ kept => simp [removed] at kept
    | _ role => simp [named] at role
  have other {rest : Transition} (decided : decision settings inFlight config retries event = rest)
      (replica : (event.facts config inFlight retries settings.retryLimit).Grounds rest →
        event.secret.role? = some .replica) : False := by
    have role := replica (grounds_of_decision decided)
    simp [named] at role
  cases handling with
  | welcomed decided => exact (other decided (·.1)).elim
  | rejected decided => exact (other decided (·.1)).elim
  | accepted decided => exact (other decided (·.1)).elim
  | steady _ managing =>
    obtain ⟨answer, rfl⟩ := managed managing
    exact ⟨answer, [], rfl, by simp⟩
  | turned _ managing =>
    obtain ⟨answer, rfl⟩ := managed managing
    exact ⟨answer, _, rfl, by simp⟩
  | failed _ managing =>
    obtain ⟨answer, rfl⟩ := managed managing
    exact ⟨answer, _, rfl, by simp⟩
  | _ => simp [TearsDown] at tearsDown

/-- Where a deletion of the pull secret tears down, there is no replica left. -/
theorem replica_eq_none {cluster last : Cluster} {retries : UInt32} {result : Fate × UInt32}
    (attending : Attending settings now inFlight retries (.redelivered event) effects result)
    (exchanges : cluster.Exchanges effects last) (removed : event.deleted = true)
    (named : event.secret.role? = some .source) (tearsDown : TearsDown effects) :
    last.secrets.get? .replica = none := by
  cases attending with
  | vanished => simp [TearsDown] at tearsDown
  | unread => simp [TearsDown] at tearsDown
  | brought brings delivering =>
    obtain rfl := brings.event_eq removed
    obtain rfl := brings.eq_nil removed
    cases delivering with
    | homeless => simp [TearsDown] at tearsDown
    | unread => simp [TearsDown] at tearsDown
    | handled handling =>
      obtain ⟨middle, read, carried⟩ := Cluster.exchanges_cons_iff.mp exchanges
      obtain ⟨answer, rest, rfl, written⟩ := exists_delete handling removed named
        (by simpa [TearsDown] using tearsDown)
      obtain ⟨emptied, delete, flush⟩ := Cluster.exchanges_cons_iff.mp carried
      rw [flush.secrets_eq written, delete.of_delete.2]
      cases held : middle.secrets.get? .replica with
      | none => rw [Cluster.erase, held, held]
      | some secret => simp [Cluster.erase, held]

/-- A replica that is gone while there is a pull secret comes back: the pull secret is still to be
copied, or the deletion of the replica to be made up for. -/
theorem Coherent.expects (coherent : world.Coherent settings)
    (present : world.source?.isSome = true)
    (gone : world.cluster.secrets.get? .replica = none) :
    world.view.Expects .source false ∨ world.view.Expects .replica true := by
  obtain ⟨secret, held⟩ := Option.isSome_iff_exists.mp present
  refine (coherent.sound.copied secret held).resolve_left ?_
  rintro ⟨copied, -⟩
  have copied : world.cluster.secrets.get? .replica = some (secret.replica _) := copied
  rw [gone] at copied
  cases copied

theorem Coherent.steps (coherent : world.Coherent settings)
    (steps : Relation.ReflTransGen (Step settings) world later) : later.Coherent settings := by
  induction steps with
  | refl => exact coherent
  | tail _ step ih => exact ih.step step

/-- A replica that is gone while there is a pull secret is made up for. -/
theorem Coherent.recovers (coherent : world.Coherent settings)
    (present : world.source?.isSome = true)
    (gone : world.cluster.secrets.get? .replica = none) : world.Recovers settings where
  expects := coherent.expects present gone
  rests _ steps quiescent := (coherent.steps steps).consistent_at_rest quiescent

/-- **What a deletion of the pull secret that was put off tears down.** Either there is no pull
secret by then, or it was put again since that deletion took place. In the second case, if nothing
but the writing of statuses has failed since both slots were empty, the replica is made up for. -/
theorem History.regained_of_tearsDown (history : History Untold (Rough settings) past world)
    (queued : world.manager.queue = .redelivered event :: queue)
    (removed : event.deleted = true) (named : event.secret.role? = some .source)
    (stepping : Leads (world.manager.step settings now time inFlight) effects manager)
    (tearsDown : TearsDown effects) :
    ∃ since, Lost (past ++ [world]) event.secret since ∧
      (world.source? = none ∨
        (Regained since ∧
          (History Initial (Step settings) past world → inFlight = world.upserts.inFlight 0 →
            ∀ cluster, world.cluster.Exchanges effects cluster →
              ({ world with cluster, manager } : World).Recovers settings))) := by
  have carries : world.Carries event :=
    .inr (.inl ⟨.redelivered event, by rw [queued]; exact List.mem_cons_self, rfl⟩)
  obtain ⟨since, lost⟩ := history.lost_of_carries removed named carries
  refine ⟨since, lost, ?_⟩
  cases held : world.source? with
  | none => exact .inl rfl
  | some secret =>
    have present : world.source?.isSome = true := by rw [held]; rfl
    refine .inr ⟨?_, ?_⟩
    · obtain ⟨before, first, absent, after, same, rfl, -, empty⟩ := lost
      have ended : (absent :: after).getLast? = some world := by
        have last : (past ++ [world]).getLast? = some world := List.getLast?_concat
        simpa [same, List.getLast?_append, List.getLast?_cons] using last
      exact regained_of_getLast empty ended present
    · rintro orderly rfl cluster exchanges
      have step : Step settings world { world with cluster, manager } := .attend stepping exchanges
      have coherent := orderly.reachable.coherent.step step
      have kept : cluster.secrets.get? .source = world.source? :=
        (exchanges.apart (replicates_of_stepping stepping)
          orderly.reachable.coherent.unmixed).slot
      obtain ⟨result, attending, -⟩ := (Manager.leads_step_iff queued).mp stepping
      refine coherent.recovers (by rwa [source?, kept]) ?_
      exact replica_eq_none attending exchanges removed named tearsDown

/-- The pull secret is put and copied. It is removed while an upsert is in flight, so its deletion
is put off; then it is put again, and its copy is updated. When the deletion comes back, it takes
the replica away. -/
theorem exists_stale :
    ∃ (past : List World) (world : World) (event : SecretEvent) (now : Instant) (time : Nat)
      (effects : List Effect) (manager : Manager) (cluster : Cluster),
      History Initial (Step ⟨"4.1.0", "cluster", 3, 5⟩) past world ∧
        world.manager.queue = [.redelivered event] ∧ event.deleted = true ∧
        event.secret.role? = some .source ∧
        Leads (world.manager.step ⟨"4.1.0", "cluster", 3, 5⟩ now time (world.upserts.inFlight 0))
          effects manager ∧
        world.cluster.Exchanges effects cluster ∧ TearsDown effects ∧
        ∃ secret, world.source? = some secret ∧
          world.cluster.secrets.HoldsReplica secret "4.1.0" := by
  let settings : Settings := ⟨"4.1.0", "cluster", 3, 5⟩
  let now : Instant := ⟨0, 0⟩
  let secret : Secret := { metadata := { name := some "coreos-pull-secret",
                                         space := some "kube-system" } }
  let start : World := { cluster := { config := .new "cluster" {} } }
  have initial : start.Initial :=
    ⟨fun _ => rfl, fun _ => rfl, rfl, by constructor <;> decide, rfl, rfl, rfl⟩
  let put : World := { start with cluster := start.cluster.put .source secret, sourced := true }
  have way : History Initial (Step settings) _ put := .next (.start initial) (.putSource rfl)
  let seen : World := { put with
    cluster.feed := Role.set put.cluster.feed .source []
    manager := put.manager.watch (.applied secret) }
  have way : History Initial (Step settings) _ seen := way.next (.deliver rfl)
  let holding := seen.cluster.config.settle now Config.credentialType .holds
  let copied : World := { seen with
    cluster := (seen.cluster.put .replica (secret.replica "4.1.0")).record holding
    manager := {} }
  have managing : Managing settings.version now seen.cluster.config (.applied secret)
      [.create "4.1.0" secret (.ok (secret.replica "4.1.0"))] (.ok holding) :=
    .copied rfl rfl (.given (.created _))
  have handling : Handling settings now (seen.upserts.inFlight 0) seen.cluster.config 0
      (.applied secret) _ _ := .turned (by decide) managing (by decide) (.ok ())
  have empty : seen.cluster.secrets.get? .replica = none := rfl
  have created : seen.cluster.Answers (.create "4.1.0" secret (.ok (secret.replica "4.1.0"))) _ :=
    Cluster.answers_create empty secret
  have copying : Step settings seen copied :=
    .handle 0 rfl handling (.cons created (.cons (.written _) (.nil _)))
  have mirrored : History Initial (Step settings) _ copied := way.next copying
  have replica : copied.cluster.secrets.get? .replica = some (secret.replica "4.1.0") :=
    SecretMap.get?_put_self ..
  have source : copied.cluster.secrets.get? .source = some secret :=
    (SecretMap.get?_put_of_ne (by decide) ..).trans (SecretMap.get?_put_self ..)
  let busy : World := { copied with upserts := copied.upserts.start 0 }
  have way : History Initial (Step settings) _ busy := mirrored.next .beginUpsert
  let removed : World := { busy with cluster := busy.cluster.erase .source }
  have way : History Initial (Step settings) _ removed := way.next .removeSource
  have fed : removed.cluster.feed .source = [.removed secret] := by
    simp only [removed, busy, Cluster.erase, source]
    rfl
  let told : World := { removed with
    cluster.feed := Role.set removed.cluster.feed .source []
    manager := removed.manager.watch (.removed secret) }
  have way : History Initial (Step settings) _ told := way.next (.deliver fed)
  let waiting : World := { told with manager := { delayed := [(5000, .removed secret)] } }
  have handling : Handling settings now (told.upserts.inFlight 0) told.cluster.config 0
      (.removed secret) _ _ := .busy (by decide)
  have puttingOff : Step settings told waiting := .handle 0 rfl handling (.nil _)
  have putOff : History Initial (Step settings) _ waiting := way.next puttingOff
  have kept : waiting.cluster.secrets.get? .replica = some (secret.replica "4.1.0") := by
    simp only [waiting, told, removed, busy, Cluster.erase, source, Cluster.secrets_tell]
    exact (SecretMap.get?_erase_of_ne (by decide) _).trans replica
  let idle : World := { waiting with upserts := waiting.upserts.drop 0 }
  have way : History Initial (Step settings) _ idle := putOff.next .endUpsert
  let back : World := { idle with cluster := idle.cluster.put .source secret, sourced := true }
  have way : History Initial (Step settings) _ back := way.next (.putSource rfl)
  have fed : back.cluster.feed .source = [.applied secret] := rfl
  let known : World := { back with
    cluster.feed := Role.set back.cluster.feed .source []
    manager := back.manager.watch (.applied secret) }
  have way : History Initial (Step settings) _ known := way.next (.deliver fed)
  have held : known.cluster.secrets.get? .replica = some (secret.replica "4.1.0") :=
    (SecretMap.get?_put_of_ne (by decide) ..).trans kept
  let updated : World := { known with
    cluster := known.cluster.put .replica (secret.replica "4.1.0")
    manager := { delayed := [(5000, .removed secret)] } }
  have managing : Managing settings.version now known.cluster.config (.applied secret)
      [.create "4.1.0" secret (.error (.alreadyExists .replica)),
        .update "4.1.0" secret (.ok (secret.replica "4.1.0"))]
      (.ok (known.cluster.config.settle now Config.credentialType .holds)) :=
    .copied rfl rfl (.given (.updated _ rfl _))
  have handling : Handling settings now (known.upserts.inFlight 0) known.cluster.config 0
      (.applied secret) _ _ := .steady (by decide) managing (by decide)
  have updating : Step settings known updated :=
    .handle 0 rfl handling (Cluster.exchanges_update held secret)
  have mirroredAgain : History Initial (Step settings) _ updated := way.next updating
  let returned : World := { updated with
    manager.queue := [.redelivered (.removed secret)]
    manager.delayed := [] }
  have redelivered : History Initial (Step settings) _ returned :=
    mirroredAgain.next (.redeliver [] rfl)
  let failing := returned.cluster.config.settle now Config.credentialType .fails
  have managing : Managing settings.version now returned.cluster.config (.removed secret)
      [.delete (.ok ())] (.ok failing) := .withdrawn rfl rfl rfl
  have handling : Handling settings now (returned.upserts.inFlight 0) returned.cluster.config 0
      (.removed secret) _ _ := .turned (by decide) managing (by decide) (.ok ())
  have stepping : Leads (returned.manager.step settings now 0 (returned.upserts.inFlight 0)) _ {} :=
    (Manager.leads_step_iff rfl).mpr ⟨_, .brought (.kept rfl) (.handled handling), rfl⟩
  have live : returned.cluster.secrets.get? .replica = some (secret.replica "4.1.0") :=
    SecretMap.get?_put_self ..
  have present : returned.source? = some secret :=
    (SecretMap.get?_put_of_ne (by decide) ..).trans (SecretMap.get?_put_self ..)
  exact ⟨_, returned, .removed secret, now, 0, _, {}, _, redelivered, rfl, rfl, rfl, stepping,
    .cons (.readConfig _) (.cons (Cluster.answers_delete live) (.cons (.written _) (.nil _))),
    .inl ⟨.ok (), by simp⟩, secret, present, SecretMap.holdsReplica_iff.mpr live⟩

/-- A deletion of the pull secret that was put off may tear down while there is a pull secret. -/
theorem not_absent_of_tearsDown :
    ¬ ∀ (settings : Settings) (past : List World) (world : World) (event : SecretEvent)
        (queue : List Delivery) (now : Instant) (time : Nat) (inFlight : UInt64)
        (effects : List Effect) (manager : Manager),
      History Untold (Rough settings) past world →
        world.manager.queue = .redelivered event :: queue → event.deleted = true →
        event.secret.role? = some .source →
        Leads (world.manager.step settings now time inFlight) effects manager →
        TearsDown effects → world.source? = none := by
  intro absent
  obtain ⟨past, world, event, now, time, effects, manager, _, way, queued, removed, named,
    stepping, -, tearsDown, secret, present, -⟩ := exists_stale
  have gone := absent _ past world event [] now time _ effects manager way.rough queued removed
    named stepping tearsDown
  rw [gone] at present
  cases present

/-- A live replica is taken away, and it is made up for. -/
theorem exists_regained :
    ∃ (past since : List World) (world next : World),
      History Initial (Step ⟨"4.1.0", "cluster", 3, 5⟩) past world ∧
      (∃ secret, world.source? = some secret ∧
        world.cluster.secrets.HoldsReplica secret "4.1.0") ∧
      next.cluster.secrets.get? .replica = none ∧ Regained since ∧
      next.Recovers ⟨"4.1.0", "cluster", 3, 5⟩ := by
  obtain ⟨past, world, event, now, time, effects, manager, cluster, way, queued, removed, named,
    stepping, exchanges, tearsDown, secret, present, live⟩ := exists_stale
  obtain ⟨since, -, outcome⟩ :=
    way.rough.regained_of_tearsDown queued removed named stepping tearsDown
  obtain ⟨regained, recovers⟩ := outcome.resolve_left fun gone => by
    rw [gone] at present
    cases present
  obtain ⟨result, attending, -⟩ := (Manager.leads_step_iff queued).mp stepping
  have empty : cluster.secrets.get? .replica = none :=
    replica_eq_none attending exchanges removed named tearsDown
  exact ⟨past, since, world, { world with cluster, manager }, way, ⟨secret, present, live⟩, empty,
    regained, recovers way rfl cluster exchanges⟩

end World

end PullSecretSync
