import PullSecretSync.Proofs.Cluster
import PullSecretSync.Proofs.Running
import PullSecretSync.Proofs.Tracking
import PullSecretSync.Proofs.View
import PullSecretSync.Sync.Upserts

/-!
# The manager in its cluster

A manager, the cluster that answers it, and the counter of upserts are one system. Its steps are
those of the surroundings, the deliveries of the watches, the return of events that were put off,
and the manager's attempts at its first delivery. The order of the steps is left open.
-/

namespace PullSecretSync

open Sync

/-- The configuration asks for the samples to be managed. A state that is not recognized counts as
managed. -/
def ConfigSpec.Followed (spec : ConfigSpec) : Prop :=
  spec.managementState ≠ .unmanaged ∧ spec.managementState ≠ .removed

/-- A manager in its cluster. -/
structure World where
  cluster : Cluster
  upserts : Upserts := .single
  manager : Manager := {}
  /-- Whether there was a pull secret at any time. Nothing depends on it. -/
  sourced : Bool := false

namespace World

/-- A step of the system. -/
inductive Step (settings : Settings) : World → World → Prop
  | putSource {world : World} {secret : Secret} (named : secret.slot? = some .source) :
      Step settings world
        { world with cluster := world.cluster.put .source secret, sourced := true }
  | removeSource {world : World} :
      Step settings world { world with cluster := world.cluster.erase .source }
  | removeReplica {world : World} :
      Step settings world { world with cluster := world.cluster.erase .replica }
  | configure {world : World} {spec : ConfigSpec} (followed : spec.Followed) :
      Step settings world
        { world with cluster.config.spec := spec }
  | beginUpsert {world : World} :
      Step settings world { world with upserts := world.upserts.start 0 }
  | endUpsert {world : World} {guard : Nat} :
      Step settings world { world with upserts := world.upserts.drop guard }
  /-- The watch of a slot delivers its next event. -/
  | deliver {world : World} {role : Role} {event : SecretEvent} {rest : List SecretEvent}
      (fed : world.cluster.feed role = event :: rest) :
      Step settings world
        { world with
          cluster.feed := Role.set world.cluster.feed role rest
          manager := world.manager.watch event }
  /-- Any of the events that were put off comes back. -/
  | redeliver {world : World} (before : List (Nat × SecretEvent))
      {after : List (Nat × SecretEvent)} {due : Nat} {event : SecretEvent}
      (delayed : world.manager.delayed = before ++ (due, event) :: after) :
      Step settings world
        { world with
          manager.queue := world.manager.queue ++ [.redelivered event]
          manager.delayed := before ++ after }
  | attend {world : World} {now : Instant} {time : Nat} {effects : List Effect}
      {manager : Manager} {cluster : Cluster}
      (stepping : Leads (world.manager.step settings now time (world.upserts.inFlight 0)) effects
        manager)
      (exchanges : world.cluster.Exchanges effects cluster) :
      Step settings world { world with cluster, manager }

/-- Nothing has happened yet: both slots are empty, and there is no condition. -/
structure Initial (world : World) : Prop where
  slots : ∀ role : Role, world.cluster.secrets.get? role.slot = none
  feeds : ∀ role, world.cluster.feed role = []
  condition : world.cluster.config.condition Config.credentialType = .unset Config.credentialType
  followed : world.cluster.config.spec.Followed
  upserts : world.upserts = .single
  manager : world.manager = {}
  sourced : world.sourced = false

/-- The states that the system can get into. -/
inductive Reachable (settings : Settings) : World → Prop
  | initial {world : World} (initial : world.Initial) : Reachable settings world
  | step {world next : World} (before : Reachable settings world)
      (step : Step settings world next) : Reachable settings next

/-- Any number of the events that were put off may come back in their order. -/
theorem Reachable.redelivers {settings : Settings} {due rest : List (Nat × SecretEvent)}
    {world : World} (reachable : Reachable settings world)
    (delayed : world.manager.delayed = due ++ rest) :
    Reachable settings { world with
      manager.queue := world.manager.queue ++ due.map fun (_, event) => .redelivered event
      manager.delayed := rest } := by
  induction due generalizing world with
  | nil =>
    rw [List.nil_append] at delayed
    simpa [← delayed] using reachable
  | cons first due ih =>
    have returned := reachable.step (.redeliver [] delayed)
    simpa [List.append_assoc] using ih returned rfl

/-- The manager queues what has fallen due. -/
theorem Reachable.release {settings : Settings} {world : World}
    (reachable : Reachable settings world) (time : Nat) :
    Reachable settings { world with manager := world.manager.release time } :=
  reachable.redelivers List.takeWhile_append_dropWhile.symm

/-- The manager handles the first event of its queue, which comes straight from a watch, on the
configuration that is stored. -/
theorem Step.handle {settings : Settings} {world : World} {cluster : Cluster}
    {event : SecretEvent} {queue : List Delivery} {now : Instant} {effects : List Effect}
    {handled : Handled} (time : Nat) (queued : world.manager.queue = .watched event :: queue)
    (handling : Handling settings now (world.upserts.inFlight 0) world.cluster.config
      world.manager.retries event effects handled)
    (exchanges : world.cluster.Exchanges effects cluster) :
    Step settings world
      { world with
        cluster
        manager := world.manager.conclude queue (time + Manager.delay settings)
          (fate event handled.result, handled.retries) } :=
  have stepping := (Manager.leads_step_iff queued).mpr
    ⟨_, .brought (.watched event) (.handled handling), rfl⟩
  .attend stepping (.cons (.readConfig _) exchanges)

/-- No event is to be delivered, queued or put off. -/
structure Quiescent (world : World) : Prop where
  feeds : ∀ role, world.cluster.feed role = []
  queue : world.manager.queue = []
  delayed : world.manager.delayed = []

end World

/-! ## The view of a world -/

/-- The watch that an event comes from. -/
def SecretEvent.origin (event : SecretEvent) : Role := event.secret.role?.getD .replica

theorem SecretEvent.origin_eq {event : SecretEvent} {role : Role}
    (named : event.secret.role? = some role) : event.origin = role := by
  rw [origin, named]
  rfl

/-- The event of a delivery that comes straight from the watch of a slot. -/
def Delivery.from? (role : Role) : Delivery → Option SecretEvent
  | .watched event => if event.origin = role then some event else none
  | .redelivered _ => none

/-- What matters of a cluster and a manager. -/
def Cluster.view (cluster : Cluster) (manager : Manager) (sourced : Bool) : View where
  slot role := cluster.secrets.get? role.slot
  stream role := manager.queue.filterMap (Delivery.from? role) ++ cluster.feed role
  deferred := manager.Awaits
  status := (cluster.config.condition Config.credentialType).status
  message := (cluster.config.condition Config.credentialType).message
  sourced

/-- The view after the fate of an event. -/
def View.meet (view : View) : Fate → View
  | .deferred event => view.defer event
  | _ => view

namespace Cluster

variable {cluster : Cluster} {manager : Manager} {sourced : Bool} {role : Role} {secret : Secret}
  {event : SecretEvent} {queue : List Delivery}

/-! ### Changes of the cluster -/

theorem view_put (role : Role) :
    (cluster.put role.slot secret).view manager (sourced || role = .source) =
      (cluster.view manager sourced).put role secret := by
  ext1
  · funext other
    by_cases same : other = role
    · subst same
      simp [put, view]
    · have distinct : other.slot ≠ role.slot := fun h => same (Role.slot_injective h)
      simp [put, view, View.put, same, SecretMap.get?_put_of_ne distinct]
  · funext other
    by_cases same : other = role
    · subst same
      simp [put, tell, view, View.put]
    · have distinct : role ≠ other := Ne.symm same
      simp [put, tell, view, View.put, same, distinct]
  all_goals rfl

theorem view_erase (role : Role) : (cluster.erase role.slot).view manager sourced =
    (cluster.view manager sourced).erase role := by
  cases held : cluster.secrets.get? role.slot with
  | none =>
    have empty : (cluster.view manager sourced).slot role = none := held
    rw [erase, View.erase, held, empty]
  | some secret =>
    have full : (cluster.view manager sourced).slot role = some secret := held
    rw [erase, View.erase, held, full]
    ext1
    · funext other
      by_cases same : other = role
      · subst same
        simp [view]
      · have distinct : other.slot ≠ role.slot := fun h => same (Role.slot_injective h)
        simp [view, same, SecretMap.get?_erase_of_ne distinct]
    · funext other
      by_cases same : other = role
      · subst same
        simp [tell, view]
      · have distinct : role ≠ other := Ne.symm same
        simp [tell, view, same, distinct]
    all_goals rfl

/-- Recording that the condition was set sets it. -/
theorem view_record_settle (now : Instant) (status : ConditionStatus) :
    (cluster.record (cluster.config.settle now Config.credentialType status)).view manager sourced =
      (cluster.view manager sourced).settle status := by
  have recorded : (cluster.record (cluster.config.settle now Config.credentialType status)).config =
      cluster.config.settle now Config.credentialType status := rfl
  ext1
  · rfl
  · rfl
  · rfl
  · simp [view, recorded]
  · simp [view, recorded, View.settle]
  · rfl

/-! ### Changes of the manager -/

theorem view_putOff (due : Nat) : cluster.view (manager.putOff due event) sourced =
    (cluster.view manager sourced).defer event := by
  ext1
  · rfl
  · rfl
  · funext other
    refine propext ?_
    have perm := Manager.insertDelayed_perm due event manager.delayed
    simp only [view, View.defer, Manager.putOff, Manager.Awaits, perm.mem_iff, List.mem_cons,
      Prod.mk.injEq]
    constructor
    · rintro (queued | ⟨time, ⟨-, same⟩ | delayed⟩)
      · exact .inr (.inl queued)
      · exact .inl same
      · exact .inr (.inr ⟨time, delayed⟩)
    · rintro (same | queued | ⟨time, delayed⟩)
      · exact .inr ⟨due, .inl ⟨rfl, same⟩⟩
      · exact .inl queued
      · exact .inr ⟨time, .inr delayed⟩
  all_goals rfl

/-- What is left of the manager after its first delivery follows from the fate of the event. -/
theorem view_conclude (due : Nat) (result : Fate × UInt32) :
    cluster.view (manager.conclude queue due result) sourced =
      (cluster.view { manager with queue } sourced).meet result.1 := by
  obtain ⟨fate, retries⟩ := result
  cases fate with
  | deferred event => exact view_putOff due
  | _ => rfl

theorem view_watched (queued : manager.queue = .watched event :: queue) :
    cluster.view manager sourced =
      (cluster.view { manager with queue } sourced).lead event.origin event := by
  ext1
  · rfl
  · funext role
    by_cases same : role = event.origin
    · subst same
      simp [view, queued, Delivery.from?]
    · have distinct : event.origin ≠ role := Ne.symm same
      simp [view, queued, Delivery.from?, distinct, View.stream_lead_of_ne same]
  · funext other
    simp [view, View.lead, Manager.Awaits, queued]
  all_goals rfl

theorem view_redelivered (queued : manager.queue = .redelivered event :: queue) :
    cluster.view manager sourced =
      (cluster.view { manager with queue } sourced).defer event := by
  ext1
  · rfl
  · funext role
    simp [view, queued, List.filterMap_cons, Delivery.from?]
  · funext other
    simp [view, View.defer, Manager.Awaits, queued, or_assoc]
  all_goals rfl

/-- The delivery of an event by its watch does not change the view. -/
theorem view_watch {rest : List SecretEvent} (fed : cluster.feed role = event :: rest)
    (origin : event.origin = role) :
    { cluster with feed := Role.set cluster.feed role rest }.view (manager.watch event)
      sourced = cluster.view manager sourced := by
  ext1
  · rfl
  · funext other
    by_cases same : other = role
    · subst same
      simp [view, Manager.watch, Delivery.from?, origin, fed]
    · have distinct : role ≠ other := Ne.symm same
      simp [view, Manager.watch, Delivery.from?, origin, same, distinct]
  · funext other
    simp [view, Manager.Awaits, Manager.watch]
  all_goals rfl

/-- The return of an event that was put off does not change the view. -/
theorem view_redeliver {before after : List (Nat × SecretEvent)} {due : Nat}
    (delayed : manager.delayed = before ++ (due, event) :: after) :
    cluster.view { manager with
      queue := manager.queue ++ [.redelivered event]
      delayed := before ++ after } sourced = cluster.view manager sourced := by
  ext1
  · rfl
  · funext role
    simp [view, Delivery.from?]
  · funext other
    refine propext ?_
    simp only [view, Manager.Awaits, delayed, List.mem_append, List.mem_cons,
      Delivery.redelivered.injEq, List.not_mem_nil, or_false, Prod.mk.injEq]
    constructor
    · rintro ((queued | rfl) | ⟨time, early | late⟩)
      · exact .inl queued
      · exact .inr ⟨due, .inr (.inl ⟨rfl, rfl⟩)⟩
      · exact .inr ⟨time, .inl early⟩
      · exact .inr ⟨time, .inr (.inr late)⟩
    · rintro (queued | ⟨time, early | ⟨-, same⟩ | late⟩)
      · exact .inl (.inl queued)
      · exact .inr ⟨time, .inl early⟩
      · exact .inl (.inr same)
      · exact .inr ⟨time, .inr late⟩
  all_goals rfl

end Cluster

end PullSecretSync
