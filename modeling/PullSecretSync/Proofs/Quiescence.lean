import PullSecretSync.Proofs.Contract
import PullSecretSync.Proofs.Preservation

/-!
# Consistency at rest

Every step of the system keeps the view sound, so a state in which no event is left to be handled
is consistent: the replica is the copy of the pull secret, or absent with it, and the condition
says which. Stale events, events put off for upserts, repeated deletions and statuses that could
not be written may come in any order and any number on the way.
-/

namespace PullSecretSync

open Sync

namespace World

variable {settings : Settings} {world next : World}

/-- The view of a world. -/
abbrev view (world : World) : View := world.cluster.view world.manager world.sourced

/-- What every reachable world keeps to. -/
structure Coherent (settings : Settings) (world : World) : Prop where
  sound : world.view.Sound settings.version
  followed : world.cluster.config.spec.Followed

theorem Initial.coherent (initial : world.Initial) : world.Coherent settings := by
  have streams : ∀ role, world.view.stream role = [] := by
    intro role
    simp [view, Cluster.view, initial.feeds role, initial.manager]
  have nothing : ∀ event, ¬ world.view.deferred event := by
    rintro event (queued | ⟨due, delayed⟩)
    · simp [initial.manager] at queued
    · simp [initial.manager] at delayed
  have slots : ∀ role, world.view.slot role = none := initial.slots
  have status : world.view.status = .unknown := congrArg Condition.status initial.condition
  refine ⟨⟨⟨?_, ?_, ?_, ?_⟩, ?_, ?_, ?_, ?_, ?_⟩, initial.followed⟩
  · intro role event streamed
    simp [streams role] at streamed
  · exact fun event deferred => absurd deferred (nothing event)
  · intro role secret present
    simp [slots role] at present
  · intro role event last
    simp [streams role] at last
  · intro secret present
    simp [slots] at present
  · exact fun _ => .inl (slots .replica)
  · exact fun _ => .inl (by simp [status])
  · intro _ past
    have never : world.view.sourced = false := initial.sourced
    simp [never] at past
  · exact congrArg Condition.message initial.condition

theorem Coherent.step (coherent : world.Coherent settings) (step : Step settings world next) :
    next.Coherent settings := by
  obtain ⟨sound, followed⟩ := coherent
  cases step with
  | @putSource secret named =>
    have fits : Role.source.Fits secret := by
      refine ⟨?_, by simp⟩
      rw [Secret.role?, named, Option.bind_some]
      exact Role.role?_slot .source
    have seen : (world.cluster.put .source secret).view world.manager true =
        world.view.put .source secret := by
      rw [← Cluster.view_put .source]
      simp [Role.slot]
    refine ⟨?_, followed⟩
    change ((world.cluster.put .source secret).view world.manager true).Sound settings.version
    rw [seen]
    exact sound.put_source fits
  | removeSource =>
    refine ⟨?_, by rwa [Cluster.config_erase]⟩
    change ((world.cluster.erase Role.source.slot).view _ _).Sound settings.version
    rw [Cluster.view_erase]
    exact sound.erase_source
  | removeReplica =>
    refine ⟨?_, by rwa [Cluster.config_erase]⟩
    change ((world.cluster.erase Role.replica.slot).view _ _).Sound settings.version
    rw [Cluster.view_erase]
    exact sound.erase_replica
  | configure followed => exact ⟨sound, followed⟩
  | beginUpsert => exact ⟨sound, followed⟩
  | endUpsert => exact ⟨sound, followed⟩
  | @deliver role event rest fed =>
    have streamed : event ∈ world.view.stream role := by
      simp [Cluster.view, fed]
    have origin := SecretEvent.origin_eq (sound.streamed role event streamed).named
    refine ⟨?_, followed⟩
    change (Cluster.view _ (world.manager.watch event) world.sourced).Sound settings.version
    rw [Cluster.view_watch fed origin]
    exact sound
  | redeliver before delayed =>
    refine ⟨?_, followed⟩
    change (Cluster.view world.cluster _ world.sourced).Sound settings.version
    rw [Cluster.view_redeliver delayed]
    exact sound
  | attend stepping exchanges =>
    obtain ⟨sound, spec⟩ := exchanges.stepping stepping followed sound
    exact ⟨sound, spec ▸ followed⟩

theorem Reachable.coherent (reachable : Reachable settings world) : world.Coherent settings := by
  induction reachable with
  | initial initial => exact initial.coherent
  | step _ step ih => exact ih.step step

/-- The slot of the replica holds a stamped copy of all that the pull secret has to pass on, or
nothing where there is no pull secret, and the condition says which, without a message. It is
unknown only as long as there never was a pull secret. -/
structure Consistent (version : String) (world : World) : Prop where
  copied : ∀ secret, world.cluster.secrets.get? .source = some secret →
    world.cluster.secrets.HoldsReplica secret version
  withdrawn : world.cluster.secrets.get? .source = none →
    world.cluster.secrets.get? .replica = none
  holds : (world.cluster.config.condition Config.credentialType).status = .holds ↔
    (world.cluster.secrets.get? .source).isSome = true
  unknown : (world.cluster.config.condition Config.credentialType).status = .unknown →
    world.sourced = false
  silent : (world.cluster.config.condition Config.credentialType).message = ""

/-- At rest nothing is expected. -/
theorem Quiescent.not_expects (quiescent : world.Quiescent) (role : Role) (deleted : Bool) :
    ¬ world.view.Expects role deleted := by
  rintro ⟨event, streamed | queued | ⟨due, delayed⟩, -⟩
  · simp [view, Cluster.view, quiescent.queue, quiescent.feeds role] at streamed
  · simp [quiescent.queue] at queued
  · simp [quiescent.delayed] at delayed

/-- Without a pull secret there is no replica at rest, and the condition tells of none. -/
theorem Coherent.consistent_of_absent (coherent : world.Coherent settings)
    (quiescent : world.Quiescent) (absent : world.cluster.secrets.get? .source = none) :
    world.Consistent settings.version := by
  have sound := coherent.sound
  have rest := quiescent.not_expects
  have empty : world.view.slot .source = none := absent
  have unheld : world.cluster.secrets.get? .replica = none :=
    (sound.withdrawn empty).resolve_right (rest _ _)
  have denied : (world.cluster.config.condition Config.credentialType).status ≠ .holds :=
    (sound.denied empty).resolve_right (by simp [rest])
  refine ⟨by simp [absent], fun _ => unheld, by simpa [absent] using denied, ?_, sound.silent⟩
  intro unknown
  cases past : world.sourced with
  | false => rfl
  | true => exact absurd unknown ((sound.known empty past).resolve_right (rest _ _))

/-- A pull secret is copied at rest, and the condition tells of it. -/
theorem Coherent.consistent_of_present (coherent : world.Coherent settings)
    (quiescent : world.Quiescent) {secret : Secret}
    (present : world.cluster.secrets.get? .source = some secret) :
    world.Consistent settings.version := by
  have sound := coherent.sound
  have held : world.view.slot .source = some secret := present
  obtain ⟨copy, holds⟩ :=
    (sound.copied secret held).resolve_right (by simp [quiescent.not_expects])
  have holds : (world.cluster.config.condition Config.credentialType).status = .holds := holds
  refine ⟨?_, by simp [present], by simp [present, holds], by simp [holds], sound.silent⟩
  intro other found
  obtain rfl := Option.some.inj (present.symm.trans found)
  exact SecretMap.holdsReplica_iff.mpr copy

theorem Coherent.consistent_at_rest (coherent : world.Coherent settings)
    (quiescent : world.Quiescent) : world.Consistent settings.version := by
  cases held : world.cluster.secrets.get? .source with
  | none => exact coherent.consistent_of_absent quiescent held
  | some secret => exact coherent.consistent_of_present quiescent held

/-- **Every state that the system can get into, and in which no event is left, is consistent.** -/
theorem consistent_of_quiescent (reachable : Reachable settings world)
    (quiescent : world.Quiescent) : world.Consistent settings.version :=
  reachable.coherent.consistent_at_rest quiescent

/-- A pull secret is put into its slot, seen and copied, and the copy is seen: this is a state at
rest, and it is consistent. -/
theorem consistent_after_first_copy :
    ∃ world : World, Reachable ⟨"4.1.0", "cluster", 3, 5⟩ world ∧ world.Quiescent ∧
      (world.cluster.secrets.get? .source).isSome = true ∧ world.Consistent "4.1.0" := by
  let settings : Settings := ⟨"4.1.0", "cluster", 3, 5⟩
  let now : Instant := ⟨0, 0⟩
  let secret : Secret := { metadata := { name := some "coreos-pull-secret",
                                         space := some "kube-system" } }
  let start : World := { cluster := { config := .new "cluster" {} } }
  have initial : start.Initial :=
    ⟨fun _ => rfl, fun _ => rfl, rfl, by constructor <;> decide, rfl, rfl, rfl⟩
  let put : World := { start with cluster := start.cluster.put .source secret, sourced := true }
  have reached : Reachable settings put := .step (.initial initial) (.putSource rfl)
  let seen : World := { put with
    cluster.feed := Role.set put.cluster.feed .source []
    manager := put.manager.watch (.applied secret) }
  have reached : Reachable settings seen := reached.step (.deliver rfl)
  let holding := seen.cluster.config.settle now Config.credentialType .holds
  let copied : World := { seen with
    cluster :=
      (seen.cluster.after (.create Slot.replica.space (secret.replica "4.1.0"))).record holding
    manager := {} }
  have managing : Managing settings.version now seen.cluster.config (.applied secret)
      [.create "4.1.0" secret (.ok (secret.replica "4.1.0"))] (.ok holding) :=
    .copied rfl rfl (.given (.created _))
  have handling : Handling settings now (seen.upserts.inFlight 0) seen.cluster.config 0
      (.applied secret) _ _ := .turned (by decide) managing (by decide) (.ok ())
  have copying : Step settings seen copied :=
    .handle 0 rfl handling (.cons (.store _) (.cons (.written _) (.nil _)))
  let told : World := { copied with
    cluster.feed := Role.set copied.cluster.feed .replica []
    manager := copied.manager.watch (.applied (secret.replica "4.1.0")) }
  have reached : Reachable settings told := (reached.step copying).step (.deliver rfl)
  let rest : World := { told with manager := {} }
  have handling : Handling settings now (told.upserts.inFlight 0) told.cluster.config 0
      (.applied (secret.replica "4.1.0")) _ _ := .acknowledged (by decide) (by decide)
  have acknowledging : Step settings told rest := .handle 0 rfl handling (.nil _)
  have reached : Reachable settings rest := reached.step acknowledging
  have quiescent : rest.Quiescent := ⟨by intro role; cases role <;> rfl, rfl, rfl⟩
  have consistent := consistent_of_quiescent reached quiescent
  exact ⟨rest, reached, quiescent, consistent.holds.mp rfl, consistent⟩

end World

end PullSecretSync
