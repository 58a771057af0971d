import PullSecretSync.Proofs.Copying
import PullSecretSync.Proofs.Role
import PullSecretSync.Sync.Transition

/-!
# The view of a cluster under synchronisation

What matters for the consistency of the two slots: what they hold, the state of the condition, and
the events that are still to be handled. The events of each slot come in a stream, in the order in
which they happened; events that were put off come back at any time. `Sound` says which of these
events makes up for each disagreement between the slots and the condition, and is kept by every
change of a slot and by handling any event.
-/

namespace PullSecretSync

/-- What a slot holds after an event on its secret. -/
def SecretEvent.leaves (event : SecretEvent) : Option Secret :=
  if event.deleted then none else some event.secret

/-- A secret that may be in the slot of a role: it names the slot, and a replica is stamped. -/
structure Role.Fits (role : Role) (secret : Secret) : Prop where
  named : secret.role? = some role
  stamped : role = Role.replica → secret.stamped = true

theorem Role.fits_replica (secret : Secret) (version : String) :
    Role.replica.Fits (secret.replica version) :=
  ⟨secret.role?_replica version, fun _ => secret.stamped_replica version⟩

theorem Role.Fits.eq {role other : Role} {secret : Secret} (fits : role.Fits secret)
    (named : secret.role? = some other) : role = other :=
  Option.some.inj (fits.named.symm.trans named)

/-- The two slots, the condition, and the events that are to be handled. -/
@[ext] structure View where
  slot : Role → Option Secret
  /-- The events from the watch of each slot, oldest first. -/
  stream : Role → List SecretEvent
  /-- The events that were put off. -/
  deferred : SecretEvent → Prop
  status : ConditionStatus
  message : String
  /-- Whether there was a pull secret at any time. -/
  sourced : Bool

namespace View

/-- Write a secret into the slot of a role. -/
def put (view : View) (role : Role) (secret : Secret) : View :=
  { view with
    slot := Role.set view.slot role (some secret)
    stream := Role.set view.stream role (view.stream role ++ [.applied secret])
    sourced := view.sourced || role = .source }

/-- Empty the slot of a role. -/
def erase (view : View) (role : Role) : View :=
  match view.slot role with
  | some secret => { view with
      slot := Role.set view.slot role none
      stream := Role.set view.stream role (view.stream role ++ [.removed secret]) }
  | none => view

/-- Set the condition. -/
def settle (view : View) (status : ConditionStatus) : View := { view with status, message := "" }

/-- Put an event off. -/
def defer (view : View) (event : SecretEvent) : View :=
  { view with deferred := fun other => other = event ∨ view.deferred other }

/-- Have an event before all others of its stream. -/
def lead (view : View) (role : Role) (event : SecretEvent) : View :=
  { view with stream := Role.set view.stream role (event :: view.stream role) }

/-- Some event on a role is to be handled, a deletion or not. -/
def Expects (view : View) (role : Role) (deleted : Bool) : Prop :=
  ∃ event, (event ∈ view.stream role ∨ view.deferred event) ∧
    event.secret.role? = some role ∧ event.deleted = deleted

/-- The events that are to be handled tell of the slots they come from, and the last event of a
stream tells what its slot holds. -/
structure Formed (view : View) : Prop where
  streamed : ∀ role, ∀ event ∈ view.stream role, role.Fits event.secret
  deferred : ∀ event, view.deferred event → ∃ role : Role, role.Fits event.secret
  held : ∀ role secret, view.slot role = some secret → role.Fits secret
  latest : ∀ role event, (view.stream role).getLast? = some event →
    view.slot role = event.leaves

/-- Each disagreement between the slots and the condition is made up for by an event that is still
to be handled. -/
structure Sound (version : String) (view : View) : Prop extends Formed view where
  /-- A pull secret that is not copied, or not known to be, is still to be seen, or else the
  deletion of its replica is. -/
  copied : ∀ secret, view.slot .source = some secret →
    (view.slot .replica = some (secret.replica version) ∧ view.status = .holds) ∨
      view.Expects .source false ∨ view.Expects .replica true
  /-- A replica without a pull secret is still to be deleted. -/
  withdrawn : view.slot .source = none →
    view.slot .replica = none ∨ view.Expects .source true
  /-- That the condition holds without a pull secret is still to be corrected. -/
  denied : view.slot .source = none →
    view.status ≠ .holds ∨ view.Expects .source true ∨ view.Expects .replica true
  /-- That there is no pull secret any more is still to be found out. -/
  known : view.slot .source = none → view.sourced = true →
    view.status ≠ .unknown ∨ view.Expects .source true
  silent : view.message = ""

variable {version : String} {view : View} {role other : Role} {event : SecretEvent}
  {secret : Secret} {deleted : Bool} {status : ConditionStatus}

@[simp] theorem slot_settle : (view.settle status).slot = view.slot := rfl

@[simp] theorem status_settle : (view.settle status).status = status := rfl

@[simp] theorem slot_defer : (view.defer event).slot = view.slot := rfl

@[simp] theorem stream_defer : (view.defer event).stream = view.stream := rfl

@[simp] theorem stream_lead_self :
    (view.lead role event).stream role = event :: view.stream role := by
  simp [lead]

theorem stream_lead_of_ne (hne : other ≠ role) :
    (view.lead role event).stream other = view.stream other := by
  simp [lead, hne]

/-! ## What is expected -/

@[simp] theorem expects_settle :
    (view.settle status).Expects role deleted ↔ view.Expects role deleted := .rfl

/-- Putting an event off has it expected. -/
theorem expects_defer_iff : (view.defer event).Expects role deleted ↔
    view.Expects role deleted ∨ (event.secret.role? = some role ∧ event.deleted = deleted) := by
  constructor
  · rintro ⟨expected, streamed | rfl | put, h⟩
    · exact .inl ⟨expected, .inl streamed, h⟩
    · exact .inr h
    · exact .inl ⟨expected, .inr put, h⟩
  · rintro (⟨expected, streamed | put, h⟩ | h)
    · exact ⟨expected, .inl streamed, h⟩
    · exact ⟨expected, .inr (.inr put), h⟩
    · exact ⟨event, .inr (.inl rfl), h⟩

/-- An event that was put off is expected. -/
theorem expects_defer_self (named : event.secret.role? = some role)
    (same : event.deleted = deleted) : (view.defer event).Expects role deleted :=
  expects_defer_iff.mpr (.inr ⟨named, same⟩)

/-- Putting a secret into a slot leaves what is expected. -/
theorem Expects.put (h : view.Expects role deleted) (other : Role) (secret : Secret) :
    (view.put other secret).Expects role deleted := by
  obtain ⟨event, streamed | put, h⟩ := h
  · refine ⟨event, .inl ?_, h⟩
    by_cases same : role = other
    · subst same
      simp [View.put, streamed]
    · simp [View.put, same, streamed]
  · exact ⟨event, .inr put, h⟩

/-- Emptying a slot leaves what is expected. -/
theorem Expects.erase (h : view.Expects role deleted) (other : Role) :
    (view.erase other).Expects role deleted := by
  rw [View.erase]
  split
  · obtain ⟨event, streamed | put, h⟩ := h
    · refine ⟨event, .inl ?_, h⟩
      by_cases same : role = other
      · subst same
        simp [streamed]
      · simp [same, streamed]
    · exact ⟨event, .inr put, h⟩
  · exact h

/-- A secret that is put into a slot is expected to be seen. -/
theorem expects_put_self (fits : role.Fits secret) : (view.put role secret).Expects role false :=
  ⟨.applied secret, .inl (by simp [View.put]), fits.named, rfl⟩

/-- That a secret was taken out of a slot is expected to be seen. -/
theorem expects_erase_self (formed : view.Formed) (present : view.slot role = some secret) :
    (view.erase role).Expects role true := by
  refine ⟨.removed secret, .inl ?_, (formed.held role secret present).named, rfl⟩
  simp [View.erase, present]

/-- As long as a stream goes on, an event is expected that tells what its slot holds. -/
theorem Formed.expects_of_stream_ne_nil (formed : view.Formed) (goesOn : view.stream role ≠ []) :
    view.Expects role (view.slot role).isNone := by
  have last := List.getLast?_eq_some_getLast goesOn
  have streamed := List.getLast_mem goesOn
  refine ⟨_, .inl streamed, (formed.streamed role _ streamed).named, ?_⟩
  rw [formed.latest role _ last, SecretEvent.leaves]
  split <;> simp_all

/-! ## Changes of the slots -/

/-- Writing a fitting secret keeps the view formed. -/
theorem Formed.put (formed : view.Formed) (fits : role.Fits secret) :
    (view.put role secret).Formed where
  streamed other event streamed := by
    by_cases same : other = role
    · subst same
      simp only [View.put, Role.set_self, List.mem_append, List.mem_singleton] at streamed
      rcases streamed with old | rfl
      · exact formed.streamed other event old
      · exact fits
    · simp only [View.put, Role.set_of_ne same] at streamed
      exact formed.streamed other event streamed
  deferred := formed.deferred
  held other held present := by
    by_cases same : other = role
    · subst same
      simp only [View.put, Role.set_self, Option.some.injEq] at present
      exact present ▸ fits
    · simp only [View.put, Role.set_of_ne same] at present
      exact formed.held other held present
  latest other event last := by
    by_cases same : other = role
    · subst same
      simp only [View.put, Role.set_self, List.getLast?_concat, Option.some.injEq] at last ⊢
      subst last
      rfl
    · simp only [View.put, Role.set_of_ne same] at last ⊢
      exact formed.latest other event last

/-- Emptying a slot keeps the view formed. -/
theorem Formed.erase (formed : view.Formed) (role : Role) : (view.erase role).Formed := by
  rw [View.erase]
  split
  · rename_i secret present
    have fits := formed.held role secret present
    refine ⟨?_, formed.deferred, ?_, ?_⟩
    · intro other event streamed
      by_cases same : other = role
      · subst same
        simp only [Role.set_self, List.mem_append, List.mem_singleton] at streamed
        rcases streamed with old | rfl
        · exact formed.streamed other event old
        · exact fits
      · simp only [Role.set_of_ne same] at streamed
        exact formed.streamed other event streamed
    · intro other held present
      by_cases same : other = role
      · subst same
        simp at present
      · simp only [Role.set_of_ne same] at present
        exact formed.held other held present
    · intro other event last
      by_cases same : other = role
      · subst same
        simp only [Role.set_self, List.getLast?_concat, Option.some.injEq] at last ⊢
        subst last
        rfl
      · simp only [Role.set_of_ne same] at last ⊢
        exact formed.latest other event last
  · exact formed

@[simp] theorem slot_put_self : (view.put role secret).slot role = some secret := by
  simp [View.put]

theorem slot_put_of_ne (hne : other ≠ role) :
    (view.put role secret).slot other = view.slot other := by
  simp [View.put, hne]

theorem stream_put_of_ne (hne : other ≠ role) :
    (view.put role secret).stream other = view.stream other := by
  simp [View.put, hne]

@[simp] theorem slot_erase_self : (view.erase role).slot role = none := by
  rw [View.erase]
  split
  · simp
  · assumption

theorem slot_erase_of_ne (hne : other ≠ role) : (view.erase role).slot other = view.slot other := by
  rw [View.erase]
  split
  · simp [hne]
  · rfl

theorem erase_defer : (view.defer event).erase role = (view.erase role).defer event := by
  simp only [View.erase, slot_defer]
  split <;> rfl

@[simp] theorem status_erase : (view.erase role).status = view.status := by
  rw [View.erase]
  split <;> rfl

@[simp] theorem message_erase : (view.erase role).message = view.message := by
  rw [View.erase]
  split <;> rfl

@[simp] theorem sourced_erase : (view.erase role).sourced = view.sourced := by
  rw [View.erase]
  split <;> rfl

/-- A pull secret may be written at any time: it is going to be seen. -/
theorem Sound.put_source (sound : view.Sound version) (fits : Role.source.Fits secret) :
    (view.put .source secret).Sound version where
  toFormed := sound.toFormed.put fits
  copied _ _ := .inr (.inl (expects_put_self fits))
  withdrawn absent := by simp at absent
  denied absent := by simp at absent
  known absent := by simp at absent
  silent := sound.silent

/-- The pull secret may be deleted at any time: its deletion is going to be seen. -/
theorem Sound.erase_source (sound : view.Sound version) : (view.erase .source).Sound version := by
  cases present : view.slot .source with
  | none =>
    have same : view.erase .source = view := by rw [View.erase, present]
    rwa [same]
  | some secret =>
    have expected := expects_erase_self sound.toFormed present
    refine ⟨sound.toFormed.erase .source, ?_, ?_, ?_, ?_, ?_⟩
    · intro secret present
      simp at present
    · exact fun _ => .inr expected
    · exact fun _ => .inr (.inl expected)
    · exact fun _ _ => .inr expected
    · rw [message_erase]
      exact sound.silent

/-- The replica may be deleted at any time: its deletion is going to be seen. -/
theorem Sound.erase_replica (sound : view.Sound version) :
    (view.erase .replica).Sound version := by
  have source : (view.erase .replica).slot .source = view.slot .source :=
    slot_erase_of_ne (by decide)
  refine ⟨sound.toFormed.erase .replica, ?_, ?_, ?_, ?_, ?_⟩
  · intro secret present
    rw [source] at present
    rcases sound.copied secret present with ⟨copy, -⟩ | seen | gone
    · exact .inr (.inr (expects_erase_self sound.toFormed copy))
    · exact .inr (.inl (seen.erase _))
    · exact .inr (.inr (gone.erase _))
  · exact fun _ => .inl slot_erase_self
  · intro absent
    rw [source] at absent
    rw [status_erase]
    exact (sound.denied absent).imp id (Or.imp (·.erase _) (·.erase _))
  · intro absent past
    rw [source] at absent
    rw [sourced_erase] at past
    rw [status_erase]
    exact (sound.known absent past).imp id (·.erase _)
  · rw [message_erase]
    exact sound.silent

/-- A replica may be written while the event that will confirm or withdraw it is still to be
handled. -/
theorem Sound.put_replica (sound : view.Sound version) (fits : Role.replica.Fits secret)
    (confirmed : view.slot .source ≠ none →
      view.Expects .source false ∨ view.Expects .replica true)
    (withdrawn : view.slot .source = none → view.Expects .source true) :
    (view.put .replica secret).Sound version where
  toFormed := sound.toFormed.put fits
  copied source present := by
    rw [slot_put_of_ne (by decide)] at present
    exact .inr ((confirmed (by simp [present])).imp (·.put _ _) (·.put _ _))
  withdrawn absent := by
    rw [slot_put_of_ne (by decide)] at absent
    exact .inr ((withdrawn absent).put _ _)
  denied absent := by
    rw [slot_put_of_ne (by decide)] at absent
    exact .inr (.inl ((withdrawn absent).put _ _))
  known absent _ := by
    rw [slot_put_of_ne (by decide)] at absent
    exact .inr ((withdrawn absent).put _ _)
  silent := sound.silent

/-! ## Handling an event -/

/-- Unless the stream goes on, the event tells what its slot holds. -/
def Timely (view : View) (role : Role) (event : SecretEvent) : Prop :=
  view.stream role = [] → view.slot role = event.leaves

/-- An event whose secret is not the one in its slot by now is followed by one that tells what is
there. -/
theorem Formed.expects_of_outdated (formed : view.Formed) (timely : view.Timely role event)
    (kept : event.deleted = false) (outdated : view.slot role ≠ some event.secret) :
    view.Expects role (view.slot role).isNone := by
  refine formed.expects_of_stream_ne_nil fun ended => outdated ?_
  rw [timely ended, SecretEvent.leaves, kept]
  rfl

/-- Writing the replica does not make an event on the pull secret untimely. -/
theorem Timely.put_replica (timely : view.Timely .source event) (secret : Secret) :
    (view.put .replica secret).Timely .source event := by
  intro ended
  rw [stream_put_of_ne (by decide)] at ended
  rw [slot_put_of_ne (by decide)]
  exact timely ended

/-- The first event of a stream may be put off. -/
theorem Sound.defer_of_lead (sound : (view.lead role event).Sound version) :
    (view.defer event).Sound version ∧ role.Fits event.secret ∧ view.Timely role event := by
  have first : event ∈ (view.lead role event).stream role := by simp
  have fits := sound.streamed role event first
  have expects : ∀ {other deleted}, (view.lead role event).Expects other deleted →
      (view.defer event).Expects other deleted := by
    rintro other deleted ⟨expected, streamed | put, h⟩
    · by_cases same : other = role
      · subst same
        rw [stream_lead_self, List.mem_cons] at streamed
        rcases streamed with rfl | streamed
        · exact ⟨expected, .inr (.inl rfl), h⟩
        · exact ⟨expected, .inl streamed, h⟩
      · rw [stream_lead_of_ne same] at streamed
        exact ⟨expected, .inl streamed, h⟩
    · exact ⟨expected, .inr (.inr put), h⟩
  refine ⟨⟨⟨?_, ?_, sound.held, ?_⟩, ?_, ?_, ?_, ?_, sound.silent⟩, fits, ?_⟩
  · intro other later streamed
    refine sound.streamed other later ?_
    by_cases same : other = role
    · subst same
      rw [stream_lead_self]
      exact List.mem_cons_of_mem _ streamed
    · rwa [stream_lead_of_ne same]
  · rintro other (rfl | put)
    · exact ⟨role, fits⟩
    · exact sound.deferred other put
  · intro other last h
    rw [stream_defer] at h
    refine sound.latest other last ?_
    by_cases same : other = role
    · subst same
      rw [stream_lead_self, List.getLast?_cons, h]
      rfl
    · rw [stream_lead_of_ne same, h]
  · exact fun secret present => (sound.copied secret present).imp id (Or.imp expects expects)
  · exact fun absent => (sound.withdrawn absent).imp id expects
  · exact fun absent => (sound.denied absent).imp id (Or.imp expects expects)
  · exact fun absent past => (sound.known absent past).imp id expects
  · intro ended
    exact sound.latest role event (by simp [ended])

/-- What remains formed when an event that was put off is handled. -/
theorem Formed.of_defer (formed : (view.defer event).Formed) : view.Formed :=
  ⟨formed.streamed, fun other put => formed.deferred other (.inr put), formed.held, formed.latest⟩

/-- The condition does not matter to what a view is formed of. -/
theorem Formed.settle (formed : view.Formed) (status : ConditionStatus) :
    (view.settle status).Formed :=
  ⟨formed.streamed, formed.deferred, formed.held, formed.latest⟩

/-- An event that was handled is not expected any more. -/
private theorem expects_of_defer (expected : (view.defer event).Expects other deleted)
    (differs : event.secret.role? ≠ some other ∨ event.deleted ≠ deleted) :
    view.Expects other deleted := by
  rcases expects_defer_iff.mp expected with expected | ⟨sameRole, sameDeleted⟩
  · exact expected
  · rcases differs with differs | differs
    · exact absurd sameRole differs
    · exact absurd sameDeleted differs

/-- The replica was seen: the condition holds. If there is no pull secret the replica is still to
be deleted, or its deletion is still to be seen. -/
theorem Sound.acknowledge (sound : (view.defer event).Sound version)
    (fits : Role.replica.Fits event.secret) (kept : event.deleted = false)
    (timely : view.Timely .replica event) : (view.settle .holds).Sound version := by
  have formed := sound.toFormed.of_defer
  have onReplica : event.secret.role? ≠ some .source := by simp [fits.named]
  refine ⟨formed.settle _, ?_, ?_, ?_, ?_, rfl⟩
  · intro secret present
    rcases sound.copied secret present with ⟨copy, -⟩ | seen | gone
    · exact .inl ⟨copy, rfl⟩
    · exact .inr (.inl (expects_of_defer seen (.inl onReplica)))
    · exact .inr (.inr (expects_of_defer gone (.inr (by simp [kept]))))
  · intro absent
    exact (sound.withdrawn absent).imp id (expects_of_defer · (.inl onReplica))
  · intro absent
    rcases sound.withdrawn absent with empty | gone
    · rw [slot_defer] at empty
      have expected := formed.expects_of_outdated timely kept (by simp [empty])
      rw [empty] at expected
      exact .inr (.inr expected)
    · exact .inr (.inl (expects_of_defer gone (.inl onReplica)))
  · exact fun _ _ => .inl (by simp)

/-- The pull secret was seen and copied: the condition holds. If it was not the pull secret as it
is now, that is still to be seen. -/
theorem Sound.copy (sound : (view.defer event).Sound version)
    (kept : event.deleted = false)
    (timely : view.Timely .source event)
    (copied : view.slot .replica = some (event.secret.replica version)) :
    (view.settle .holds).Sound version := by
  have formed := sound.toFormed.of_defer
  have deleted : view.slot .source = none → view.Expects .source true := by
    intro absent
    have expected := formed.expects_of_outdated timely kept (by simp [absent])
    rwa [absent] at expected
  refine ⟨formed.settle _, ?_, ?_, ?_, ?_, rfl⟩
  · intro secret present
    rw [slot_settle] at present
    by_cases same : secret = event.secret
    · exact .inl ⟨same ▸ copied, rfl⟩
    · have expected := formed.expects_of_outdated timely kept (by simpa [present] using same)
      rw [present] at expected
      exact .inr (.inl expected)
  · exact fun absent => .inr (deleted absent)
  · exact fun absent => .inr (.inl (deleted absent))
  · exact fun absent _ => .inr (deleted absent)

/-- The pull secret was deleted, and its replica with it: the condition fails. -/
theorem Sound.withdraw (sound : (view.defer event).Sound version)
    (removed : event.deleted = true) (fits : Role.source.Fits event.secret)
    (empty : view.slot .replica = none) : (view.settle .fails).Sound version := by
  have formed := sound.toFormed.of_defer
  refine ⟨formed.settle _, ?_, ?_, ?_, ?_, rfl⟩
  · intro secret present
    rcases sound.copied secret present with ⟨copy, -⟩ | seen | gone
    · rw [slot_defer, empty] at copy
      cases copy
    · exact .inr (.inl (expects_of_defer seen (.inr (by simp [removed]))))
    · exact .inr (.inr (expects_of_defer gone (.inl (by simp [fits.named]))))
  · exact fun _ => .inl empty
  · exact fun _ => .inl (by simp)
  · exact fun _ _ => .inl (by simp)

/-- The replica was deleted and written again: the condition holds. -/
theorem Sound.restore (sound : (view.defer event).Sound version)
    (present : view.slot .source = some secret)
    (copied : view.slot .replica = some (secret.replica version)) :
    (view.settle .holds).Sound version := by
  have formed := sound.toFormed.of_defer
  have notAbsent : (view.settle .holds).slot .source ≠ none := by simp [present]
  refine ⟨formed.settle _, ?_, ?_, ?_, ?_, rfl⟩
  · intro source held
    have same : secret = source := Option.some.inj (present.symm.trans held)
    exact .inl ⟨same ▸ copied, rfl⟩
  · exact fun absent => absurd absent notAbsent
  · exact fun absent => absurd absent notAbsent
  · exact fun absent => absurd absent notAbsent

/-- The replica was deleted and there is no pull secret: the condition fails. -/
theorem Sound.orphan (sound : (view.defer event).Sound version)
    (fits : Role.replica.Fits event.secret) (absent : view.slot .source = none) :
    (view.settle .fails).Sound version := by
  have formed := sound.toFormed.of_defer
  have onReplica : event.secret.role? ≠ some .source := by simp [fits.named]
  refine ⟨formed.settle _, ?_, ?_, ?_, ?_, rfl⟩
  · intro secret present
    rw [slot_settle, absent] at present
    cases present
  · exact fun absent => (sound.withdrawn absent).imp id (expects_of_defer · (.inl onReplica))
  · exact fun _ => .inl (by simp)
  · exact fun _ _ => .inl (by simp)

/-- An event on a secret that has vanished is not needed: its deletion tells more. -/
theorem Sound.drop (sound : (view.defer event).Sound version) (fits : role.Fits event.secret)
    (kept : event.deleted = false) (vanished : view.slot role = none) : view.Sound version := by
  have formed := sound.toFormed.of_defer
  have notTrue : event.deleted ≠ true := by simp [kept]
  refine ⟨formed, ?_, ?_, ?_, ?_, sound.silent⟩
  · intro secret present
    have elsewhere : event.secret.role? ≠ some .source := by
      intro onSource
      rw [fits.eq onSource, present] at vanished
      cases vanished
    exact (sound.copied secret present).imp id (Or.imp (expects_of_defer · (.inl elsewhere))
      (expects_of_defer · (.inr notTrue)))
  · exact fun absent => (sound.withdrawn absent).imp id (expects_of_defer · (.inr notTrue))
  · exact fun absent => (sound.denied absent).imp id
      (Or.imp (expects_of_defer · (.inr notTrue)) (expects_of_defer · (.inr notTrue)))
  · exact fun absent past => (sound.known absent past).imp id
      (expects_of_defer · (.inr notTrue))

/-- An event that was put off may be replaced by the secret as it is now. -/
theorem Sound.refresh (sound : (view.defer event).Sound version) (fits : role.Fits event.secret)
    (kept : event.deleted = false) (present : view.slot role = some secret) :
    (view.defer (.applied secret)).Sound version ∧ role.Fits secret ∧
      view.Timely role (.applied secret) := by
  have current := sound.held role secret present
  have expects : ∀ {other deleted}, (view.defer event).Expects other deleted →
      (view.defer (.applied secret)).Expects other deleted := by
    intro other deleted expected
    refine expects_defer_iff.mpr ((expects_defer_iff.mp expected).imp id ?_)
    rintro ⟨named, same⟩
    exact ⟨by rw [← named, fits.named]; exact current.named, by rw [← same, kept]; rfl⟩
  refine ⟨⟨⟨sound.streamed, ?_, sound.held, sound.latest⟩, ?_, ?_, ?_, ?_, sound.silent⟩, current,
    fun _ => present⟩
  · rintro other (rfl | put)
    · exact ⟨role, current⟩
    · exact sound.deferred other (.inr put)
  · exact fun secret present => (sound.copied secret present).imp id (Or.imp expects expects)
  · exact fun absent => (sound.withdrawn absent).imp id expects
  · exact fun absent => (sound.denied absent).imp id (Or.imp expects expects)
  · exact fun absent past => (sound.known absent past).imp id expects

/-- Setting the condition to what it is changes nothing. -/
theorem Sound.settle_eq (sound : (view.defer event).Sound version) (same : view.status = status) :
    view.settle status = view := by
  have silent : view.message = "" := sound.silent
  rw [settle, ← same, ← silent]

end View

end PullSecretSync
