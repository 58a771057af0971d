import Mathlib.Algebra.BigOperators.Group.Multiset.Basic
import PullSecretSync.Proofs.Delivering
import PullSecretSync.Proofs.Role
import PullSecretSync.Proofs.SecretMap

/-!
# Settling down

When nobody else acts, every change that the synchronisation makes to a secret comes back to it as
an event. Each delivery has a weight, and an event that is done with weighs more than what its
handling gives rise to; a deletion that waits for its confirmation keeps its weight and uses up one
of the attempts that are left. The main result bounds every schedule by that.
-/

namespace PullSecretSync

open Sync

/-- A secret as the slot it is in names it. -/
def Secret.placed (secret : Secret) (slot : Slot) : Secret :=
  { secret with
    metadata := { secret.metadata with name := some slot.name, space := some slot.space } }

@[simp] theorem Secret.role?_placed (secret : Secret) (slot : Slot) :
    (secret.placed slot).role? = slot.role? := rfl

/-- The event is to be delivered again. -/
def Fate.isDeferred : Fate → Bool
  | .deferred _ => true
  | _ => false

/-- The delivery that an event of some fate comes back as. -/
def Fate.returned : Fate → Multiset Delivery
  | .deferred event => {.redelivered event}
  | _ => 0

/-- A processed delivery: what was asked and answered, and what became of the event. -/
structure Turn where
  delivery : Delivery
  now : Instant
  effects : List Effect
  fate : Fate

/-- The turn only asked for the configuration, and put the deletion of the replica off until it is
confirmed. -/
def Turn.Postpones (settings : Settings) (turn : Turn) : Prop :=
  ∃ config retries, turn.effects = [.readConfig settings.configName (.ok (some config))] ∧
    turn.delivery.event.deleted = true ∧ turn.delivery.event.secret.role? = some .replica ∧
    Leads (handle settings turn.now 0 config retries turn.delivery.event) []
      ⟨.ok (.retry (.deletionUnconfirmed (retries + 1))), config, retries + 1⟩ ∧
    turn.fate = .deferred turn.delivery.event

/-- The secret is one that the synchronisation writes, whatever it is delivered and answered. -/
def Secret.Written (secret : Secret) : Prop :=
  ∃ settings now inFlight retries delivery effects result call answer,
    Leads (attend settings now inFlight retries delivery) effects result ∧
      .store call answer ∈ effects ∧
      ∃ space, call = .create space secret ∨ call = .update space secret

/-- What there is to do while nobody else acts. -/
structure Backlog where
  secrets : SecretMap
  config : Config
  /-- The count of deferred deletions. -/
  retries : UInt32
  /-- The deliveries that are left, of which any may be next. -/
  pending : Multiset Delivery

namespace Backlog

/-- What the watches tell of a call to the store. -/
def told (secrets : SecretMap) : StoreCall → Multiset Delivery
  | .get _ => 0
  | .create space secret =>
    if (secrets.get? (SecretMap.slotIn space secret)).isSome then 0
    else {.watched (.applied secret)}
  | .update space secret =>
    if (secrets.get? (SecretMap.slotIn space secret)).isSome then {.watched (.applied secret)}
    else 0
  | .delete slot =>
    match secrets.get? slot with
    | some secret => {.watched (.removed (secret.placed slot))}
    | none => 0

/-- The store answers according to what it holds, reading succeeds, and so does the writing of a
status. -/
def answer : (question : Call) → Backlog → question.Answer × Backlog
  | .store call, backlog =>
    ((backlog.secrets.answer call).1,
      { backlog with
        secrets := (backlog.secrets.answer call).2
        pending := backlog.pending + told backlog.secrets call })
  | .writeStatus config, backlog =>
    (.ok (), { backlog with config := { backlog.config with status := config.status } })
  | .readConfig _, backlog => (.ok (some backlog.config), backlog)
  | .readSecret slot, backlog =>
    (.ok ((backlog.secrets.get? slot).map (·.placed slot)), backlog)
  | .note _, backlog => ((), backlog)

/-- Some of the pending deliveries are processed one after the other, in any order. -/
inductive Schedule (settings : Settings) : Backlog → List Turn → Backlog → Prop
  | nil (backlog : Backlog) : Schedule settings backlog [] backlog
  | cons {backlog after last : Backlog} {turn : Turn} {turns : List Turn}
      {rest : Multiset Delivery} {retries : UInt32}
      (picked : backlog.pending = turn.delivery ::ₘ rest)
      (attending : Leads (attend settings turn.now 0 backlog.retries turn.delivery) turn.effects
        (turn.fate, retries))
      (served : Serves answer { backlog with pending := rest } turn.effects after)
      (later : Schedule settings
        { after with retries, pending := after.pending + turn.fate.returned } turns last) :
      Schedule settings backlog (turn :: turns) last

/-! ## Weights -/

/-- The weight of an event on the secret of a role. It is more than that of the event which its
handling may give rise to. -/
def weight : Option Role → Bool → Nat
  | some .source, true => 3
  | some .source, false => 2
  | some .replica, true => 2
  | _, _ => 1

theorem weight_pos (role : Option Role) (deleted : Bool) : 0 < weight role deleted := by
  unfold weight
  split <;> decide

theorem weight_le (role : Option Role) (deleted : Bool) : weight role deleted ≤ 3 := by
  unfold weight
  split <;> decide

/-- The role of the secret that a delivery brings up. What is put off without being a deletion is
looked up again by its slot. -/
def role? : Delivery → Option Role
  | .watched event => event.secret.role?
  | .redelivered event => if event.deleted then event.secret.role? else event.slot.role?

/-- The weight of a delivery. -/
def burden (delivery : Delivery) : Nat := weight (role? delivery) delivery.event.deleted

@[simp] theorem burden_watched (event : SecretEvent) :
    burden (.watched event) = weight event.secret.role? event.deleted := rfl

/-- The weight of some deliveries. -/
def load (pending : Multiset Delivery) : Nat := (pending.map burden).sum

@[simp] theorem load_zero : load 0 = 0 := rfl

@[simp] theorem load_cons (delivery : Delivery) (pending : Multiset Delivery) :
    load (delivery ::ₘ pending) = burden delivery + load pending := by
  simp [load]

@[simp] theorem load_add (pending others : Multiset Delivery) :
    load (pending + others) = load pending + load others := by
  simp [load]

@[simp] theorem load_singleton (delivery : Delivery) : load {delivery} = burden delivery := by
  simp [load]

/-- No delivery weighs more than three. -/
theorem load_le (pending : Multiset Delivery) : load pending ≤ 3 * pending.card := by
  induction pending using Multiset.induction with
  | empty => simp
  | cons delivery pending ih =>
    have light : burden delivery ≤ 3 := weight_le ..
    rw [load_cons, Multiset.card_cons]
    omega

section Served

variable {settings : Settings} {version : String} {now : Instant} {config : Config}
  {retries : UInt32} {event : SecretEvent} {secret : Secret} {delivery : Delivery}
  {effects reads : List Effect} {backlog after : Backlog}

/-! ## What handling an event gives rise to -/

/-- To look a secret up leaves everything as it is. -/
theorem answer_get (slot : Slot) : (answer (.store (.get slot)) backlog).2 = backlog := by
  cases held : backlog.secrets.get? slot <;> simp [answer, SecretMap.answer, told, held]

/-- Writing a replica succeeds, and comes back as one event. -/
theorem served_writing {result : Except SyncError Copied}
    (served : Serves answer backlog effects after)
    (writing : Writing version secret effects result) :
    (∃ copied, result = .ok copied ∧ copied ≠ .nothing) ∧
      after.pending = backlog.pending + {.watched (.applied (secret.replica version))} := by
  let slot := SecretMap.slotIn Slot.replica.space (secret.replica version)
  cases writing with
  | created made =>
    obtain ⟨created, ended⟩ := serves_cons_iff.mp served
    rw [serves_nil_iff] at ended
    cases held : backlog.secrets.get? slot with
    | none => exact ⟨⟨_, rfl, by decide⟩, by simp [ended, answer, told, slot, held]⟩
    | some old => simp [answer, SecretMap.answer, slot, held] at created
  | refused error other =>
    obtain ⟨refused, -⟩ := serves_cons_iff.mp served
    cases held : backlog.secrets.get? slot with
    | none => simp [answer, SecretMap.answer, slot, held] at refused
    | some old =>
      simp only [answer, SecretMap.answer, slot, held, Except.error.injEq] at refused
      rw [refused] at other
      cases other
  | updated found present made =>
    obtain ⟨refused, served⟩ := serves_cons_iff.mp served
    obtain ⟨-, ended⟩ := serves_cons_iff.mp served
    rw [serves_nil_iff] at ended
    cases held : backlog.secrets.get? slot with
    | none => simp [answer, SecretMap.answer, slot, held] at refused
    | some old =>
      refine ⟨⟨_, rfl, by decide⟩, ?_⟩
      simp [ended, answer, told, SecretMap.answer, slot, held]
  | missed found present error =>
    obtain ⟨refused, served⟩ := serves_cons_iff.mp served
    obtain ⟨missed, -⟩ := serves_cons_iff.mp served
    cases held : backlog.secrets.get? slot with
    | none => simp [answer, SecretMap.answer, slot, held] at refused
    | some old => simp [answer, SecretMap.answer, slot, held] at missed

/-- Copying the pull secret from its slot succeeds and comes back as one event, or finds that it is
missing. -/
theorem served_copying {result : Except SyncError Copied}
    (served : Serves answer backlog effects after) (copying : Copying version none effects result) :
    (∃ copied secret, result = .ok copied ∧ copied ≠ .nothing ∧ after.pending =
        backlog.pending + {.watched (.applied (Secret.replica secret version))}) ∨
      (result = .error (.notFound .source) ∧ after = backlog) := by
  cases copying with
  | @fetched secret _ _ writing =>
    obtain ⟨-, served⟩ := serves_cons_iff.mp served
    obtain ⟨⟨copied, made, told⟩, pending⟩ := served_writing served writing
    rw [answer_get] at pending
    exact .inl ⟨copied, secret, made, told, pending⟩
  | untold =>
    obtain ⟨untold, -⟩ := serves_cons_iff.mp served
    cases held : backlog.secrets.get? .source <;>
      simp [answer, SecretMap.answer, held] at untold
  | unread error =>
    obtain ⟨unread, ended⟩ := serves_cons_iff.mp served
    rw [serves_nil_iff] at ended
    cases held : backlog.secrets.get? .source with
    | none =>
      simp only [answer, SecretMap.answer, held, Except.error.injEq] at unread
      exact .inr ⟨by rw [unread], ended.trans (answer_get .source)⟩
    | some source => simp [answer, SecretMap.answer, held] at unread

/-- The event of a written replica weighs one. -/
theorem load_replica (secret : Secret) (version : String) :
    load {.watched (.applied (secret.replica version))} = 1 := by
  rw [load_singleton, burden_watched, SecretEvent.applied, Secret.role?_replica]
  rfl

/-- Managing the credential succeeds, and the event weighs more than what it gives rise to. -/
theorem served_managing {result : Except SyncError Config}
    (served : Serves answer backlog effects after)
    (managing : Managing version now config event effects result) :
    (∃ managed, result = .ok managed) ∧
      load after.pending < load backlog.pending + weight event.secret.role? event.deleted := by
  have light := weight_pos event.secret.role? event.deleted
  cases managing with
  | irrelevant =>
    rw [serves_nil_iff] at served
    exact ⟨⟨_, rfl⟩, by rw [served]; omega⟩
  | echoed =>
    rw [serves_nil_iff] at served
    exact ⟨⟨_, rfl⟩, by rw [served]; omega⟩
  | restored role deleted copying =>
    rcases served_copying served copying with ⟨-, secret, -, -, pending⟩ | ⟨⟨⟩, -⟩
    refine ⟨⟨_, rfl⟩, ?_⟩
    rw [pending, load_add, load_replica, role, deleted]
    simp [weight]
  | untold role deleted copying =>
    rcases served_copying served copying with ⟨_, _, ⟨⟩, told, -⟩ | ⟨⟨⟩, -⟩
    exact absurd rfl told
  | orphaned role deleted copying =>
    rcases served_copying served copying with ⟨_, _, ⟨⟩, -⟩ | ⟨-, rfl⟩
    exact ⟨⟨_, rfl⟩, by omega⟩
  | unrestored role deleted copying other =>
    rcases served_copying served copying with ⟨_, _, ⟨⟩, -⟩ | ⟨missing, -⟩
    rw [Except.error.inj missing] at other
    cases other
  | withdrawn role deleted =>
    obtain ⟨-, ended⟩ := serves_cons_iff.mp served
    rw [serves_nil_iff] at ended
    refine ⟨⟨_, rfl⟩, ?_⟩
    rw [ended, role, deleted]
    cases held : backlog.secrets.get? .replica with
    | none => simp [answer, told, held, weight]
    | some secret =>
      have named : Slot.replica.role? = some .replica := Role.role?_slot .replica
      simp [answer, told, held, SecretEvent.removed, named, weight]
  | kept role deleted other =>
    obtain ⟨refused, -⟩ := serves_cons_iff.mp served
    cases held : backlog.secrets.get? .replica with
    | none =>
      simp only [answer, SecretMap.answer, held, Except.error.injEq] at refused
      rw [refused] at other
      cases other
    | some secret => simp [answer, SecretMap.answer, held] at refused
  | copied role deleted copying =>
    rcases copying with ⟨writing⟩
    obtain ⟨-, pending⟩ := served_writing served writing
    refine ⟨⟨_, rfl⟩, ?_⟩
    rw [pending, load_add, load_replica, role, deleted]
    simp [weight]
  | uncopied role deleted copying =>
    rcases copying with ⟨writing⟩
    obtain ⟨⟨_, ⟨⟩, -⟩, -⟩ := served_writing served writing

/-- The writing of a status succeeds and comes back as nothing. -/
theorem served_writeStatus {reply : Except SyncError Unit}
    (served : Serves answer backlog [.writeStatus config reply] after) :
    reply = .ok () ∧ after.pending = backlog.pending := by
  obtain ⟨written, ended⟩ := serves_cons_iff.mp served
  rw [serves_nil_iff] at ended
  exact ⟨written, by rw [ended]; rfl⟩

/-- Handling an event waits for the confirmation of a deletion and uses up an attempt; or it is done
with the event, which then weighs more than what it gives rise to. -/
theorem served_handling {handled : Handled} (served : Serves answer backlog effects after)
    (handling : Handling settings now 0 config retries event effects handled) :
    (effects = [] ∧ event.deleted = true ∧ event.secret.role? = some .replica ∧
        handled = ⟨.ok (.retry (.deletionUnconfirmed (retries + 1))), config, retries + 1⟩ ∧
        retries < settings.retryLimit) ∨
      ((∃ outcome, handled.result = .ok outcome ∧ outcome.isRetry = false) ∧
        load after.pending < load backlog.pending + weight event.secret.role? event.deleted) := by
  have light := weight_pos event.secret.role? event.deleted
  cases handling with
  | busy decided =>
    have busy : (0 : UInt64) < 0 := grounds_of_decision decided
    exact absurd busy (by decide)
  | ignored =>
    rw [serves_nil_iff] at served
    exact .inr ⟨⟨_, rfl, rfl⟩, by rw [served]; omega⟩
  | acknowledged =>
    rw [serves_nil_iff] at served
    exact .inr ⟨⟨_, rfl, rfl⟩, by rw [served]; omega⟩
  | welcomed =>
    obtain ⟨rfl, pending⟩ := served_writeStatus served
    exact .inr ⟨⟨_, rfl, rfl⟩, by rw [pending]; omega⟩
  | rejected =>
    obtain ⟨rfl, pending⟩ := served_writeStatus served
    exact .inr ⟨⟨_, rfl, rfl⟩, by rw [pending]; omega⟩
  | postponed decided =>
    obtain ⟨role, deleted, -, more⟩ := grounds_of_decision decided
    exact .inl ⟨rfl, deleted, role, rfl, more⟩
  | accepted =>
    obtain ⟨rfl, pending⟩ := served_writeStatus served
    exact .inr ⟨⟨_, rfl, rfl⟩, by rw [pending]; omega⟩
  | steady _ managing => exact .inr ⟨⟨_, rfl, rfl⟩, (served_managing served managing).2⟩
  | turned _ managing =>
    obtain ⟨middle, managed, written⟩ := serves_append_iff.mp served
    obtain ⟨rfl, pending⟩ := served_writeStatus written
    refine .inr ⟨⟨_, rfl, rfl⟩, ?_⟩
    rw [pending]
    exact (served_managing managed managing).2
  | failed _ managing =>
    obtain ⟨middle, managed, -⟩ := serves_append_iff.mp served
    obtain ⟨⟨_, ⟨⟩⟩, -⟩ := served_managing managed managing

/-- A delivery brings up an event on a secret of its own role, and a deletion for a deletion. -/
theorem served_brings (served : Serves answer backlog reads after)
    (brings : Brings delivery reads event) :
    after = backlog ∧ event.secret.role? = role? delivery ∧
      event.deleted = delivery.event.deleted := by
  cases brings with
  | watched => exact ⟨serves_nil_iff.mp served, rfl, rfl⟩
  | kept deleted =>
    refine ⟨serves_nil_iff.mp served, ?_, rfl⟩
    rw [role?, if_pos deleted]
  | @reread event deleted secret =>
    obtain ⟨read, ended⟩ := serves_cons_iff.mp served
    refine ⟨serves_nil_iff.mp ended, ?_, deleted.symm⟩
    cases held : backlog.secrets.get? event.slot with
    | none => simp [answer, held] at read
    | some old =>
      simp only [answer, held, Option.map_some, Except.ok.injEq, Option.some.injEq] at read
      rw [read, role?, deleted, SecretEvent.applied, Secret.role?_placed,
        if_neg Bool.false_ne_true]

/-- Attending to a delivery postpones a deletion, which keeps its weight and uses up an attempt; or
what it gives rise to is lighter than the delivery, and unless an event is completed, the count of
attempts stays as it is. -/
theorem served_attending {left : Fate} {count : UInt32}
    (served : Serves answer backlog effects after)
    (attending : Attending settings now 0 retries delivery effects (left, count)) :
    (Turn.Postpones settings ⟨delivery, now, effects, left⟩ ∧ left.isDeferred = true ∧
        load (after.pending + left.returned) = load backlog.pending + burden delivery ∧
        retries < settings.retryLimit ∧ count = retries + 1) ∨
      (left.isDeferred = false ∧
        load (after.pending + left.returned) < load backlog.pending + burden delivery ∧
        (count = retries ∨ ∃ outcome, left = .completed outcome)) := by
  cases attending with
  | @vanished event =>
    obtain ⟨-, ended⟩ := serves_cons_iff.mp served
    rw [serves_nil_iff] at ended
    have heavy : 0 < burden (.redelivered event) := weight_pos ..
    refine .inr ⟨rfl, ?_, .inl rfl⟩
    simpa [ended, answer, Fate.returned] using heavy
  | unread =>
    obtain ⟨⟨⟩, -⟩ := serves_cons_iff.mp served
  | brought brings delivering =>
    obtain ⟨middle, fetched, further⟩ := serves_append_iff.mp served
    obtain ⟨rfl, role, flag⟩ := served_brings fetched brings
    cases delivering with
    | homeless => obtain ⟨⟨⟩, -⟩ := serves_cons_iff.mp further
    | unread => obtain ⟨⟨⟩, -⟩ := serves_cons_iff.mp further
    | @handled config _ handled handling =>
      have carried : Serves answer middle _ after := (serves_cons_iff.mp further).2
      have heavy : weight _ _ = burden delivery := congrArg₂ weight role flag
      rcases served_handling carried handling with
        ⟨rfl, deleted, replica, rfl, more⟩ | ⟨⟨outcome, ended, settled⟩, lighter⟩
      · have gone := flag.symm.trans deleted
        have same := (brings.event_eq gone).symm
        obtain rfl := brings.eq_nil gone
        obtain rfl := serves_nil_iff.mp carried
        refine .inl ⟨⟨config, retries, rfl, ?_, ?_, ?_, ?_⟩, rfl, ?_, more, rfl⟩
        · rwa [same]
        · rwa [same]
        · rw [same]
          exact leads_handle_iff.mpr handling
        · rw [same]
          rfl
        · rw [← heavy]
          simp [fate, Fate.returned, burden, role?, Delivery.event, deleted]
      · rw [ended, fate_eq_completed settled, ← heavy]
        exact .inr ⟨rfl, by simpa [Fate.returned] using lighter, .inr ⟨outcome, rfl⟩⟩

end Served

/-! ## What is written is not answered by writing -/

section Echoes

variable {settings : Settings} {now : Instant} {inFlight : UInt64} {retries : UInt32}
  {secret : Secret} {delivery : Delivery} {effects : List Effect} {backlog after : Backlog}
  {result : Fate × UInt32} {call : StoreCall} {reply : call.Answer}

/-- What is written is the replica of a secret. -/
theorem eq_replica_of_written (written : secret.Written) :
    ∃ (origin : Secret) (version : String), secret = origin.replica version := by
  obtain ⟨settings, now, inFlight, retries, delivery, effects, result, call, reply, course, asked,
    space, writes⟩ := written
  obtain ⟨_, _, _, _, _, -, -, -, managing, member⟩ :=
    (leads_attend_iff.mp course).managing_of_mem asked
  obtain ⟨_, _, same, replicates⟩ := managing.replicates member
  cases same
  rcases writes with rfl | rfl
  · obtain ⟨-, origin, same⟩ := replicates
    exact ⟨origin, _, same⟩
  · obtain ⟨-, origin, same⟩ := replicates
    exact ⟨origin, _, same⟩

/-- The event of a secret that was written leads to no question to the store. -/
theorem not_mem_of_written (written : secret.Written) (applied : delivery.event = .applied secret)
    (served : Serves answer backlog effects after)
    (attending : Attending settings now inFlight retries delivery effects result) :
    .store call reply ∉ effects := by
  intro asked
  obtain ⟨origin, version, rfl⟩ := eq_replica_of_written written
  obtain ⟨reads, event, config, _, _, brings, ⟨further, rfl⟩, decided, -, -⟩ :=
    attending.managing_of_mem asked
  obtain ⟨_, fetched, -⟩ := serves_append_iff.mp served
  obtain ⟨-, role, flag⟩ := served_brings fetched brings
  have kept : event.deleted = false := by rw [flag, applied]; rfl
  have replica : event.secret.role? = some .replica := by
    rw [role]
    cases delivery with
    | watched other =>
      obtain rfl : other = _ := applied
      exact Secret.role?_replica ..
    | redelivered other =>
      obtain rfl : other = _ := applied
      exact Role.role?_slot .replica
  rcases grounds_of_decision decided with source | ⟨-, deleted⟩
  · simp [SecretEvent.facts, replica] at source
  · simp [SecretEvent.facts, kept] at deleted

end Echoes

/-- Every attempt leaves one less. -/
theorem attempts_succ {retries limit : UInt32} (more : retries < limit) :
    limit.toNat - (retries + 1).toNat + 1 = limit.toNat - retries.toNat := by
  have below : retries.toNat < limit.toNat := UInt32.lt_iff_toNat_lt.mp more
  have next : (retries + 1).toNat = retries.toNat + 1 := toNat_succ_of_lt more
  omega

/-- The number of turns that a backlog allows for: its weight, with all attempts for each unit, and
the attempts that are left before the first completion. -/
def allowance (settings : Settings) (backlog : Backlog) : Nat :=
  load backlog.pending * (settings.retryLimit.toNat + 1) +
    (settings.retryLimit.toNat - backlog.retries.toNat)

/-- Every turn leaves less to be allowed for. -/
theorem allowance_lt {settings : Settings} {backlog after : Backlog} {turn : Turn}
    {rest : Multiset Delivery} {retries : UInt32}
    (picked : backlog.pending = turn.delivery ::ₘ rest)
    (attending : Leads (attend settings turn.now 0 backlog.retries turn.delivery) turn.effects
      (turn.fate, retries))
    (served : Serves answer { backlog with pending := rest } turn.effects after) :
    allowance settings { after with retries, pending := after.pending + turn.fate.returned } <
      allowance settings backlog := by
  rw [allowance, allowance, picked, load_cons, Nat.add_comm (burden _)]
  rcases served_attending served (leads_attend_iff.mp attending) with
    ⟨-, -, same, more, rfl⟩ | ⟨-, lighter, -⟩
  · have left := attempts_succ more
    simp only at same ⊢
    rw [same]
    omega
  · have less := Nat.mul_le_mul_right (settings.retryLimit.toNat + 1) lighter
    rw [Nat.succ_mul] at less
    simp only at less ⊢
    omega

namespace Schedule

variable {settings : Settings} {start last : Backlog} {turns others : List Turn}

/-- A schedule can be cut anywhere. -/
theorem split (schedule : Schedule settings start (turns ++ others) last) :
    ∃ middle, Schedule settings start turns middle ∧ Schedule settings middle others last := by
  induction turns generalizing start with
  | nil => exact ⟨start, .nil start, schedule⟩
  | cons turn turns ih =>
    cases schedule with
    | cons picked attending served later =>
      obtain ⟨middle, before, after⟩ := ih later
      exact ⟨middle, .cons picked attending served before, after⟩

/-- A schedule can be continued with another. -/
theorem append {middle : Backlog} (schedule : Schedule settings start turns middle)
    (later : Schedule settings middle others last) :
    Schedule settings start (turns ++ others) last := by
  induction schedule with
  | nil => exact later
  | cons picked attending served _ ih => exact .cons picked attending served (ih later)

/-- Only deletions that are unconfirmed are put off. -/
theorem postpones (schedule : Schedule settings start turns last) :
    ∀ turn ∈ turns, turn.fate.isDeferred = true → turn.Postpones settings := by
  induction schedule with
  | nil => simp
  | cons picked attending served _ ih =>
    intro turn member deferred
    rcases List.mem_cons.mp member with rfl | later
    · rcases served_attending served (leads_attend_iff.mp attending) with
        ⟨postpones, -⟩ | ⟨settled, -⟩
      · exact postpones
      · rw [settled] at deferred
        cases deferred
    · exact ih turn later deferred

/-- There are no more turns that put nothing off than the pending deliveries weigh. -/
theorem countP_not_deferred_le (schedule : Schedule settings start turns last) :
    turns.countP (fun turn => !turn.fate.isDeferred) ≤ load start.pending := by
  induction schedule with
  | nil => simp
  | cons picked attending served _ ih =>
    rw [picked, load_cons]
    rcases served_attending served (leads_attend_iff.mp attending) with
      ⟨-, deferred, load, -⟩ | ⟨settled, load, -⟩
    · rw [List.countP_cons_of_neg (by simp [deferred])]
      simp only at ih load
      omega
    · rw [List.countP_cons_of_pos (by simp [settled])]
      simp only at ih load
      omega

/-- The attempts that are left bound the turns that put an event off before one is completed. -/
theorem countP_deferred_le (schedule : Schedule settings start turns last)
    (unfinished : ∀ turn ∈ turns, ∀ outcome, turn.fate ≠ .completed outcome) :
    turns.countP (·.fate.isDeferred) ≤ settings.retryLimit.toNat - start.retries.toNat := by
  induction schedule with
  | nil => simp
  | cons picked attending served _ ih =>
    have left := ih fun turn member => unfinished turn (List.mem_cons_of_mem _ member)
    rcases served_attending served (leads_attend_iff.mp attending) with
      ⟨-, deferred, -, more, rfl⟩ | ⟨settled, -, same | ⟨outcome, completed⟩⟩
    · rw [List.countP_cons_of_pos (by simpa using deferred), ← attempts_succ more]
      exact Nat.succ_le_succ left
    · rw [List.countP_cons_of_neg (by simp [settled])]
      simpa only [same] using left
    · exact absurd completed (unfinished _ List.mem_cons_self outcome)

/-- The length of a schedule is bounded by what is allowed for at its start. -/
theorem length_le (schedule : Schedule settings start turns last) :
    turns.length ≤ allowance settings start := by
  induction schedule with
  | nil => exact Nat.zero_le _
  | cons picked attending served _ ih =>
    exact Nat.succ_le_of_lt (ih.trans_lt (allowance_lt picked attending served))

/-- Any pending delivery may be processed next. -/
theorem exists_next (settings : Settings) (now : Instant) {delivery : Delivery}
    {rest : Multiset Delivery} (picked : start.pending = delivery ::ₘ rest) :
    ∃ turn next, turn.delivery = delivery ∧ Schedule settings start [turn] next ∧
      allowance settings next < allowance settings start := by
  have quiet : ∀ entry backlog, answer (.note entry) backlog = ((), backlog) := fun _ _ => rfl
  obtain ⟨⟨left, retries⟩, after, effects, attending, served⟩ :
      ∃ result after effects, Leads (attend settings now 0 start.retries delivery) effects result ∧
        Serves answer { start with pending := rest } effects after :=
    ⟨_, _, leads_run quiet _ _⟩
  let turn : Turn := ⟨delivery, now, effects, left⟩
  have chosen : start.pending = turn.delivery ::ₘ rest := picked
  exact ⟨turn, _, rfl, .cons chosen attending served (.nil _),
    allowance_lt chosen attending served⟩

/-- Whatever is pending, there is a schedule that leaves nothing behind. -/
theorem exists_settled (settings : Settings) (now : Instant) (start : Backlog) :
    ∃ turns last, Schedule settings start turns last ∧ last.pending = 0 := by
  induction bound : allowance settings start using Nat.strong_induction_on generalizing start with
  | _ allowed ih =>
    by_cases settled : start.pending = 0
    · exact ⟨[], start, .nil start, settled⟩
    · obtain ⟨delivery, member⟩ := Multiset.exists_mem_of_ne_zero settled
      obtain ⟨rest, picked⟩ := Multiset.exists_cons_of_mem member
      obtain ⟨turn, next, -, first, less⟩ := exists_next settings now picked
      obtain ⟨turns, last, others, done⟩ := ih _ (bound ▸ less) next rfl
      exact ⟨[turn] ++ turns, last, first.append others, done⟩

/-- The event of a secret that was written is not answered by a question to the store. -/
theorem quiet (schedule : Schedule settings start turns last) :
    ∀ turn ∈ turns, ∀ secret : Secret, secret.Written →
      turn.delivery.event = .applied secret →
      ∀ call reply, .store call reply ∉ turn.effects := by
  induction schedule with
  | nil => simp
  | cons picked attending served _ ih =>
    intro turn member
    rcases List.mem_cons.mp member with rfl | later
    · intro secret written applied call reply
      exact not_mem_of_written written applied served (leads_attend_iff.mp attending)
    · exact ih turn later

/-- **There is no feedback storm.** While nobody else acts, every schedule is finite, and its length
is bounded by the number of pending deliveries and the retry limit. At most three turns a delivery
put nothing off; all others wait for the confirmation of a deletion, and before the first
completion, between two and after the last there are no more of them than the limit. What the
synchronisation wrote leads to no further question to the store. -/
theorem settles (schedule : Schedule settings start turns last) :
    turns.length ≤ 3 * start.pending.card +
        (3 * start.pending.card + 1) * settings.retryLimit.toNat ∧
      turns.countP (fun turn => !turn.fate.isDeferred) ≤ 3 * start.pending.card ∧
      (∀ before between after, turns = before ++ between ++ after →
        (∀ turn ∈ between, ∀ outcome, turn.fate ≠ .completed outcome) →
        between.countP (·.fate.isDeferred) ≤ settings.retryLimit.toNat) ∧
      (∀ turn ∈ turns, turn.fate.isDeferred = true → turn.Postpones settings) ∧
      ∀ turn ∈ turns, ∀ secret : Secret, secret.Written →
        turn.delivery.event = .applied secret →
        ∀ call reply, .store call reply ∉ turn.effects := by
  have light : load start.pending ≤ 3 * start.pending.card := load_le start.pending
  refine ⟨?_, schedule.countP_not_deferred_le.trans light, ?_, schedule.postpones,
    schedule.quiet⟩
  · have scaled := Nat.mul_le_mul_right (settings.retryLimit.toNat + 1) light
    have long := schedule.length_le
    rw [allowance] at long
    simp only [Nat.mul_add, Nat.add_mul, Nat.mul_one, Nat.one_mul] at scaled long ⊢
    omega
  · rintro before between after rfl unfinished
    obtain ⟨middle, early, -⟩ := schedule.split
    obtain ⟨_, -, later⟩ := early.split
    exact (later.countP_deferred_le unfinished).trans (Nat.sub_le ..)

end Schedule

/-- The replica was deleted, and one attempt is made before it is restored from the pull secret. The
restored replica is recognized, and nothing is left. -/
theorem settled_after_restoring :
    let settings : Settings := ⟨"4.1.0", "cluster", 1, 5⟩
    let source : Secret := { metadata := { name := some "coreos-pull-secret",
                                           space := some "kube-system" } }
    let config := (Config.new "cluster" {}).settle ⟨0, 0⟩ Config.credentialType .holds
    let deletion := SecretEvent.removed (source.replica "4.1.0")
    let start : Backlog := ⟨[(.source, source)], config, 0, {.watched deletion}⟩
    let read : Effect := .readConfig "cluster" (.ok (some config))
    let turns : List Turn := [
      ⟨.watched deletion, ⟨0, 0⟩, [read], .deferred deletion⟩,
      ⟨.redelivered deletion, ⟨5, 0⟩,
        [read, .store (.get .source) (.ok (some source)),
          .create "4.1.0" source (.ok (source.replica "4.1.0"))], .completed .unchanged⟩,
      ⟨.watched (.applied (source.replica "4.1.0")), ⟨5, 0⟩, [read], .completed .unchanged⟩]
    (∃ last, Schedule settings start turns last ∧ last.pending = 0) ∧
      turns.length ≤ 3 * 1 + (3 * 1 + 1) * 1 := by
  intro settings source config deletion start read turns
  have waiting : Handling settings ⟨0, 0⟩ 0 config 0 deletion _ _ := .postponed (by decide)
  have copying : Copying "4.1.0" none (.store (.get .source) (.ok (some source)) :: _) _ :=
    .fetched (.created (source.replica "4.1.0"))
  have restoring : Handling settings ⟨5, 0⟩ 0 config 1 deletion _ _ :=
    .steady (by decide) (.restored rfl rfl copying (by decide)) rfl
  have knowing : Handling settings ⟨5, 0⟩ 0 config 0
      (.applied (source.replica "4.1.0")) _ _ := .acknowledged (by decide) rfl
  let last : Backlog :=
    ⟨(start.secrets.answer (.create Slot.replica.space (source.replica "4.1.0"))).2, config, 0, 0⟩
  have known : Schedule settings { last with pending := {turns[2].delivery} } [turns[2]] last :=
    .cons (Multiset.cons_zero _).symm
      (leads_attend_iff.mpr (.brought (.watched _) (.handled knowing)))
      (serves_cons_iff.mpr ⟨rfl, .nil _⟩) (.nil _)
  have restored : Schedule settings { start with retries := 1, pending := {turns[1].delivery} }
      [turns[1], turns[2]] last :=
    .cons (Multiset.cons_zero _).symm
      (leads_attend_iff.mpr (.brought (.kept rfl) (.handled restoring)))
      (serves_cons_iff.mpr ⟨rfl, serves_cons_iff.mpr ⟨rfl, serves_cons_iff.mpr ⟨rfl, .nil _⟩⟩⟩)
      known
  have schedule : Schedule settings start turns last :=
    .cons (Multiset.cons_zero _).symm
      (leads_attend_iff.mpr (.brought (.watched _) (.handled waiting)))
      (serves_cons_iff.mpr ⟨rfl, .nil _⟩) restored
  exact ⟨⟨last, schedule, rfl⟩, schedule.settles.1⟩

end Backlog

end PullSecretSync
