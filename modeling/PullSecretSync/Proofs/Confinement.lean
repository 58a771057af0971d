import PullSecretSync.Proofs.Role
import PullSecretSync.Proofs.Rounds
import PullSecretSync.Proofs.SecretMap

/-!
# What is touched

While events are handled the store is asked for the pull secret only, and only the replica is
written or deleted. What is written is a copy: of the secret that an event tells of, or of the one
that the store has just given. The main result follows the secrets of a cluster where others make
changes as well and where any call may fail: but for the slot of the replica they are as the others
left them, and that slot holds what the others put there or a copy.
-/

namespace PullSecretSync

open Sync

/-- The kinds of calls to the store. -/
inductive StoreCall.Kind where
  | get
  | create
  | update
  | delete
  deriving DecidableEq

namespace StoreCall

/-- The kind of a call. -/
def kind : StoreCall → Kind
  | .get _ => .get
  | .create _ _ => .create
  | .update _ _ => .update
  | .delete _ => .delete

/-- The slot that a call is about. -/
def target : StoreCall → Slot
  | .get slot => slot
  | .create space secret => SecretMap.slotIn space secret
  | .update space secret => SecretMap.slotIn space secret
  | .delete slot => slot

/-- A call writes a secret to a namespace. -/
def Writes (call : StoreCall) (space : String) (secret : Secret) : Prop :=
  call = .create space secret ∨ call = .update space secret

end StoreCall

namespace Sync

/-- The kind of the call that an effect is, if it is one to the store. -/
def Effect.kind? : Effect → Option StoreCall.Kind
  | ⟨.store call, _⟩ => some call.kind
  | _ => none

/-- The kinds of the calls to the store, in order. -/
def kinds (effects : List Effect) : List StoreCall.Kind := effects.filterMap Effect.kind?

/-- The secret is the one to copy for an event: that of the event itself if it tells of the pull
secret, and the one that the store has just given if it tells that the replica is gone. -/
inductive Provided (event : SecretEvent) : List Effect → Secret → Prop
  | told {effects : List Effect} (role : event.secret.role? = some .source)
      (applied : event.deleted = false) : Provided event effects event.secret
  | given {effects : List Effect} {secret : Secret} (role : event.secret.role? = some .replica)
      (deleted : event.deleted = true) :
      Provided event (.store (.get .source) (.ok (some secret)) :: effects) secret

/-- The store is asked for the pull secret and to keep a copy of it, or to delete the replica. -/
structure Confined (version : String) (event : SecretEvent) (effects : List Effect) : Prop where
  gets : ∀ slot answer, .store (.get slot) answer ∈ effects → slot = .source
  deletes : ∀ slot answer, .store (.delete slot) answer ∈ effects → slot = .replica
  writes : ∀ call answer space written, .store call answer ∈ effects → call.Writes space written →
    space = Slot.replica.space ∧ written.metadata.name = some Slot.replica.name ∧
      ∃ secret, Provided event effects secret ∧ written = secret.replica version
  order : kinds effects <:+: [.get, .create, .update] ∨ kinds effects = [.delete]

end Sync

/-- The round is confined, and it asks the store for nothing while upserts are in flight, or unless
samples are managed. -/
structure Round.Confined (settings : Settings) (round : Round) : Prop where
  licensed : ∀ call answer, .store call answer ∈ round.effects → round.inFlight = 0 ∧
    (round.config.spec.managementState = .managed ∨
      ∃ value, round.config.spec.managementState = .unrecognized value)
  confined : Sync.Confined settings.version round.event round.effects

namespace Sync

variable {version : String} {event : SecretEvent} {secret : Secret} {effects more : List Effect}
  {now : Instant} {config : Config}

/-! ## Single events -/

theorem kinds_append : kinds (effects ++ more) = kinds effects ++ kinds more :=
  List.filterMap_append

theorem Provided.append (provided : Provided event effects secret) :
    Provided event (effects ++ more) secret := by
  cases provided with
  | told role applied => exact .told role applied
  | given role deleted => exact .given role deleted

/-- Nothing is touched without a call. -/
theorem confined_nil : Confined version event [] where
  gets _ _ asked := absurd asked List.not_mem_nil
  deletes _ _ asked := absurd asked List.not_mem_nil
  writes _ _ _ _ asked := absurd asked List.not_mem_nil
  order := .inl ⟨[], [.get, .create, .update], rfl⟩

/-- The writing of a status touches no secret. -/
theorem Confined.writeStatus (confined : Confined version event effects)
    (answer : Except SyncError Unit) :
    Confined version event (effects ++ [.writeStatus config answer]) where
  gets slot reply asked := confined.gets slot reply (by simpa using asked)
  deletes slot reply asked := confined.deletes slot reply (by simpa using asked)
  writes call reply space written asked writes := by
    obtain ⟨here, named, origin, provided, copy⟩ :=
      confined.writes call reply space written (by simpa using asked) writes
    exact ⟨here, named, origin, provided.append, copy⟩
  order := by
    rw [kinds_append, show kinds [.writeStatus config answer] = [] from rfl, List.append_nil]
    exact confined.order

/-- A replica is written by creating it, and by updating it then if it is there. -/
theorem Writing.kinds_cases {result : Except SyncError Copied}
    (writing : Writing version secret effects result) :
    kinds effects = [.create] ∨ kinds effects = [.create, .update] := by
  cases writing with
  | created => exact .inl rfl
  | refused => exact .inl rfl
  | updated => exact .inr rfl
  | missed => exact .inr rfl

/-- What is written is the replica. -/
theorem Writing.writes {result : Except SyncError Copied} {call : StoreCall} {answer : call.Answer}
    (writing : Writing version secret effects result) (asked : .store call answer ∈ effects) :
    call.Writes Slot.replica.space (secret.replica version) := by
  cases writing <;> simp only [List.mem_cons, List.not_mem_nil, or_false] at asked
  · cases asked
    exact .inl rfl
  · cases asked
    exact .inl rfl
  · rcases asked with same | same <;> cases same
    · exact .inl rfl
    · exact .inr rfl
  · rcases asked with same | same <;> cases same
    · exact .inl rfl
    · exact .inr rfl

/-- A secret that is provided may be written, also right after it was asked for. -/
theorem Writing.confined {result : Except SyncError Copied} {reads : List Effect}
    (writing : Writing version secret effects result)
    (provided : Provided event (reads ++ effects) secret)
    (asks : reads = [] ∨ ∃ answer, reads = [.store (.get .source) answer]) :
    Confined version event (reads ++ effects) where
  gets slot answer asked := by
    rcases List.mem_append.mp asked with early | late
    · rcases asks with rfl | ⟨answer, rfl⟩
      · cases early
      · cases List.mem_singleton.mp early
        rfl
    · rcases writing.writes late with same | same <;> cases same
  deletes slot answer asked := by
    rcases List.mem_append.mp asked with early | late
    · rcases asks with rfl | ⟨answer, rfl⟩ <;> simp at early
    · rcases writing.writes late with same | same <;> cases same
  writes call answer space written asked writes := by
    rcases List.mem_append.mp asked with early | late
    · rcases asks with rfl | ⟨answer, rfl⟩
      · cases early
      · cases List.mem_singleton.mp early
        rcases writes with same | same <;> cases same
    · rcases writing.writes late with rfl | rfl <;> rcases writes with same | same <;> cases same
      · exact ⟨rfl, rfl, secret, provided, rfl⟩
      · exact ⟨rfl, rfl, secret, provided, rfl⟩
  order := by
    rw [kinds_append]
    rcases asks with rfl | ⟨answer, rfl⟩ <;> rcases writing.kinds_cases with kinds | kinds <;>
      rw [kinds]
    · exact .inl ⟨[.get], [.update], rfl⟩
    · exact .inl ⟨[.get], [], rfl⟩
    · exact .inl ⟨[], [.update], rfl⟩
    · exact .inl ⟨[], [], rfl⟩

/-- A lookup alone touches nothing. -/
private theorem confined_get (answer : Except SyncError (Option Secret)) :
    Confined version event [.store (.get .source) answer] where
  gets slot reply asked := by
    cases List.mem_singleton.mp asked
    rfl
  deletes slot reply asked := by simp at asked
  writes call reply space written asked writes := by
    cases List.mem_singleton.mp asked
    rcases writes with same | same <;> cases same
  order := .inl ⟨[], [.create, .update], rfl⟩

/-- A deletion touches the replica. -/
private theorem confined_delete (answer : Except SyncError Unit) :
    Confined version event [.delete answer] where
  gets slot reply asked := by simp at asked
  deletes slot reply asked := by
    cases List.mem_singleton.mp asked
    rfl
  writes call reply space written asked writes := by
    cases List.mem_singleton.mp asked
    rcases writes with same | same <;> cases same
  order := .inr rfl

/-- The pull secret is copied from the store after the replica was deleted. -/
theorem Copying.confined {result : Except SyncError Copied}
    (copying : Copying version none effects result) (role : event.secret.role? = some .replica)
    (deleted : event.deleted = true) : Confined version event effects := by
  cases copying with
  | fetched writing => exact writing.confined (.given role deleted) (.inr ⟨_, rfl⟩)
  | untold => exact confined_get _
  | unread => exact confined_get _

theorem Managing.confined {result : Except SyncError Config}
    (managing : Managing version now config event effects result) :
    Confined version event effects := by
  cases managing with
  | irrelevant => exact confined_nil
  | echoed => exact confined_nil
  | restored role deleted copying => exact copying.confined role deleted
  | untold role deleted copying => exact copying.confined role deleted
  | orphaned role deleted copying => exact copying.confined role deleted
  | unrestored role deleted copying => exact copying.confined role deleted
  | withdrawn => exact confined_delete _
  | kept => exact confined_delete _
  | copied role deleted copying =>
    obtain ⟨writing⟩ := copying
    exact writing.confined (.told role deleted) (.inl rfl)
  | uncopied role deleted copying =>
    obtain ⟨writing⟩ := copying
    exact writing.confined (.told role deleted) (.inl rfl)

theorem Handling.confined {settings : Settings} {inFlight : UInt64} {retries : UInt32}
    {handled : Handled}
    (handling : Handling settings now inFlight config retries event effects handled) :
    Confined settings.version event effects := by
  cases handling with
  | busy => exact confined_nil
  | ignored => exact confined_nil
  | acknowledged => exact confined_nil
  | postponed => exact confined_nil
  | welcomed _ _ answer => exact confined_nil.writeStatus answer
  | rejected _ answer => exact confined_nil.writeStatus answer
  | accepted _ answer => exact confined_nil.writeStatus answer
  | steady _ managing => exact managing.confined
  | turned _ managing _ answer => exact managing.confined.writeStatus answer
  | failed _ managing answer => exact managing.confined.writeStatus answer

end Sync

/-- The credential is only managed where samples are, and while no upsert is in flight. -/
theorem Facts.of_manageCredential {facts : Facts} (decided : facts.transition = .manageCredential) :
    facts.inFlight = 0 ∧ facts.state ≠ .unmanaged ∧ facts.state ≠ .removed := by
  rw [transition] at decided
  split at decided
  · cases decided
  · rename_i idle
    split at decided
    · cases decided
    · rename_i managed
      refine ⟨by simpa using idle, managed, fun removed => ?_⟩
      simp only [removed, if_true] at decided
      split at decided
      · cases decided
      · cases decided
      · split at decided
        · split at decided <;> cases decided
        · split at decided <;> cases decided

/-- What is asked of the store is a lookup, or it is about the slot of the replica. -/
theorem Sync.Confined.touches {version : String} {event : SecretEvent} {effects : List Effect}
    (confined : Sync.Confined version event effects) {call : StoreCall} {answer : call.Answer}
    (asked : .store call answer ∈ effects) :
    (∃ slot, call = .get slot) ∨ call.target = .replica := by
  cases call with
  | get slot => exact .inl ⟨slot, rfl⟩
  | delete slot => exact .inr (confined.deletes slot answer asked)
  | create space written =>
    obtain ⟨rfl, -, secret, -, rfl⟩ := confined.writes _ answer space written asked (.inl rfl)
    exact .inr rfl
  | update space written =>
    obtain ⟨rfl, -, secret, -, rfl⟩ := confined.writes _ answer space written asked (.inr rfl)
    exact .inr rfl

/-- A round touches only what it may. -/
theorem Round.Course.confined {settings : Settings} {retries : UInt32} {round : Round}
    (course : round.Course settings retries) : round.Confined settings where
  licensed call answer asked := by
    obtain ⟨decided, -⟩ := (leads_handle_iff.mp course).managing_of_mem asked
    obtain ⟨idle, managed, present⟩ := Facts.of_manageCredential decided
    refine ⟨idle, ?_⟩
    cases state : round.config.spec.managementState with
    | managed => exact .inl rfl
    | unmanaged => exact absurd state managed
    | removed => exact absurd state present
    | unrecognized value => exact .inr ⟨value, rfl⟩
  confined := (leads_handle_iff.mp course).confined

/-! ## The secrets of a cluster -/

namespace SecretMap

variable {secrets last : SecretMap} {call : StoreCall} {slot : Slot}

/-- A call changes no slot but the one it is about. -/
theorem get?_answer_of_ne (other : slot ≠ call.target) :
    (secrets.answer call).2.get? slot = secrets.get? slot := by
  cases call with
  | get target => simp only [answer]; split <;> rfl
  | create space secret =>
    simp only [answer]
    split
    · rfl
    · exact get?_put_of_ne other _ _
  | update space secret =>
    simp only [answer]
    split
    · exact get?_put_of_ne other _ _
    · rfl
  | delete target =>
    simp only [answer]
    split
    · exact get?_erase_of_ne other _
    · rfl

/-- The slot that a call is about keeps what it holds, or it is emptied, or it holds what the call
writes. -/
theorem get?_answer_target (secrets : SecretMap) (call : StoreCall) :
    (secrets.answer call).2.get? call.target = secrets.get? call.target ∨
      (secrets.answer call).2.get? call.target = none ∨
      ∃ space written, call.Writes space written ∧
        (secrets.answer call).2.get? call.target = some written := by
  cases call with
  | get target =>
    left
    simp only [answer]
    split <;> rfl
  | create space secret =>
    simp only [answer]
    split
    · exact .inl rfl
    · exact .inr (.inr ⟨space, secret, .inl rfl, get?_put_self ..⟩)
  | update space secret =>
    simp only [answer]
    split
    · exact .inr (.inr ⟨space, secret, .inr rfl, get?_put_self ..⟩)
    · exact .inl rfl
  | delete target =>
    simp only [answer]
    split
    · exact .inr (.inl (get?_erase_self ..))
    · exact .inl rfl

/-- Each of some effects is carried out if it is a call, or it is not. Either may come with any
answer, so a call may fail, and a reply may get lost. -/
inductive Undergoes : SecretMap → List Effect → SecretMap → Prop
  | nil (secrets : SecretMap) : Undergoes secrets [] secrets
  | carried {secrets last : SecretMap} {call : StoreCall} {answer : call.Answer}
      {effects : List Effect} (rest : Undergoes (secrets.answer call).2 effects last) :
      Undergoes secrets (.store call answer :: effects) last
  | left {secrets last : SecretMap} {effect : Effect} {effects : List Effect}
      (rest : Undergoes secrets effects last) : Undergoes secrets (effect :: effects) last

section Touching

variable {effects : List Effect}

/-- What only looks up or is about the slot of the replica leaves the other slots alone. -/
theorem Undergoes.get?_of_ne (undergoes : secrets.Undergoes effects last)
    (touches : ∀ call answer, .store call answer ∈ effects →
      (∃ place, call = .get place) ∨ call.target = .replica)
    (other : slot ≠ .replica) : last.get? slot = secrets.get? slot := by
  induction undergoes with
  | nil => rfl
  | left _ ih => exact ih fun call answer asked => touches call answer (.tail _ asked)
  | @carried secrets _ call answer _ _ ih =>
    rw [ih fun call answer asked => touches call answer (.tail _ asked)]
    rcases touches call answer (.head _) with ⟨place, rfl⟩ | target
    · simp only [SecretMap.answer]
      split <;> rfl
    · exact get?_answer_of_ne (target ▸ other)

/-- The slot of the replica keeps what it holds, or it is empty, or it holds what was written. -/
theorem Undergoes.replica_cases (undergoes : secrets.Undergoes effects last) :
    last.get? .replica = secrets.get? .replica ∨ last.get? .replica = none ∨
      ∃ call answer space written, .store call answer ∈ effects ∧ call.Writes space written ∧
        last.get? .replica = some written := by
  induction undergoes with
  | nil => exact .inl rfl
  | left _ ih =>
    rcases ih with kept | empty | ⟨call, answer, space, written, asked, writes, held⟩
    · exact .inl kept
    · exact .inr (.inl empty)
    · exact .inr (.inr ⟨call, answer, space, written, .tail _ asked, writes, held⟩)
  | @carried secrets _ call answer _ _ ih =>
    rcases ih with kept | empty | ⟨call, answer, space, written, asked, writes, held⟩
    · rw [kept]
      by_cases target : Slot.replica = call.target
      · rw [target]
        rcases get?_answer_target secrets call with same | empty | ⟨space, written, writes, held⟩
        · exact .inl same
        · exact .inr (.inl empty)
        · exact .inr (.inr ⟨call, answer, space, written, .head _, writes, held⟩)
      · exact .inl (get?_answer_of_ne target)
    · exact .inr (.inl empty)
    · exact .inr (.inr ⟨call, answer, space, written, .tail _ asked, writes, held⟩)

end Touching

/-- Put a secret into a slot, or empty it. -/
def set (secrets : SecretMap) (slot : Slot) : Option Secret → SecretMap
  | some secret => secrets.put slot secret
  | none => secrets.erase slot

@[simp] theorem get?_set_self (content : Option Secret) :
    (secrets.set slot content).get? slot = content := by
  cases content <;> simp [set]

theorem get?_set_of_ne {other : Slot} (hne : other ≠ slot) (content : Option Secret) :
    (secrets.set slot content).get? other = secrets.get? other := by
  cases content with
  | some secret => exact get?_put_of_ne hne _ _
  | none => exact get?_erase_of_ne hne _

end SecretMap

/-- What happens to the secrets of a cluster. -/
inductive Incident where
  /-- Someone else puts a secret into a slot or empties it. -/
  | changed (slot : Slot) (content : Option Secret)
  /-- An event is handled. -/
  | handled (round : Round)

namespace Incident

/-- The round of an incident. -/
def round? : Incident → Option Round
  | .changed _ _ => none
  | .handled round => some round

/-- The secrets after an incident if no event was handled. -/
def aside (incident : Incident) (secrets : SecretMap) : SecretMap :=
  match incident with
  | .changed slot content => secrets.set slot content
  | .handled _ => secrets

end Incident

/-- The secrets after some incidents if no event was handled. -/
def SecretMap.aside (start : SecretMap) (incidents : List Incident) : SecretMap :=
  incidents.foldl (fun secrets incident => incident.aside secrets) start

theorem SecretMap.aside_concat (start : SecretMap) (incidents : List Incident)
    (incident : Incident) :
    start.aside (incidents ++ [incident]) = incident.aside (start.aside incidents) :=
  List.foldl_append

/-- The secrets go through some incidents. -/
inductive SecretMap.Passes (start : SecretMap) : List Incident → SecretMap → Prop
  | nil : Passes start [] start
  | changed {incidents : List Incident} {secrets : SecretMap} (slot : Slot)
      (content : Option Secret) (rest : Passes start incidents secrets) :
      Passes start (incidents ++ [.changed slot content]) (secrets.set slot content)
  | handled {incidents : List Incident} {secrets last : SecretMap} {round : Round}
      (rest : Passes start incidents secrets)
      (undergoes : secrets.Undergoes round.effects last) :
      Passes start (incidents ++ [.handled round]) last

/-- What the slot of the replica holds is a copy: it was written in a round for a secret that was
provided there, and the version is its only annotation. -/
def Secret.Copied (settings : Settings) (incidents : List Incident) (secret : Secret) : Prop :=
  secret.metadata.annotations = some [(versionKey, settings.version)] ∧
    ∃ round origin, .handled round ∈ incidents ∧ Provided round.event round.effects origin ∧
      secret = origin.replica settings.version

theorem Secret.Copied.concat {settings : Settings} {incidents : List Incident} {secret : Secret}
    (copied : secret.Copied settings incidents) (incident : Incident) :
    secret.Copied settings (incidents ++ [incident]) := by
  obtain ⟨stamped, round, origin, happened, provided⟩ := copied
  exact ⟨stamped, round, origin, List.mem_append_left _ happened, provided⟩

/-- **Nothing but the replica is touched, and that only as it may be.** Every round is confined.
Every slot but that of the replica is as it would be if no event had been handled; and what the slot
of the replica holds is what it would hold then, or a copy. -/
theorem SecretMap.Passes.touches_replica_only {settings : Settings} {start last : SecretMap}
    {incidents : List Incident} {retries : UInt32} (passes : start.Passes incidents last)
    (run : Rounds settings (incidents.filterMap Incident.round?) retries) :
    (∀ round, .handled round ∈ incidents → round.Confined settings) ∧
      (∀ slot, slot ≠ .replica → last.get? slot = (start.aside incidents).get? slot) ∧
      ∀ secret, last.get? .replica = some secret →
        (start.aside incidents).get? .replica = some secret ∨
          secret.Copied settings incidents := by
  induction passes generalizing retries with
  | nil => exact ⟨by simp, fun _ _ => rfl, fun _ held => .inl held⟩
  | @changed incidents secrets slot content _ ih =>
    rw [List.filterMap_append, show [Incident.changed slot content].filterMap Incident.round? = []
      from rfl, List.append_nil] at run
    obtain ⟨rounds, others, replica⟩ := ih run
    refine ⟨by simpa using rounds, fun other hne => ?_, fun secret held => ?_⟩
    · rw [aside_concat, Incident.aside]
      by_cases same : other = slot
      · rw [same, get?_set_self, get?_set_self]
      · rw [get?_set_of_ne same, get?_set_of_ne same]
        exact others other hne
    · rw [aside_concat, Incident.aside]
      by_cases same : Slot.replica = slot
      · subst same
        rw [get?_set_self] at held ⊢
        exact .inl held
      · rw [get?_set_of_ne same] at held ⊢
        exact (replica secret held).imp_right (·.concat _)
  | @handled incidents secrets last round _ undergoes ih =>
    rw [List.filterMap_append] at run
    obtain ⟨count, early, course, -⟩ := Rounds.of_concat run
    obtain ⟨rounds, others, replica⟩ := ih early
    have confined := course.confined
    rw [aside_concat, Incident.aside]
    refine ⟨fun other happened => ?_, fun slot hne => ?_, fun secret held => ?_⟩
    · rcases List.mem_append.mp happened with before | now
      · exact rounds other before
      · cases List.mem_singleton.mp now
        exact confined
    · rw [undergoes.get?_of_ne (fun _ _ => confined.confined.touches) hne]
      exact others slot hne
    · rcases undergoes.replica_cases with kept | empty | ⟨_, _, _, written, asked, writes, put⟩
      · rw [kept] at held
        exact (replica secret held).imp_right (·.concat _)
      · rw [empty] at held
        cases held
      · cases held.symm.trans put
        obtain ⟨-, -, origin, provided, rfl⟩ := confined.confined.writes _ _ _ _ asked writes
        exact .inr ⟨rfl, round, origin, by simp, provided, rfl⟩

/-- The reply to an update of the replica gets lost, and someone else deletes the replica. The
deletion is answered by a copy of what the store gives, and this copy is what the slot holds. -/
theorem copied_after_lost_reply :
    let settings : Settings := ⟨"4.1.0", "cluster", 0, 5⟩
    let source : Secret := { metadata := { name := some "coreos-pull-secret",
                                           space := some "kube-system" } }
    let copy := source.replica "4.1.0"
    let config := Config.new "cluster" {}
    let lost := SyncError.api .unreachable
    let report := config.reportError ⟨1, 0⟩ Config.credentialType .unknown lost.message
    let settled := config.settle ⟨2, 0⟩ Config.credentialType .holds
    let updated : Round := ⟨.applied source, config, 0, ⟨1, 0⟩,
      [.create "4.1.0" source (.error (.alreadyExists .replica)),
        .update "4.1.0" source (.error lost), .writeStatus report (.ok ())],
      ⟨.ok .statusFlushed, report, 0⟩⟩
    let restored : Round := ⟨.removed copy, config, 0, ⟨2, 0⟩,
      [.store (.get .source) (.ok (some source)), .create "4.1.0" source (.ok copy),
        .writeStatus settled (.ok ())], ⟨.ok .statusFlushed, settled, 0⟩⟩
    let incidents : List Incident :=
      [.handled updated, .changed .replica none, .handled restored]
    let start : SecretMap := [(.source, source), (.replica, {})]
    Rounds settings [updated, restored] 0 ∧ ∃ last, start.Passes incidents last ∧
      last.get? .replica = some copy ∧ copy.Copied settings incidents := by
  intro settings source copy config lost report settled updated restored incidents start
  have failing : Managing "4.1.0" ⟨1, 0⟩ config (.applied source) _ (.error lost) :=
    .uncopied rfl rfl (.given (.missed (.alreadyExists .replica) rfl lost))
  have reported : Handling settings ⟨1, 0⟩ 0 config 0 (.applied source) _ _ :=
    .failed (by decide) failing (.ok ())
  have writing : Writing "4.1.0" source [.create "4.1.0" source (.ok copy)] _ := .created copy
  have managing : Managing "4.1.0" ⟨2, 0⟩ config (.removed copy) _ (.ok settled) :=
    .restored rfl rfl (.fetched writing) (by decide)
  have restoring : Handling settings ⟨2, 0⟩ 0 config 0 (.removed copy) _ _ :=
    .turned (by decide) managing (by decide) (.ok ())
  have first : Rounds settings [updated] 0 := Rounds.nil.concat (leads_handle_iff.mpr reported)
  have run : Rounds settings [updated, restored] 0 :=
    first.concat (leads_handle_iff.mpr restoring)
  let emptied := (start.answer (.update Slot.replica.space copy)).2.set .replica none
  let last := (emptied.answer (.create Slot.replica.space copy)).2
  have slot : SecretMap.slotIn Slot.replica.space copy = .replica := rfl
  have absent : emptied.get? .replica = none := SecretMap.get?_set_self none
  have held : last.get? .replica = some copy := by simp [last, SecretMap.answer, slot, absent]
  have update : start.Undergoes updated.effects _ := .left (.carried (.left (.nil _)))
  have restore : emptied.Undergoes restored.effects last := .left (.carried (.left (.nil _)))
  have passes : start.Passes incidents last :=
    .handled (.changed .replica none (.handled .nil update)) restore
  have alone : (start.aside incidents).get? .replica = none := SecretMap.get?_set_self none
  refine ⟨run, last, passes, held, ?_⟩
  exact ((passes.touches_replica_only run).2.2 copy held).resolve_left (by simp [alone])

end PullSecretSync
