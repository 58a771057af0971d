import PullSecretSync.Proofs.Patching
import PullSecretSync.Proofs.Revising
import PullSecretSync.Proofs.Server

/-!
# Operations at the same time

Events are attended to and configurations are reconciled at the same time, any number of each.
An operation starts from a configuration that was held at some time, or reads the one that is held;
between its questions those of others are answered, and others change what was asked for.

Of every operation that is under way it is kept in mind what it was asked and answered. Whatever it
writes is written of a configuration that was held, and names the version of it.
-/

namespace PullSecretSync

open Sync

/-- What is done at the same time as other things. -/
inductive Operation where
  /-- Attend to a delivery, as a manager does in each of its steps. -/
  | attend (now : Instant) (inFlight : UInt64) (retries : UInt32) (delivery : Delivery)
  /-- Reconcile a configuration as it was seen. -/
  | reconcile (config : Config) (now : Instant)

namespace Operation

/-- What an operation ends with. -/
abbrev Result : Operation → Type
  | .attend .. => Fate × UInt32
  | .reconcile .. => Except SyncError Unit

/-- What an operation does. -/
def computation (settings : Settings) : (operation : Operation) → Sync operation.Result
  | .attend now inFlight retries delivery => Sync.attend settings now inFlight retries delivery
  | .reconcile config now => Sync.reconcile config now

/-- A configuration that an operation starts from is what is read of the stored one. -/
def Sees {name : String} (stored : Stored name) : Operation → Prop
  | .attend .. => True
  | .reconcile config _ => stored.Shows config

/-- What an operation computes from: the configuration that it read, or that it was given. -/
def Base (settings : Settings) (asked : List Effect) (base : Config) : Operation → Prop
  | .attend .. => .readConfig settings.configName (.ok (some base)) ∈ asked
  | .reconcile config _ => base = config

/-- An operation has failed: the event is put off, or the error is passed on. -/
def Fails (error : SyncError) : (operation : Operation) → operation.Result → Prop
  | .attend .., (fate, _) => ∃ event, fate = .deferred event
  | .reconcile .., result => result = .error error

end Operation

namespace Server

variable {name : String}

/-- A question is answered, and the server is left in some state. Nothing is assumed about secrets;
a configuration that is read is the one that is held. -/
inductive Answers (server : Server name) :
    (question : Call) → question.Answer → Server name → Prop
  | store (call : StoreCall) (answer : call.Answer) : Answers server (.store call) answer server
  | readSecret (slot : Slot) (answer : Except ApiError (Option Secret)) :
      Answers server (.readSecret slot) answer server
  | readConfig {answer : Except ApiError (Option Config)}
      (held : ∀ config, answer = .ok (some config) → server.current.Shows config) :
      Answers server (.readConfig name) answer server
  | writeStatus {config : Config} {answer : Except SyncError Unit} {last : Server name}
      (talks : server.Talks (Http.writeStatus config) answer last) :
      Answers server (.writeStatus config) answer last

/-- Some questions are answered in their order. -/
inductive Meets : Server name → List Effect → Server name → Prop
  | nil (server : Server name) : Meets server [] server
  | cons {server middle last : Server name} {question : Call} {answer : question.Answer}
      {effects : List Effect} (answers : server.Answers question answer middle)
      (rest : Meets middle effects last) : Meets server (⟨question, answer⟩ :: effects) last

variable {server middle last : Server name} {effects rest : List Effect}

theorem Meets.append (meets : server.Meets effects middle) (later : middle.Meets rest last) :
    server.Meets (effects ++ rest) last := by
  induction meets with
  | nil => exact later
  | cons answers _ ih => exact .cons answers (ih later)

/-- Questions that leave the server alone are answered with nothing in between. -/
theorem meets_of_forall (still : ∀ effect ∈ effects, server.Answers effect.1 effect.2 server) :
    server.Meets effects server := by
  induction effects with
  | nil => exact .nil server
  | cons effect effects ih =>
    exact .cons (still effect List.mem_cons_self)
      (ih fun other asked => still other (List.mem_cons_of_mem _ asked))

/-- What is asked about secrets is answered in any case, and the configuration is read as it is
held. -/
theorem meets_of_read {reads managing : List Effect} {base : Config}
    (secrets : ∀ effect ∈ reads, ∃ slot reply, effect = .readSecret slot reply)
    (shows : server.current.Shows base) (stores : ∀ effect ∈ managing, effect.IsStore) :
    server.Meets (reads ++ .readConfig name (.ok (some base)) :: managing) server := by
  refine meets_of_forall fun effect asked => ?_
  rcases List.mem_append.mp asked with early | asked
  · obtain ⟨slot, reply, rfl⟩ := secrets effect early
    exact .readSecret slot reply
  · rcases List.mem_cons.mp asked with rfl | asked
    · refine .readConfig fun config same => ?_
      cases same
      exact shows
    · obtain ⟨call, reply, rfl⟩ := stores effect asked
      exact .store call reply

end Server

/-! ## What an operation writes -/

/-- How the configuration that an operation writes comes about: it is computed from the one that
the operation has read or was given, and from nothing else that the server holds. -/
structure Operation.Derives (settings : Settings) (operation : Operation) (asked : List Effect)
    (base written : Config) : Prop where
  based : operation.Base settings asked base
  metadata : written.metadata = base.metadata
  /-- If the credential existed, its condition is set, and not to its being missing. -/
  candid : base.conditionHolds Config.credentialType = true →
    written.conditions ≠ [] ∧ ¬ written.Lacks
  sees : ∀ stored : Stored settings.configName, stored.Shows base → operation.Sees stored
  meets : ∀ server : Server settings.configName, server.current.Shows base →
    server.Meets asked server

namespace Operation

variable {settings : Settings} {operation : Operation} {asked later : List Effect}
  {written : Config} {answer : Except SyncError Unit}

/-- An operation writes once, at its end, and it fails if the write does. -/
theorem of_write {result : operation.Result}
    (leads : Leads (operation.computation settings) (asked ++ .writeStatus written answer :: later)
      result) :
    later = [] ∧ (∃ base, operation.Derives settings asked base written) ∧
      ∀ error, answer = .error error → operation.Fails error result := by
  cases operation with
  | attend now inFlight retries delivery =>
    have attending := leads_attend_iff.mp leads
    obtain ⟨rfl, reads, base, managing, rfl, secrets, stores, tends, fails⟩ :=
      attending.of_write rfl
    refine ⟨rfl, ⟨base, ?_, tends.metadata_eq, tends.candid, fun _ _ => trivial, ?_⟩, fails⟩
    · exact List.mem_append_right _ List.mem_cons_self
    · exact fun server shows => Server.meets_of_read secrets shows stores
  | reconcile config now =>
    have reconciling := leads_reconcile_iff.mp leads
    generalize effects : asked ++ .writeStatus written answer :: later = all at reconciling
    cases reconciling with
    | passed => simp at effects
    | recorded flush =>
      cases asked with
      | cons => simp at effects
      | nil =>
        cases effects
        refine ⟨rfl, ⟨config, rfl, config.gate_metadata now, fun holds => ?_, fun _ => id,
          fun server _ => .nil server⟩, fun error same => same⟩
        simp [Config.gate_of_holds holds now] at flush

end Operation

/-! ## Operations that are under way -/

/-- An operation that is under way: what it was asked and answered so far, but for the log, and
what it has still to do. -/
structure Task where
  operation : Operation
  asked : List Effect
  rest : Sync operation.Result

/-- The server, and all that is under way. -/
structure System (name : String) where
  server : Server name
  tasks : List Task

/-- A question that was put and answered. -/
structure Contact (name : String) where
  operation : Operation
  /-- What the operation was asked and answered before. -/
  asked : List Effect
  effect : Effect
  before : Server name
  after : Server name

/-- What the server holds was replaced. -/
def Contact.accepted {name : String} (contact : Contact name) : Bool :=
  contact.before.current.version ≠ contact.after.current.version

namespace System

variable {settings : Settings}

/-- A system gets from one state to another, with some questions being put on the way. Operations
start at any time, and any of those that are under way may go on. Others may change all but the
status of the configuration. -/
inductive Interleaves (settings : Settings) : System settings.configName →
    List (Contact settings.configName) → System settings.configName → Prop
  | nil (system : System settings.configName) : Interleaves settings system [] system
  | started {system last : System settings.configName}
      {contacts : List (Contact settings.configName)} {operation : Operation}
      {stored : Stored settings.configName} (held : stored ∈ system.server.states)
      (sees : operation.Sees stored)
      (rest : Interleaves settings { system with
        tasks := ⟨operation, [], operation.computation settings⟩ :: system.tasks } contacts last) :
      Interleaves settings system contacts last
  | configured {system last : System settings.configName}
      {contacts : List (Contact settings.configName)} {next : Stored settings.configName}
      (fresh : next.version ∉ system.server.states.map Stored.version)
      (status : next.status = system.server.current.status)
      (rest : Interleaves settings { system with server := system.server.replace next fresh }
        contacts last) : Interleaves settings system contacts last
  | noted {server : Server settings.configName} {last : System settings.configName}
      {before after : List Task} {contacts : List (Contact settings.configName)}
      {operation : Operation} {asked : List Effect} {entry : LogEntry}
      {next : Unit → Sync operation.Result}
      (rest : Interleaves settings ⟨server, before ++ ⟨operation, asked, next ()⟩ :: after⟩
        contacts last) :
      Interleaves settings
        ⟨server, before ++ ⟨operation, asked, .ask (.note entry) next⟩ :: after⟩ contacts last
  | answered {server middle : Server settings.configName} {last : System settings.configName}
      {before after : List Task} {contacts : List (Contact settings.configName)}
      {operation : Operation} {asked : List Effect} {question : Call}
      {next : question.Answer → Sync operation.Result} {answer : question.Answer}
      (answers : server.Answers question answer middle)
      (rest : Interleaves settings
        ⟨middle, before ++ ⟨operation, asked ++ [⟨question, answer⟩], next answer⟩ :: after⟩
        contacts last) :
      Interleaves settings ⟨server, before ++ ⟨operation, asked, .ask question next⟩ :: after⟩
        (⟨operation, asked, ⟨question, answer⟩, server, middle⟩ :: contacts) last

namespace Interleaves

variable {start middle last : System settings.configName}
  {contacts later : List (Contact settings.configName)}

theorem trans (run : start.Interleaves settings contacts middle)
    (rest : middle.Interleaves settings later last) :
    start.Interleaves settings (contacts ++ later) last := by
  induction run with
  | nil => exact rest
  | started held sees _ ih => exact .started held sees (ih rest)
  | configured fresh status _ ih => exact .configured fresh status (ih rest)
  | noted _ ih => exact .noted (ih rest)
  | answered answers _ ih => exact .answered answers (ih rest)

/-- An operation may go on alone, to its end. -/
theorem exists_of_leads {operation : Operation} {computation : Sync operation.Result}
    {effects : List Effect} {result : operation.Result} (leads : Leads computation effects result)
    {server middle : Server settings.configName} (meets : server.Meets effects middle)
    (asked : List Effect) (before after : List Task) :
    ∃ contacts, contacts.map Contact.effect = effects ∧
      Interleaves settings ⟨server, before ++ ⟨operation, asked, computation⟩ :: after⟩ contacts
        ⟨middle, before ++ ⟨operation, asked ++ effects, .done result⟩ :: after⟩ := by
  induction leads generalizing server asked with
  | done =>
    cases meets
    rw [List.append_nil]
    exact ⟨[], rfl, .nil _⟩
  | note _ ih =>
    obtain ⟨contacts, same, run⟩ := ih meets asked
    exact ⟨contacts, same, .noted run⟩
  | @ask question next effects _ _ answer _ ih =>
    cases meets with
    | cons answers rest =>
      obtain ⟨contacts, same, run⟩ := ih rest (asked ++ [⟨question, answer⟩])
      rw [List.append_assoc] at run
      refine ⟨_, ?_, .answered answers run⟩
      rw [List.map_cons, same]

end Interleaves

end System

end PullSecretSync
