import PullSecretSync.Api.Cluster
import PullSecretSync.Json.Merge
import Mathlib.Data.List.Basic
import Mathlib.Data.List.Nodup

/-!
# The server of the configuration

The server holds the configuration of a name. Every change gives the configuration a version that
it never had before. A patch of the status that names the version which is held, or names none, may
be accepted; one that names another version is refused as a conflict. Nothing is assumed about
replies to anything else, nor that the reply to an accepted patch arrives.

What the writing of a status comes to is summed up in `Writes`: a status that was read at the
version which is held may replace the status there, and one that was read at another version leaves
it alone and meets a conflict.
-/

namespace PullSecretSync

variable {name : String}

/-- The configuration of a name as the server holds it. -/
structure Stored (name : String) where
  version : String
  metadata : ObjectMeta
  spec : ConfigSpec
  /-- The document of the status, which is null if there is none. -/
  status : Json
  versioned : metadata.resourceVersion = some version
  named : metadata.displayName = name

namespace Stored

/-- A configuration is what is read of a stored one. -/
structure Shows (stored : Stored name) (config : Config) : Prop where
  metadata : config.metadata = stored.metadata
  spec : config.spec = stored.spec
  status : ConfigStatus.decoder.nullable.decode stored.status = .ok config.status

variable {stored : Stored name} {config other : Config}

theorem Shows.resourceVersion_eq (shows : stored.Shows config) :
    config.resourceVersion = some stored.version := by
  rw [Config.resourceVersion, shows.metadata, stored.versioned]

theorem Shows.displayName_eq (shows : stored.Shows config) : config.displayName = name := by
  rw [Config.displayName, shows.metadata, stored.named]

/-- What is stored is read in one way. -/
theorem Shows.eq (shows : stored.Shows config) (too : stored.Shows other) : config = other := by
  obtain ⟨metadata, spec, status⟩ := config
  obtain ⟨metadata', spec', status'⟩ := other
  obtain rfl : metadata = metadata' := shows.metadata.trans too.metadata.symm
  obtain rfl : spec = spec' := shows.spec.trans too.spec.symm
  obtain rfl : status = status' := Except.ok.inj (shows.status.symm.trans too.status)
  rfl

end Stored

/-- Where the status of a configuration is patched. -/
def statusTarget (name : String) : String :=
  configsPath ++ "/" ++ name ++ "/status" ++ Http.targetEnd .patch

/-- The server of a configuration that can be addressed, with all that it has held before. -/
structure Server (name : String) where
  current : Stored name
  past : List (Stored name)
  address : Address
  distinct : ((current :: past).map Stored.version).Nodup
  nonempty : name ≠ ""
  addressed : Address.ofText (statusTarget name) = .ok address

/-- The version that a patch names. -/
def Json.version? (patch : Json) : Option Json :=
  (patch.member? "metadata").bind (·.member? "resourceVersion")

namespace Server

/-- All that the server has held, the newest first. -/
def states (server : Server name) : List (Stored name) := server.current :: server.past

/-- A state with a version that was never held takes the place of the one that is held. -/
def replace (server : Server name) (next : Stored name)
    (fresh : next.version ∉ server.states.map Stored.version) : Server name :=
  { server with
    current := next
    past := server.states
    distinct := List.nodup_cons.mpr ⟨fresh, server.distinct⟩ }

/-- A request asks for a patch of the status. -/
structure Patches (server : Server name) (request : Request) (patch : Json) : Prop where
  method : request.method = .patch
  address : request.address = server.address
  body : request.body = some patch

/-- The patch does not insist on another version than the one that is held. -/
def Admits (server : Server name) (patch : Json) : Prop :=
  ∀ version, patch.version? = some version → version = .str server.current.version

/-- What the server replies, and what it holds then. -/
inductive Replies (server : Server name) : Request → Reply → Server name → Prop
  | accepted {request : Request} {patch change : Json} (patches : server.Patches request patch)
      (admitted : server.Admits patch) (changes : patch.member? "status" = some change)
      {next : Stored name} (fresh : next.version ∉ server.states.map Stored.version)
      (spec : next.spec = server.current.spec)
      (status : next.status = server.current.status.merge change) (reply : Reply) :
      Replies server request reply (server.replace next fresh)
  | outdated {request : Request} {patch : Json} {content : String}
      (patches : server.Patches request patch) (outdated : ¬ server.Admits patch)
      (conflict : (Fault.ofReply 409 content).code = 409) :
      Replies server request (.answered 409 content) server
  /-- Something else stands in the way of the patch. -/
  | hindered {request : Request} {patch : Json} (patches : server.Patches request patch)
      (admitted : server.Admits patch) (reply : Reply) : Replies server request reply server
  | other {request : Request} (other : ∀ patch, ¬ server.Patches request patch) (reply : Reply) :
      Replies server request reply server

/-- A computation that talks to the server may end with a value and leave the server in a state. -/
inductive Talks {α : Type} : Server name → Http α → α → Server name → Prop
  | done (server : Server name) (value : α) : Talks server (.done value) value server
  | note {server last : Server name} {entry : LogEntry} {next : Unit → Http α} {value : α}
      (rest : Talks server (next ()) value last) :
      Talks server (.ask (.note entry) next) value last
  | send {server middle last : Server name} {request : Request} {reply : Reply}
      {next : Reply → Http α} {value : α} (replies : server.Replies request reply middle)
      (rest : Talks middle (next reply) value last) :
      Talks server (.ask (.send request) next) value last

variable {server last : Server name} {config : Config} {answer : Except SyncError Unit}

/-- A version was held once. -/
theorem eq_of_version_eq {stored other : Stored name} (held : stored ∈ server.states)
    (too : other ∈ server.states) (same : stored.version = other.version) : stored = other :=
  List.inj_on_of_nodup_map server.distinct held too same

theorem current_mem_states : server.current ∈ server.states := List.mem_cons_self

/-- What takes the place of a state has another version. -/
theorem version_current_replace_ne {next : Stored name}
    (fresh : next.version ∉ server.states.map Stored.version) :
    (server.replace next fresh).current.version ≠ server.current.version := fun same =>
  fresh (List.mem_map.mpr ⟨_, current_mem_states, same.symm⟩)

/-- What was held stays among what was held. -/
theorem Replies.states_subset {request : Request} {reply : Reply}
    (replies : server.Replies request reply last) : server.states ⊆ last.states := by
  cases replies with
  | accepted => exact List.subset_cons_self _ _
  | _ => exact List.Subset.refl _

theorem Talks.states_subset {α : Type} {computation : Http α} {value : α}
    (talks : server.Talks computation value last) : server.states ⊆ last.states := by
  induction talks with
  | done => exact List.Subset.refl _
  | note _ ih => exact ih
  | send replies _ ih => exact List.Subset.trans replies.states_subset ih

/-! ## Writing a status -/

/-- The writing of a status has some answer and leaves the server in some state. -/
inductive Writes (server : Server name) (config : Config) :
    Except SyncError Unit → Server name → Prop
  | accepted (timely : config.resourceVersion = some server.current.version) {next : Stored name}
      (fresh : next.version ∉ server.states.map Stored.version)
      (spec : next.spec = server.current.spec)
      (status : next.status =
        server.current.status.merge ((config.status.map ConfigStatus.encode).getD .null))
      (answer : Except SyncError Unit) : Writes server config answer (server.replace next fresh)
  | hindered (timely : config.resourceVersion = some server.current.version)
      (answer : Except SyncError Unit) : Writes server config answer server
  | outdated (late : config.resourceVersion ≠ some server.current.version) :
      Writes server config (.error (.conflict name)) server

theorem member?_statusPatch (config : Config) : config.statusPatch.member? "status" =
    some ((config.status.map ConfigStatus.encode).getD .null) := by
  rw [Config.statusPatch]
  cases config.resourceVersion <;> simp [Json.optional, Json.member?, Json.lookup_cons]

/-- A patch of a status names the version at which the configuration was read. -/
theorem version?_statusPatch (config : Config) :
    config.statusPatch.version? = config.resourceVersion.map .str := by
  rw [Config.statusPatch]
  cases config.resourceVersion <;>
    simp [Json.version?, Json.optional, Json.member?, Json.lookup_cons, Json.lookup_nil]

/-- Of a configuration that was read at some version, the patch is admitted at this version. -/
theorem admits_statusPatch_iff {version : String} (read : config.resourceVersion = some version) :
    server.Admits config.statusPatch ↔ config.resourceVersion = some server.current.version := by
  rw [Admits, version?_statusPatch, read]
  simp

/-- The request that writes the status of a configuration. -/
def patchRequest (server : Server name) (config : Config) : Request :=
  ⟨.patch, server.address, some config.statusPatch⟩

/-- What the reply to a patch means for the writing of a status. -/
def written (name : String) (reply : Reply) : Except SyncError Unit :=
  match reply.readBy Config.decoder.parse with
  | .ok _ => .ok ()
  | .error (.refused fault) =>
    if fault.code = 409 then .error (.conflict name) else .error (.api (.refused fault))
  | .error error => .error (.api error)

@[simp] theorem talks_done_iff {α : Type} {value result : α} :
    server.Talks (.done value) result last ↔ last = server ∧ result = value := by
  constructor
  · rintro ⟨⟩
    exact ⟨rfl, rfl⟩
  · rintro ⟨rfl, rfl⟩
    exact .done _ _

@[simp] theorem talks_note_bind_iff {α : Type} {severity : Severity} {text : String}
    {next : Unit → Http α} {result : α} :
    server.Talks ((Http.note severity text).bind next) result last ↔
      server.Talks (next ()) result last := by
  constructor
  · intro h
    cases h with
    | note rest => exact rest
  · exact .note

theorem talks_send_iff {α : Type} {request : Request} {next : Reply → Http α} {result : α} :
    server.Talks (.ask (.send request) next) result last ↔
      ∃ reply middle, server.Replies request reply middle ∧
        middle.Talks (next reply) result last := by
  constructor
  · intro h
    cases h with
    | send replies rest => exact ⟨_, _, replies, rest⟩
  · rintro ⟨reply, middle, replies, rest⟩
    exact .send replies rest

/-- The status is patched where the server has it. -/
private theorem sendNamed_eq (server : Server name) (patch : Json) :
    Http.sendNamed .patch configsPath name "/status" (some patch) =
      .ask (.send ⟨.patch, server.address, some patch⟩) fun reply => .done (.ok reply) := by
  have addressed := server.addressed
  rw [statusTarget] at addressed
  rw [Http.sendNamed, if_neg server.nonempty, Http.sendTo, addressed]
  rfl

/-- A status is written by one request. -/
theorem talks_writeStatus_iff (named : config.displayName = name) :
    server.Talks (Http.writeStatus config) answer last ↔
      ∃ reply, server.Replies (server.patchRequest config) reply last ∧
        answer = written name reply := by
  have conclude (reply : Reply) (middle : Server name) :
      middle.Talks (match reply.readBy Config.decoder.parse with
        | .ok _ => do
          Http.note .debug ("Status of config " ++ name ++ " updated")
          return .ok ()
        | .error (.refused fault) =>
          if fault.code = 409 then return .error (.conflict name)
          else return .error (.api (.refused fault))
        | .error error => return .error (.api error)) answer last ↔
        last = middle ∧ answer = written name reply := by
    rw [written]
    cases reply.readBy Config.decoder.parse with
    | ok => exact talks_note_bind_iff.trans talks_done_iff
    | error error =>
      cases error with
      | refused fault => by_cases stale : fault.code = 409 <;> simp [stale]
      | _ => exact talks_done_iff
  rw [Http.writeStatus, Http.patchStatus, named, sendNamed_eq server]
  refine talks_send_iff.trans ?_
  constructor
  · rintro ⟨reply, middle, replies, rest⟩
    obtain ⟨rfl, rfl⟩ := (conclude reply middle).mp rest
    exact ⟨reply, replies, rfl⟩
  · rintro ⟨reply, replies, rfl⟩
    exact ⟨reply, last, replies, (conclude reply last).mpr ⟨rfl, rfl⟩⟩

/-- A refusal for the version is a conflict. -/
theorem written_of_conflict {content : String}
    (conflict : (Fault.ofReply 409 content).code = 409) :
    written name (.answered 409 content) = .error (.conflict name) := by
  have refused : (Reply.answered 409 content).readBy Config.decoder.parse =
      .error (.refused (Fault.ofReply 409 content)) := rfl
  rw [written, refused]
  exact if_pos conflict

section Written

variable {version : String} (named : config.displayName = name)
  (read : config.resourceVersion = some version)

include named read

/-- What the writing of a status comes to, if the version at which it was read is known. -/
theorem writes_of_talks (talks : server.Talks (Http.writeStatus config) answer last) :
    server.Writes config answer last := by
  obtain ⟨reply, replies, rfl⟩ := (talks_writeStatus_iff named).mp talks
  have patches : server.Patches (server.patchRequest config) config.statusPatch := ⟨rfl, rfl, rfl⟩
  cases replies with
  | accepted asks admitted changes fresh spec status =>
    cases asks.body
    cases changes.symm.trans (member?_statusPatch config)
    exact .accepted ((admits_statusPatch_iff read).mp admitted) fresh spec status _
  | outdated asks outdated conflict =>
    cases asks.body
    rw [written_of_conflict conflict]
    exact .outdated fun timely => outdated ((admits_statusPatch_iff read).mpr timely)
  | hindered asks admitted =>
    cases asks.body
    exact .hindered ((admits_statusPatch_iff read).mp admitted) _
  | other other => exact absurd patches (other _)

/-- A status that is in time may be accepted, whatever is replied. -/
theorem talks_of_accepted (timely : config.resourceVersion = some server.current.version)
    {next : Stored name} (fresh : next.version ∉ server.states.map Stored.version)
    (spec : next.spec = server.current.spec)
    (status : next.status =
      server.current.status.merge ((config.status.map ConfigStatus.encode).getD .null))
    (reply : Reply) :
    server.Talks (Http.writeStatus config) (written name reply) (server.replace next fresh) := by
  have admitted := (admits_statusPatch_iff read).mpr timely
  have replies : server.Replies (server.patchRequest config) reply (server.replace next fresh) :=
    .accepted ⟨rfl, rfl, rfl⟩ admitted (member?_statusPatch config) fresh spec status reply
  exact (talks_writeStatus_iff named).mpr ⟨reply, replies, rfl⟩

/-- A status that is late meets a conflict. -/
theorem talks_of_late (late : config.resourceVersion ≠ some server.current.version) :
    server.Talks (Http.writeStatus config) (.error (.conflict name)) server := by
  have outdated : ¬ server.Admits config.statusPatch := fun admitted =>
    late ((admits_statusPatch_iff read).mp admitted)
  have conflict : (Fault.ofReply 409 "").code = 409 := by decide +kernel
  have replies : server.Replies (server.patchRequest config) (.answered 409 "") server :=
    .outdated ⟨rfl, rfl, rfl⟩ outdated conflict
  rw [← written_of_conflict conflict]
  exact (talks_writeStatus_iff named).mpr ⟨_, replies, rfl⟩

end Written

end Server

end PullSecretSync
