import PullSecretSync.Proofs.Interleaving

/-!
# No update is lost

Whatever operations are under way at the same time, what the server holds changes as if those whose
status was accepted had run one after the other, each alone and with the answers it really got: the
status that an operation replaces is the one that it started from. A status that comes too late is
refused and changes nothing, and the operation fails with the conflict. As the gate writes nothing
when the credential exists, that it exists is never replaced by its being missing.
-/

namespace PullSecretSync

open Sync

variable {settings : Settings}

/-! ## What is known of an operation under way -/

/-- What an operation has asked is the start of one of its courses, and what it computes from was
held at some time. -/
structure Task.Sound (settings : Settings) (server : Server settings.configName) (task : Task) :
    Prop where
  course : ∀ effects result, Leads task.rest effects result →
    Leads (task.operation.computation settings) (task.asked ++ effects) result
  seen : ∀ base, task.operation.Base settings task.asked base →
    ∃ stored ∈ server.states, stored.Shows base

namespace Server

variable {name : String} {server last : Server name} {question : Call} {answer : question.Answer}

theorem Answers.states_subset (answers : server.Answers question answer last) :
    server.states ⊆ last.states := by
  cases answers with
  | writeStatus talks => exact talks.states_subset
  | _ => exact List.Subset.refl _

theorem Answers.isNote_eq (answers : server.Answers question answer last) :
    question.isNote = false := by
  cases answers <;> rfl

end Server

namespace Task.Sound

variable {server last : Server settings.configName} {task : Task} {operation : Operation}
  {asked : List Effect}

/-- Nothing is asked of an operation that starts, and it sees what was held. -/
theorem start {stored : Stored settings.configName} (held : stored ∈ server.states)
    (sees : operation.Sees stored) :
    Task.Sound settings server ⟨operation, [], operation.computation settings⟩ where
  course _ _ leads := leads
  seen base based := by
    cases operation with
    | attend => cases based
    | reconcile config now =>
      obtain rfl : base = config := based
      exact ⟨stored, held, sees⟩

theorem mono (sound : Task.Sound settings server task) (more : server.states ⊆ last.states) :
    Task.Sound settings last task where
  course := sound.course
  seen base based := by
    obtain ⟨stored, held, shows⟩ := sound.seen base based
    exact ⟨stored, more held, shows⟩

theorem note {entry : LogEntry} {next : Unit → Sync operation.Result}
    (sound : Task.Sound settings server ⟨operation, asked, .ask (.note entry) next⟩) :
    Task.Sound settings server ⟨operation, asked, next ()⟩ where
  course effects result leads := sound.course effects result (.note leads)
  seen := sound.seen

/-- A configuration that is read is one that is held. -/
theorem answer {question : Call} {answer : question.Answer}
    {next : question.Answer → Sync operation.Result}
    (sound : Task.Sound settings server ⟨operation, asked, .ask question next⟩)
    (answers : server.Answers question answer last) :
    Task.Sound settings last ⟨operation, asked ++ [⟨question, answer⟩], next answer⟩ where
  course effects result leads := by
    have course := sound.course _ result (.ask answers.isNote_eq answer leads)
    rwa [List.append_assoc]
  seen base based := by
    have old : operation.Base settings asked base →
        ∃ stored ∈ last.states, stored.Shows base := (sound.mono answers.states_subset).seen base
    cases operation with
    | reconcile => exact old based
    | attend =>
      rcases List.mem_append.mp based with early | now
      · exact old early
      · cases List.mem_singleton.mp now
        cases answers with
        | readConfig held => exact ⟨_, Server.current_mem_states, held base rfl⟩

end Task.Sound

/-! ## What a contact leaves behind -/

/-- A configuration that is written with conditions is read with what they say. -/
theorem Stored.Shows.lacks_of_merge {name : String} {stored next : Stored name}
    {written config : Config} (told : written.conditions ≠ [])
    (status : next.status =
      stored.status.merge ((written.status.map ConfigStatus.encode).getD .null))
    (shows : next.Shows config) (lacks : config.Lacks) : written.Lacks := by
  cases present : written.status with
  | none => simp [Config.conditions, present] at told
  | some recorded =>
    have recordedAs : written.conditions = recorded.conditions := by
      rw [Config.conditions, present, Option.getD_some]
    rw [recordedAs] at told
    have reads := shows.status
    rw [status, present] at reads
    have same : config.conditions.map Condition.gist = written.conditions.map Condition.gist := by
      rw [recordedAs]
      exact ConfigStatus.gist_of_read_merge told reads
    obtain ⟨-, sameStatus, sameMessage⟩ := Condition.gist_eq_iff.mp
      (Config.gist_condition Config.credentialType same)
    rwa [Config.Lacks, sameStatus, sameMessage] at lacks

namespace Contact

/-- The operation of a contact could have got there alone, with the server as it was at the contact
and with the answers that it got. -/
structure Alone (settings : Settings) (contact : Contact settings.configName) : Prop where
  sees : contact.operation.Sees contact.before.current
  course : ∃ result, Leads (contact.operation.computation settings)
    (contact.asked ++ [contact.effect]) result
  meets : contact.before.Meets (contact.asked ++ [contact.effect]) contact.after

/-- What holds of every contact. -/
structure Orderly (settings : Settings) (contact : Contact settings.configName) : Prop where
  /-- What replaces a status was computed from this status. -/
  derived : contact.accepted = true → ∃ base written answer,
    contact.effect = .writeStatus written answer ∧
    contact.operation.Base settings contact.asked base ∧ contact.before.current.Shows base
  alone : contact.accepted = true → contact.Alone settings
  unchanged : contact.accepted = false → contact.after = contact.before
  /-- What was computed from an old status is refused. -/
  refused : ∀ written answer, contact.effect = .writeStatus written answer →
    written.resourceVersion ≠ some contact.before.current.version →
    contact.accepted = false ∧ answer = .error (.conflict settings.configName) ∧
    ∀ result, Leads (contact.operation.computation settings) (contact.asked ++ [contact.effect])
      result → contact.operation.Fails (.conflict settings.configName) result
  /-- That the credential exists is not replaced by its being missing: neither is this written
  with success, nor is it what is read of the server afterwards. -/
  candid : ∀ config, contact.before.current.Shows config →
    config.conditionHolds Config.credentialType = true →
    (∀ written answer, contact.effect = .writeStatus written answer → contact.accepted = true →
      ¬ written.Lacks) ∧ ∀ next, contact.after.current.Shows next → ¬ next.Lacks

/-- A contact that leaves the server alone is in good order if it is in case of a late status. -/
theorem Orderly.of_still {contact : Contact settings.configName}
    (still : contact.after = contact.before)
    (refused : ∀ written answer, contact.effect = .writeStatus written answer →
      written.resourceVersion ≠ some contact.before.current.version →
      answer = .error (.conflict settings.configName) ∧
      ∀ result, Leads (contact.operation.computation settings)
        (contact.asked ++ [contact.effect]) result →
        contact.operation.Fails (.conflict settings.configName) result) :
    contact.Orderly settings := by
  have kept : contact.accepted = false := by simp [accepted, still]
  refine ⟨?_, ?_, fun _ => still, fun written answer writes late => ⟨kept, ?_⟩, ?_⟩
  · simp [kept]
  · simp [kept]
  · exact refused written answer writes late
  · refine fun config shows holds => ⟨by simp [kept], fun next shown lacks => ?_⟩
    rw [still] at shown
    obtain rfl := shows.eq shown
    exact absurd (lacks.1.symm.trans (of_decide_eq_true holds)) (by decide)

end Contact

namespace Task.Sound

variable {server last : Server settings.configName} {operation : Operation} {asked : List Effect}

section Write

variable {written : Config} {answer : Except SyncError Unit}
  {next : Except SyncError Unit → Sync operation.Result}

/-- The writing of a status ends a course. -/
theorem course_of_write
    (sound : Task.Sound settings server ⟨operation, asked, .ask (.writeStatus written) next⟩)
    (answer : Except SyncError Unit) :
    ∃ result, Leads (operation.computation settings) (asked ++ [.writeStatus written answer])
      result := by
  obtain ⟨effects, result, leads⟩ := Sync.exists_leads (next answer)
  have course := sound.course _ result (.ask rfl answer leads)
  obtain ⟨rfl, -, -⟩ := Operation.of_write course
  exact ⟨result, course⟩

/-- What an operation writes is computed from a configuration that was held, and it names the
version of it. -/
theorem derives
    (sound : Task.Sound settings server ⟨operation, asked, .ask (.writeStatus written) next⟩) :
    ∃ base, ∃ stored ∈ server.states, operation.Derives settings asked base written ∧
      stored.Shows base ∧ written.displayName = settings.configName ∧
      written.resourceVersion = some stored.version := by
  obtain ⟨result, course⟩ := sound.course_of_write (.ok ())
  obtain ⟨-, ⟨base, derives⟩, -⟩ := Operation.of_write course
  obtain ⟨stored, held, shows⟩ := sound.seen base derives.based
  refine ⟨base, stored, held, derives, shows, ?_, ?_⟩
  · rw [Config.displayName, derives.metadata]
    exact shows.displayName_eq
  · rw [Config.resourceVersion, derives.metadata]
    exact shows.resourceVersion_eq

/-- A status is written in good order. -/
theorem orderly_of_write
    (sound : Task.Sound settings server ⟨operation, asked, .ask (.writeStatus written) next⟩)
    (talks : server.Talks (Http.writeStatus written) answer last) :
    Contact.Orderly settings
      ⟨operation, asked, .writeStatus written answer, server, last⟩ := by
  obtain ⟨base, stored, held, derives, shows, named, read⟩ := sound.derives
  have writes := Server.writes_of_talks named read talks
  cases writes with
  | @accepted timely next fresh spec status =>
    have versionHeld : stored.version = server.current.version :=
      Option.some.inj (read.symm.trans timely)
    obtain rfl := Server.eq_of_version_eq held Server.current_mem_states versionHeld
    have course := sound.course_of_write answer
    have meets := (derives.meets server shows).append (.cons (.writeStatus talks) (.nil _))
    have accepted : Contact.accepted ⟨operation, asked, .writeStatus written answer, server,
        server.replace next fresh⟩ = true :=
      decide_eq_true (Server.version_current_replace_ne fresh).symm
    refine ⟨fun _ => ⟨base, written, answer, rfl, derives.based, shows⟩,
      fun _ => ⟨derives.sees _ shows, course, meets⟩, ?_, ?_, ?_⟩
    · simp [accepted]
    · intro _ _ effect late
      cases effect
      exact absurd timely late
    · intro config first holds
      obtain rfl := shows.eq first
      obtain ⟨told, plain⟩ := derives.candid holds
      refine ⟨fun _ _ effect _ => ?_, fun _ after lacks => ?_⟩
      · cases effect
        exact plain
      · exact plain (after.lacks_of_merge told status lacks)
  | hindered timely =>
    refine .of_still rfl fun _ _ effect late => ?_
    cases effect
    exact absurd timely late
  | outdated =>
    refine .of_still rfl fun _ _ effect _ => ?_
    cases effect
    refine ⟨rfl, fun result leads => ?_⟩
    obtain ⟨-, -, fails⟩ := Operation.of_write leads
    exact fails _ rfl

end Write

/-- Every question is answered in good order. -/
theorem orderly {question : Call} {answer : question.Answer}
    {next : question.Answer → Sync operation.Result}
    (sound : Task.Sound settings server ⟨operation, asked, .ask question next⟩)
    (answers : server.Answers question answer last) :
    Contact.Orderly settings ⟨operation, asked, ⟨question, answer⟩, server, last⟩ := by
  cases answers with
  | writeStatus talks => exact sound.orderly_of_write talks
  | _ => exact .of_still rfl fun _ _ effect => by cases effect

end Task.Sound

/-! ## Runs -/

/-- What the server holds changes as operations run alone, one after the other; in between others
may change all but the status. -/
inductive Serial (settings : Settings) : Server settings.configName →
    List (Contact settings.configName) → Server settings.configName → Prop
  | nil (server : Server settings.configName) : Serial settings server [] server
  | configured {server last : Server settings.configName}
      {contacts : List (Contact settings.configName)} {next : Stored settings.configName}
      (fresh : next.version ∉ server.states.map Stored.version)
      (status : next.status = server.current.status)
      (rest : Serial settings (server.replace next fresh) contacts last) :
      Serial settings server contacts last
  | performed {contact : Contact settings.configName} {last : Server settings.configName}
      {contacts : List (Contact settings.configName)} (alone : contact.Alone settings)
      (rest : Serial settings contact.after contacts last) :
      Serial settings contact.before (contact :: contacts) last

namespace System

variable {start last : System settings.configName} {contacts : List (Contact settings.configName)}

/-- All that is under way is sound. -/
def Sound (settings : Settings) (system : System settings.configName) : Prop :=
  ∀ task ∈ system.tasks, task.Sound settings system.server

/-- When one task goes on, the others are as sound as they were. -/
theorem Sound.step {server middle : Server settings.configName} {before after : List Task}
    {task next : Task} (sound : Sound settings ⟨server, before ++ task :: after⟩)
    (more : server.states ⊆ middle.states) (goes : next.Sound settings middle) :
    Sound settings ⟨middle, before ++ next :: after⟩ := by
  intro other under
  rcases List.mem_append.mp under with early | under
  · exact (sound other (List.mem_append_left _ early)).mono more
  · rcases List.mem_cons.mp under with rfl | late
    · exact goes
    · exact (sound other (List.mem_append_right _ (List.mem_cons_of_mem _ late))).mono more

theorem Sound.task {server : Server settings.configName} {before after : List Task} {task : Task}
    (sound : Sound settings ⟨server, before ++ task :: after⟩) : task.Sound settings server :=
  sound task (List.mem_append_right _ List.mem_cons_self)

/-- From a sound system every contact is in good order. -/
theorem Interleaves.orderly (run : start.Interleaves settings contacts last)
    (sound : start.Sound settings) : ∀ contact ∈ contacts, contact.Orderly settings := by
  induction run with
  | nil => exact List.forall_mem_nil _
  | started held sees _ ih =>
    exact ih (List.forall_mem_cons.mpr ⟨.start held sees, sound⟩)
  | configured fresh _ _ ih =>
    exact ih fun task under => (sound task under).mono (List.subset_cons_self _ _)
  | noted _ ih => exact ih (sound.step (List.Subset.refl _) sound.task.note)
  | answered answers _ ih =>
    have later := ih (sound.step answers.states_subset (sound.task.answer answers))
    exact List.forall_mem_cons.mpr ⟨sound.task.orderly answers, later⟩

/-- If every contact is in good order, the server changes as by those that were accepted alone. -/
theorem Interleaves.serial (run : start.Interleaves settings contacts last)
    (orderly : ∀ contact ∈ contacts, contact.Orderly settings) :
    Serial settings start.server (contacts.filter Contact.accepted) last.server := by
  induction run with
  | nil => exact .nil _
  | started _ _ _ ih => exact ih orderly
  | configured fresh status _ ih => exact .configured fresh status (ih orderly)
  | noted _ ih => exact ih orderly
  | @answered server middle _ _ _ _ operation asked question _ answer answers _ ih =>
    obtain ⟨first, later⟩ := List.forall_mem_cons.mp orderly
    have rest := ih later
    cases accepted : Contact.accepted ⟨operation, asked, ⟨question, answer⟩, server, middle⟩ with
    | false =>
      obtain rfl : middle = server := first.unchanged accepted
      rw [List.filter_cons_of_neg (by simp [accepted])]
      exact rest
    | true =>
      rw [List.filter_cons_of_pos accepted]
      exact .performed (first.alone accepted) rest

/-- **Whatever runs at the same time, no update is lost.** -/
theorem Interleaves.serializable (run : start.Interleaves settings contacts last)
    (idle : start.tasks = []) :
    Serial settings start.server (contacts.filter Contact.accepted) last.server ∧
      ∀ contact ∈ contacts, contact.Orderly settings := by
  have sound : start.Sound settings := by
    intro task under
    rw [idle] at under
    cases under
  have orderly := run.orderly sound
  exact ⟨run.serial orderly, orderly⟩

/-- The gate is given an old copy, in which the credential is not known to exist; meanwhile an event
on a replica that is in order puts it on record. Both start on what is held first, and the event is
attended to before the gate writes: the gate's status comes too late, and the record stands. -/
theorem exists_late_gate :
    ∃ (settings : Settings) (start last : System settings.configName)
      (contacts : List (Contact settings.configName)),
      start.Interleaves settings contacts last ∧ start.tasks = [] ∧
      (Serial settings start.server (contacts.filter Contact.accepted) last.server ∧
        ∀ contact ∈ contacts, contact.Orderly settings) ∧
      (∃ config, last.server.current.Shows config ∧
        config.conditionHolds Config.credentialType = true) ∧
      ∃ contact ∈ contacts, ∃ written,
        contact.effect = .writeStatus written (.error (.conflict settings.configName)) := by
  let settings : Settings := ⟨"4.1.0", "cluster", 3, 5⟩
  let now : Instant := ⟨0, 0⟩
  let metadata : ObjectMeta := { name := some "cluster", resourceVersion := some "1" }
  let spec : ConfigSpec := { installType := .rhel }
  let seen : Config := { metadata, spec }
  let holding := seen.settle now Config.credentialType .holds
  let first : Stored settings.configName := ⟨"1", metadata, spec, .null, rfl, rfl⟩
  let second : Stored settings.configName :=
    ⟨"2", { metadata with resourceVersion := some "2" }, spec,
      Json.merge .null ((holding.status.map ConfigStatus.encode).getD .null), rfl, rfl⟩
  have addressed : Address.ofText (statusTarget "cluster") =
      .ok ⟨"/apis/samples.operator.openshift.io/v1/configs/cluster/status", none⟩ := by
    decide +kernel
  let server : Server settings.configName :=
    ⟨first, [], _, List.nodup_singleton _, by decide, addressed⟩
  have fresh : second.version ∉ server.states.map Stored.version :=
    show "2" ∉ ["1"] by decide
  let known := server.replace second fresh
  have shown : first.Shows seen := ⟨rfl, rfl, rfl⟩
  have held : first ∈ server.states := Server.current_mem_states
  let replica : Secret := Secret.replica {} settings.version
  let attending : Operation := .attend now 0 0 (.watched (.applied replica))
  have eventSetsCondition : Leads (attending.computation settings)
      [.readConfig settings.configName (.ok (some seen)), .writeStatus holding (.ok ())]
      (.completed .statusFlushed, 0) :=
    leads_attend_iff.mpr
      (.brought (.watched _) (.handled (.welcomed (by decide) (by decide) (.ok ()))))
  have told : Server.written settings.configName
      (.answered 200 "\x7b\"metadata\":\x7b\x7d,\"spec\":\x7b\x7d\x7d") = .ok () := by
    have told : Server.written "cluster"
        (.answered 200 "\x7b\"metadata\":\x7b\x7d,\"spec\":\x7b\x7d\x7d") = .ok () := by
      decide +kernel
    exact told
  have accepted : server.Talks (Http.writeStatus holding) (.ok ()) known := by
    rw [← told]
    have named : holding.displayName = settings.configName := rfl
    have read : holding.resourceVersion = some "1" := rfl
    exact Server.talks_of_accepted named read read fresh rfl rfl _
  have meets : server.Meets
      [.readConfig settings.configName (.ok (some seen)), .writeStatus holding (.ok ())] known := by
    refine .cons (.readConfig fun config same => ?_) (.cons (.writeStatus accepted) (.nil _))
    cases same
    exact shown
  let reconciling : Operation := .reconcile seen now
  let lacking := (seen.gate now).2
  have read : lacking.resourceVersion = some "1" := by
    rw [Config.resourceVersion, Config.gate_metadata]
  have named : lacking.displayName = settings.configName := by
    rw [Config.displayName, Config.gate_metadata]
    rfl
  have gateFindsLack : Leads (reconciling.computation settings)
      [.writeStatus lacking (.error (.conflict settings.configName))]
      (.error (.conflict settings.configName)) :=
    leads_reconcile_iff.mpr (.recorded (by decide) _)
  have refused : known.Talks (Http.writeStatus lacking)
      (.error (.conflict settings.configName)) known := by
    refine Server.talks_of_late named read ?_
    rw [read]
    exact fun same => absurd (Option.some.inj same) (show "1" ≠ "2" by decide)
  have conflicts : known.Meets
      [.writeStatus lacking (.error (.conflict settings.configName))] known :=
    .cons (.writeStatus refused) (.nil _)
  obtain ⟨early, -, ahead⟩ := Interleaves.exists_of_leads eventSetsCondition meets [] []
    [⟨reconciling, [], reconciling.computation settings⟩]
  obtain ⟨behind, effects, after⟩ := Interleaves.exists_of_leads gateFindsLack conflicts []
    [⟨attending, _, .done (.completed .statusFlushed, 0)⟩] []
  have sees : reconciling.Sees first := shown
  have starts : attending.Sees first := trivial
  have run : Interleaves settings ⟨server, []⟩ (early ++ behind) _ :=
    .started held sees (.started held starts (ahead.trans after))
  have reads : ConfigStatus.decoder.nullable.decode (Json.merge .null (ConfigStatus.encode
      ⟨[⟨Config.credentialType, .holds, some ⟨0, 0⟩, some ⟨0, 0⟩, ""⟩], none⟩)) =
      .ok (some ⟨[⟨Config.credentialType, .holds, some ⟨0, 0⟩, some ⟨0, 0⟩, ""⟩], none⟩) := by
    decide +kernel
  refine ⟨settings, _, _, _, run, rfl, run.serializable rfl,
    ⟨{ holding with metadata := second.metadata }, ⟨rfl, rfl, reads⟩, by decide⟩, ?_⟩
  obtain ⟨contact, member, effect⟩ := List.mem_map.mp (effects ▸ List.mem_singleton_self _)
  exact ⟨contact, List.mem_append_right _ member, lacking, effect⟩

end System

end PullSecretSync
