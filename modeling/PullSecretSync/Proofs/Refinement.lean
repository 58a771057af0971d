import PullSecretSync.Proofs.Addressing
import PullSecretSync.Proofs.Documents
import PullSecretSync.Proofs.Session

/-!
# The store in the cluster is a map of secrets

A call to the store is made by one request, and the reply alone decides how the call is answered. A
server that holds secrets by their slots recognizes the call in its request; where it replies by
what it holds, any number of calls is answered as a map of secrets answers them. A reply that is of
another kind is an error of the API, which is taken neither for a missing secret nor for one that is
there already.
-/

namespace PullSecretSync

/-! ## Calls, requests and replies -/

namespace StoreCall

/-- A call with its answer. -/
abbrev Answered := Interaction.Exchange StoreCall StoreCall.Answer

/-- The request that a call is made by. -/
def request : StoreCall → Request
  | .get slot => ⟨.get, ⟨slot.resource, none⟩, none⟩
  | .create space secret => ⟨.post, ⟨secretsPath space, none⟩, some secret.encode⟩
  | .update space secret =>
    ⟨.put, ⟨(SecretMap.slotIn space secret).resource, none⟩, some secret.encode⟩
  | .delete slot => ⟨.delete, ⟨slot.resource, none⟩, some (.obj [])⟩

/-- What a reply means for a call. -/
def meaning : (call : StoreCall) → Reply → call.Answer
  | .get slot, reply => (some <$> reply.readBy Secret.decoder.parse).mapError (.ofApi slot)
  | .create space secret, reply =>
    (reply.readBy Secret.decoder.parse).mapError (.ofApi (SecretMap.slotIn space secret))
  | .update space secret, reply =>
    (reply.readBy Secret.decoder.parse).mapError (.ofApi (SecretMap.slotIn space secret))
  | .delete slot, reply => (reply.readBy (Deletion.read Secret.decoder)).mapError (.ofApi slot)

/-- The body of a reply cannot be read as what the call is answered with. -/
def Unreadable (content : String) : StoreCall → Prop
  | .delete _ => ∃ error, Deletion.read Secret.decoder content = .error error
  | _ => ∃ error, Secret.decoder.parse content = .error error

/-- A reply from which nothing follows about the secrets: a refusal that says neither that a secret
is missing nor that it is there already, none at all, or one that cannot be read. -/
inductive Fails (call : StoreCall) : Reply → Prop
  | refused {reply : Reply} {fault : Fault} (refused : reply.content = .error (.refused fault))
      (missing : fault.code ≠ 404)
      (present : ¬ (fault.code = 409 ∧ fault.reason = "AlreadyExists")) : Fails call reply
  | unreached : Fails call .failed
  | unreadable {reply : Reply} {content : String} (answered : reply.content = .ok content)
      (unreadable : call.Unreadable content) : Fails call reply

end StoreCall

namespace Http

/-- The requests of a run with their replies, in order. -/
def sent (exchanges : List (Interaction.Exchange HttpCall HttpCall.Answer)) :
    List (Request × Reply) :=
  exchanges.filterMap fun
    | ⟨.send request, reply⟩ => some (request, reply)
    | ⟨.note _, _⟩ => none

/-- Make some calls to the store, one after the other. -/
def storeAll : List StoreCall → Http (List StoreCall.Answered)
  | [] => return []
  | call :: rest => do
    let answer ← store call
    return ⟨call, answer⟩ :: (← storeAll rest)

end Http

/-- How a map of secrets answers some calls, one after the other. -/
def SecretMap.answerAll (secrets : SecretMap) :
    List StoreCall → List StoreCall.Answered × SecretMap
  | [] => ([], secrets)
  | call :: rest =>
    let (answer, secrets) := secrets.answer call
    let (answers, secrets) := answerAll secrets rest
    (⟨call, answer⟩ :: answers, secrets)

/-! ## The server -/

namespace SecretServer

/-- A server that reads documents in some way takes a request for a call. -/
inductive Asks (reads : Json → Option Secret) : Request → StoreCall → Prop
  | get {slot : Slot} (addressable : slot.Addressable) :
      Asks reads ⟨.get, ⟨slot.resource, none⟩, none⟩ (.get slot)
  | create {space : String} {doc : Json} {secret : Secret} (read : reads doc = some secret)
      (addressable : (SecretMap.slotIn space secret).Addressable) :
      Asks reads ⟨.post, ⟨secretsPath space, none⟩, some doc⟩ (.create space secret)
  | update {space : String} {doc : Json} {secret : Secret} (read : reads doc = some secret)
      (addressable : (SecretMap.slotIn space secret).Addressable) :
      Asks reads ⟨.put, ⟨(SecretMap.slotIn space secret).resource, none⟩, some doc⟩
        (.update space secret)
  | delete {slot : Slot} {body : Option Json} (addressable : slot.Addressable) :
      Asks reads ⟨.delete, ⟨slot.resource, none⟩, body⟩ (.delete slot)

/-- The reply shows a secret. -/
def Shows (reply : Reply) (secret : Secret) : Prop :=
  reply.readBy Secret.decoder.parse = .ok secret

/-- The reply is a refusal, and this is the account of it. -/
def Refuses (reply : Reply) (fault : Fault) : Prop := reply.content = .error (.refused fault)

/-- The kind that a document names. -/
def kind? (doc : Json) : Option String :=
  match doc.member? "kind" with
  | some (.str kind) => some kind
  | _ => none

/-- The reply confirms that a secret was deleted: it is a document of the secret, or one of the
status. -/
inductive Confirms (secret : Secret) : Reply → Prop
  | object {reply : Reply} {content : String} {doc : Json} (answered : reply.content = .ok content)
      (document : Json.parse content = .ok doc) (kind : kind? doc ≠ some "Status")
      (shows : Secret.decoder.parse content = .ok secret) : Confirms secret reply
  | status {reply : Reply} {content : String} {doc : Json} (answered : reply.content = .ok content)
      (document : Json.parse content = .ok doc) (kind : kind? doc = some "Status")
      (status : Deletion.status.parse content = .ok ()) : Confirms secret reply

/-- What a server that holds some secrets replies to a call, and what it holds then. -/
inductive Replies (held : SecretMap) : StoreCall → Reply → SecretMap → Prop
  | shown {slot : Slot} {secret : Secret} {reply : Reply} (present : held.get? slot = some secret)
      (shows : Shows reply secret) : Replies held (.get slot) reply held
  | created {space : String} {secret : Secret} {reply : Reply}
      (absent : held.get? (SecretMap.slotIn space secret) = none) (shows : Shows reply secret) :
      Replies held (.create space secret) reply (held.put (SecretMap.slotIn space secret) secret)
  | replaced {space : String} {secret old : Secret} {reply : Reply}
      (present : held.get? (SecretMap.slotIn space secret) = some old)
      (shows : Shows reply secret) :
      Replies held (.update space secret) reply (held.put (SecretMap.slotIn space secret) secret)
  | deleted {slot : Slot} {secret : Secret} {reply : Reply}
      (present : held.get? slot = some secret) (confirms : Confirms secret reply) :
      Replies held (.delete slot) reply (held.erase slot)
  | missing {call : StoreCall} {reply : Reply} {fault : Fault} (needs : call.kind ≠ .create)
      (absent : held.get? call.target = none) (refuses : Refuses reply fault)
      (code : fault.code = 404) : Replies held call reply held
  | taken {space : String} {secret old : Secret} {reply : Reply} {fault : Fault}
      (present : held.get? (SecretMap.slotIn space secret) = some old)
      (refuses : Refuses reply fault) (code : fault.code = 409)
      (reason : fault.reason = "AlreadyExists") : Replies held (.create space secret) reply held

/-- Some replies are those of a server, which holds other secrets in the end. -/
inductive Serves (reads : Json → Option Secret) :
    SecretMap → List (Request × Reply) → SecretMap → Prop
  | nil (held : SecretMap) : Serves reads held [] held
  | cons {held next last : SecretMap} {request : Request} {reply : Reply} {call : StoreCall}
      {exchanges : List (Request × Reply)} (asks : Asks reads request call)
      (replies : Replies held call reply next) (rest : Serves reads next exchanges last) :
      Serves reads held ((request, reply) :: exchanges) last

end SecretServer

/-! ## Reading replies -/

namespace Reply

variable {α : Type} {reply : Reply} {read : String → Except TextError α}

theorem readBy_of_error {error : ApiError} (refused : reply.content = .error error) :
    reply.readBy read = .error error := by
  rw [readBy, refused]
  rfl

/-- A reply with the status of a refusal is one, and its body is the account of it. -/
theorem content_of_refusal {status : Nat} (content : String) (refusal : isRefusal status = true) :
    (Reply.answered status content).content = .error (.refused (Fault.ofReply status content)) := by
  rw [Reply.content, if_pos refusal]

theorem readBy_of_ok {content : String} (answered : reply.content = .ok content) :
    reply.readBy read = (read content).mapError .badBody := by
  rw [readBy, answered]
  rfl

end Reply

namespace Deletion

variable {α : Type} {decoder : Decoder α} {content : String} {doc : Json}

/-- A document of the status is read as one. -/
theorem read_of_status (document : Json.parse content = .ok doc)
    (kind : SecretServer.kind? doc = some "Status") :
    read decoder content = status.parse content := by
  have named : doc.member? "kind" = some (.str "Status") := by
    unfold SecretServer.kind? at kind
    split at kind
    · rename_i found
      rw [found, Option.some.inj kind]
    · cases kind
  simp only [read, document, bind, Except.bind, named]

/-- Any other document is read as the object that was deleted. -/
theorem read_of_object (document : Json.parse content = .ok doc)
    (kind : SecretServer.kind? doc ≠ some "Status") :
    read decoder content = discard (decoder.parse content) := by
  have named : doc.member? "kind" ≠ some (.str "Status") := by
    intro found
    exact kind (by rw [SecretServer.kind?, found])
  simp only [read, document, bind, Except.bind]

end Deletion

/-- A deletion that is confirmed is read as one, in whichever way. -/
theorem SecretServer.Confirms.readBy {reply : Reply} {secret : Secret}
    (confirms : Confirms secret reply) :
    reply.readBy (Deletion.read Secret.decoder) = .ok () := by
  cases confirms with
  | object answered document kind shows =>
    rw [Reply.readBy_of_ok answered, Deletion.read_of_object document kind, shows]
    rfl
  | status answered document kind status =>
    rw [Reply.readBy_of_ok answered, Deletion.read_of_status document kind, status]
    rfl

/-! ## A single call -/

namespace StoreCall

/-- A server that reads documents in some way reads a secret that the call writes as this secret. -/
def Legible (reads : Json → Option Secret) (call : StoreCall) : Prop :=
  ∀ space secret, call.Writes space secret → reads secret.encode = some secret

variable {call other : StoreCall} {reads : Json → Option Secret} {reply : Reply}
  {held next : SecretMap}

/-- A call is legible to a server that reads like this library, where a document can hold what it
writes. -/
theorem legible_of_readable
    (readable : ∀ space secret, call.Writes space secret → secret.metadata.Readable) :
    call.Legible Secret.read? :=
  fun space secret writes => Secret.read?_encode (readable space secret writes)

/-- The calls that a replica is kept by can be sent. -/
theorem Replicates.addressable {version : String} (replicates : call.Replicates version) :
    call.target.Addressable := by
  have source : Slot.source.Addressable :=
    ⟨by decide, by decide +kernel, by decide +kernel, by decide +kernel⟩
  have replica : Slot.replica.Addressable :=
    ⟨by decide, by decide +kernel, by decide +kernel, by decide +kernel⟩
  cases call with
  | get slot => exact (show slot = .source from replicates) ▸ source
  | delete slot => exact (show slot = .replica from replicates) ▸ replica
  | create space written =>
    obtain ⟨rfl, secret, rfl⟩ := replicates
    exact replica
  | update space written =>
    obtain ⟨rfl, secret, rfl⟩ := replicates
    exact replica

/-- The calls that a replica is kept by are legible. -/
theorem Replicates.legible {version : String} (replicates : call.Replicates version) :
    call.Legible Secret.read? := by
  refine legible_of_readable fun space written writes => ?_
  rcases writes with rfl | rfl
  · obtain ⟨-, secret, rfl⟩ := replicates
    exact secret.readable_replica version
  · obtain ⟨-, secret, rfl⟩ := replicates
    exact secret.readable_replica version

/-- A server takes the request of a call for the call itself: the method tells the kind of the call,
the path its slot, and the document its secret. -/
theorem Legible.eq_of_asks (legible : call.Legible reads)
    (addressable : call.target.Addressable)
    (asks : SecretServer.Asks reads call.request other) : other = call := by
  generalize asked : call.request = request at asks
  cases asks with
  | get too =>
    cases call with
    | get slot =>
      simp only [StoreCall.request, Request.mk.injEq, Address.mk.injEq, and_true, true_and]
        at asked
      exact congrArg _ (too.eq_of_resource_eq addressable asked.symm)
    | _ => simp [StoreCall.request] at asked
  | delete too =>
    cases call with
    | delete slot =>
      simp only [StoreCall.request, Request.mk.injEq, Address.mk.injEq, and_true, true_and]
        at asked
      exact congrArg _ (too.eq_of_resource_eq addressable asked.1.symm)
    | _ => simp [StoreCall.request] at asked
  | create told too =>
    cases call with
    | create space secret =>
      simp only [StoreCall.request, Request.mk.injEq, Address.mk.injEq, and_true, true_and,
        Option.some.injEq] at asked
      obtain ⟨path, rfl⟩ := asked
      obtain ⟨rfl, -⟩ := eq_of_secretsPath_append_eq addressable.space too.space
        (congrArg (· ++ "") path)
      obtain rfl := Option.some.inj (told.symm.trans (legible _ secret (.inl rfl)))
      rfl
    | _ => simp [StoreCall.request] at asked
  | update told too =>
    cases call with
    | update space secret =>
      simp only [StoreCall.request, Request.mk.injEq, Address.mk.injEq, and_true, true_and,
        Option.some.injEq] at asked
      obtain ⟨path, rfl⟩ := asked
      obtain rfl := Option.some.inj (told.symm.trans (legible _ secret (.inr rfl)))
      obtain ⟨rfl, -⟩ := Slot.mk.inj (addressable.eq_of_resource_eq too path)
      rfl
    | _ => simp [StoreCall.request] at asked

/-- What the reply to a call that is refused means is that the call failed. -/
theorem meaning_of_error {error : ApiError} (refused : reply.content = .error error) :
    call.meaning reply = call.failed (.ofApi call.target error) := by
  cases call with
  | _ =>
    rw [meaning, Reply.readBy_of_error refused]
    rfl

/-- What the reply to a call means if it cannot be read is that the call failed. -/
theorem meaning_of_unreadable {content : String} (answered : reply.content = .ok content)
    (unreadable : call.Unreadable content) :
    ∃ error, call.meaning reply = call.failed (.api (.badBody error)) := by
  cases call with
  | _ =>
    obtain ⟨error, unread⟩ := unreadable
    refine ⟨error, ?_⟩
    rw [meaning, Reply.readBy_of_ok answered, unread]
    rfl

/-- A map of secrets fails a call about a secret that it does not hold. -/
theorem answer_of_absent (needs : call.kind ≠ .create) (absent : held.get? call.target = none) :
    held.answer call = (call.failed (.notFound call.target), held) := by
  cases call with
  | create space secret => exact absurd rfl needs
  | _ =>
    rw [target] at absent
    simp only [SecretMap.answer, absent]
    rfl

/-- A reply that tells what a server holds is understood as a map of secrets answers. -/
theorem meaning_of_replies (replies : SecretServer.Replies held call reply next) :
    (call.meaning reply, next) = held.answer call := by
  cases replies with
  | shown present shows =>
    rw [SecretServer.Shows] at shows
    simp only [meaning, shows, SecretMap.answer, present]
    rfl
  | created absent shows =>
    rw [SecretServer.Shows] at shows
    simp only [meaning, shows, SecretMap.answer, absent]
    rfl
  | replaced present shows =>
    rw [SecretServer.Shows] at shows
    simp only [meaning, shows, SecretMap.answer, present]
    rfl
  | deleted present confirms =>
    simp only [meaning, confirms.readBy, SecretMap.answer, present]
    rfl
  | @missing _ _ fault needs absent refuses code =>
    have missed : SyncError.ofApi call.target (.refused fault) = .notFound call.target := by
      simp [SyncError.ofApi, code]
    rw [answer_of_absent needs absent, meaning_of_error refuses, missed]
  | @taken space secret _ _ fault present refuses code reason =>
    have found (slot : Slot) : SyncError.ofApi slot (.refused fault) = .alreadyExists slot := by
      simp [SyncError.ofApi, code, reason]
    rw [meaning_of_error refuses, found]
    simp only [SecretMap.answer, present]
    rfl

/-- From a reply of another kind nothing follows but an error of the API. -/
theorem Fails.meaning_eq (fails : call.Fails reply) :
    ∃ error, call.meaning reply = call.failed (.api error) := by
  cases fails with
  | @refused _ fault refused missing present =>
    have strange : SyncError.ofApi call.target (.refused fault) = .api (.refused fault) := by
      simp [SyncError.ofApi, missing, present]
    refine ⟨.refused fault, ?_⟩
    rw [meaning_of_error refused, strange]
  | unreached =>
    have lost : Reply.failed.content = .error .unreachable := rfl
    exact ⟨.unreachable, meaning_of_error lost⟩
  | unreadable answered unreadable =>
    obtain ⟨error, unread⟩ := meaning_of_unreadable answered unreadable
    exact ⟨.badBody error, unread⟩

end StoreCall

namespace Http

variable {σ : Type} (answer : (question : HttpCall) → σ → question.Answer × σ) {call : StoreCall}

theorem sent_append (exchanges rest : List (Interaction.Exchange HttpCall HttpCall.Answer)) :
    sent (exchanges ++ rest) = sent exchanges ++ sent rest := List.filterMap_append

/-- A request to an address that can be sent is sent. -/
theorem sendTo_eq {method : Method} {path : String} {body : Option Json}
    (allowed : Address.isPath path = true) (short : path.utf8ByteSize < Address.lengthLimit) :
    sendTo method path body =
      .ask (.send ⟨method, ⟨path, none⟩, body⟩) fun reply => .done (.ok reply) := by
  rw [sendTo, Address.ofText_path allowed short]
  rfl

/-- A request about a secret that can be addressed is sent. -/
theorem sendNamed_eq {slot : Slot} (addressable : slot.Addressable) {method : Method}
    {body : Option Json} :
    sendNamed method (secretsPath slot.space) slot.name "" body =
      .ask (.send ⟨method, ⟨slot.resource, none⟩, body⟩) fun reply => .done (.ok reply) := by
  have path : secretsPath slot.space ++ "/" ++ slot.name ++ "" = slot.resource :=
    String.append_empty
  rw [sendNamed, if_neg addressable.nonempty, path]
  exact sendTo_eq addressable.isPath_resource addressable.short

/-- A computation ends with a value, sends nothing and, where the log changes nothing, leaves the
surroundings as they are. -/
structure Ends {α : Type} (computation : Http α) (state : σ) (value : α) : Prop where
  value_eq : (computation.run answer state).1 = value
  silent : sent (computation.run answer state).2.1 = []
  still : (∀ entry state, (answer (.note entry) state).2 = state) →
    (computation.run answer state).2.2 = state

/-- The conclusion of a call says what an error means. -/
theorem ends_concludeStore {α : Type} (slot : Slot) (done : Option String)
    (result : Except ApiError α) (state : σ) :
    Ends answer (concludeStore slot done result) state (result.mapError (.ofApi slot)) := by
  cases result with
  | error error => exact ⟨rfl, rfl, fun _ => rfl⟩
  | ok value =>
    cases done with
    | none => exact ⟨rfl, rfl, fun _ => rfl⟩
    | some verb => exact ⟨rfl, rfl, fun quiet => quiet _ state⟩

/-- What is left of a call once the reply is there. -/
def concludeCall : (call : StoreCall) → Reply → Http call.Answer
  | .get slot, reply => concludeStore slot none (some <$> reply.readBy Secret.decoder.parse)
  | .create space secret, reply =>
    concludeStore (SecretMap.slotIn space secret) (some "Created")
      (reply.readBy Secret.decoder.parse)
  | .update space secret, reply =>
    concludeStore (SecretMap.slotIn space secret) (some "Updated")
      (reply.readBy Secret.decoder.parse)
  | .delete slot, reply =>
    concludeStore slot (some "Deleted") (reply.readBy (Deletion.read Secret.decoder))

/-- A call to the store sends its request and waits for the reply. -/
theorem store_eq (addressable : call.target.Addressable) :
    store call = .ask (.send call.request) (concludeCall call) := by
  cases call with
  | get slot =>
    have addressable : slot.Addressable := addressable
    rw [store, get, sendNamed_eq addressable]
    rfl
  | create space secret =>
    have addressable : (SecretMap.slotIn space secret).Addressable := addressable
    have collection : secretsPath space = secretsPath (SecretMap.slotIn space secret).space := rfl
    rw [store, create, collection,
      sendTo_eq addressable.isPath_secretsPath addressable.short_secretsPath]
    rfl
  | update space secret =>
    have addressable : (SecretMap.slotIn space secret).Addressable := addressable
    have named : sendNamed .put (secretsPath space) secret.displayName "" (some secret.encode) =
        .ask (.send (StoreCall.update space secret).request) fun reply => .done (.ok reply) :=
      sendNamed_eq addressable
    rw [store, replace, named]
    rfl
  | delete slot =>
    have addressable : slot.Addressable := addressable
    rw [store, delete, sendNamed_eq addressable]
    rfl

/-- The reply decides how a call is answered. -/
theorem ends_concludeCall (call : StoreCall) (reply : Reply) (state : σ) :
    Ends answer (concludeCall call reply) state (call.meaning reply) := by
  cases call with
  | get slot => exact ends_concludeStore answer slot none _ state
  | create space secret => exact ends_concludeStore answer _ (some "Created") _ state
  | update space secret => exact ends_concludeStore answer _ (some "Updated") _ state
  | delete slot => exact ends_concludeStore answer slot (some "Deleted") _ state

/-- A call to the store sends its request, and the reply decides its answer. -/
theorem run_store (addressable : call.target.Addressable) (state : σ) :
    let replied := answer (.send call.request) state
    ((store call).run answer state).1 = call.meaning replied.1 ∧
      sent ((store call).run answer state).2.1 = [(call.request, replied.1)] ∧
      ((∀ entry state, (answer (.note entry) state).2 = state) →
        ((store call).run answer state).2.2 = replied.2) := by
  intro replied
  have ends := ends_concludeCall answer call replied.1 replied.2
  rw [store_eq addressable, Interaction.run_ask]
  exact ⟨ends.value_eq, congrArg ((call.request, replied.1) :: ·) ends.silent, ends.still⟩

/-- Some calls send their requests in order, and each reply decides the answer to its call. -/
theorem run_storeAll {calls : List StoreCall}
    (addressable : ∀ call ∈ calls, call.target.Addressable) (state : σ) :
    ∃ replied : List (StoreCall × Reply), replied.map (·.1) = calls ∧
      ((storeAll calls).run answer state).1 =
        replied.map (fun entry => ⟨entry.1, entry.1.meaning entry.2⟩) ∧
      sent ((storeAll calls).run answer state).2.1 =
        replied.map (fun entry => (entry.1.request, entry.2)) := by
  induction calls generalizing state with
  | nil => exact ⟨[], rfl, rfl, rfl⟩
  | cons call rest ih =>
    obtain ⟨here, later⟩ := List.forall_mem_cons.mp addressable
    obtain ⟨answered, asked, -⟩ := run_store answer here state
    obtain ⟨replied, rfl, answers, requests⟩ := ih later ((store call).run answer state).2.2
    refine ⟨(call, (answer (.send call.request) state).1) :: replied, rfl, ?_, ?_⟩
    · simp only [storeAll, Interaction.bind_eq, Interaction.run_bind, answered, answers,
        Interaction.pure_eq, Interaction.run_done, List.map_cons]
    · simp only [storeAll, Interaction.bind_eq, Interaction.run_bind, sent_append, asked, requests,
        Interaction.pure_eq, Interaction.run_done, List.map_cons]
      exact congrArg ((call.request, _) :: ·) (List.append_nil _)

/-- The replies come from a script, and there are none once it has ended. -/
def scripted : (question : HttpCall) → List Reply → question.Answer × List Reply
  | .send _, replies => (replies.headD .failed, replies.tail)
  | .note _, replies => ((), replies)

/-- Where the replies come from a script, each call gets the one in its place. -/
theorem sent_storeAll_scripted {calls : List StoreCall} {replies : List Reply}
    (addressable : ∀ call ∈ calls, call.target.Addressable)
    (enough : replies.length = calls.length) :
    sent ((storeAll calls).run scripted replies).2.1 =
      (calls.map StoreCall.request).zip replies := by
  induction calls generalizing replies with
  | nil => rfl
  | cons call rest ih =>
    obtain ⟨here, later⟩ := List.forall_mem_cons.mp addressable
    obtain ⟨reply, replies, rfl⟩ := List.exists_cons_of_length_eq_add_one enough
    obtain ⟨-, asked, after⟩ := run_store scripted here (reply :: replies)
    have left : ((store call).run scripted (reply :: replies)).2.2 = replies := after fun _ _ => rfl
    simp only [storeAll, Interaction.bind_eq, Interaction.run_bind, sent_append, asked, left,
      Interaction.pure_eq, Interaction.run_done, ih later (Nat.succ.inj enough), List.map_cons,
      List.zip_cons_cons]
    exact congrArg ((call.request, reply) :: ·) (List.append_nil _)

end Http

/-! ## Some calls -/

namespace SecretServer

variable {reads : Json → Option Secret} {held last : SecretMap}

/-- Where a server replies by what it holds, some calls are answered as by a map of secrets. -/
theorem Serves.answerAll_eq {replied : List (StoreCall × Reply)}
    (addressable : ∀ entry ∈ replied, entry.1.target.Addressable)
    (legible : ∀ entry ∈ replied, entry.1.Legible reads)
    (serves : Serves reads held (replied.map fun entry => (entry.1.request, entry.2)) last) :
    (replied.map (fun entry => (⟨entry.1, entry.1.meaning entry.2⟩ : StoreCall.Answered)), last) =
      held.answerAll (replied.map (·.1)) := by
  induction replied generalizing held with
  | nil =>
    cases serves with
    | nil => rfl
  | cons entry replied ih =>
    obtain ⟨call, reply⟩ := entry
    obtain ⟨reached, reaches⟩ := List.forall_mem_cons.mp addressable
    obtain ⟨here, later⟩ := List.forall_mem_cons.mp legible
    cases serves with
    | cons asks replies rest =>
      obtain rfl := here.eq_of_asks reached asks
      have answered := StoreCall.meaning_of_replies replies
      rw [List.map_cons, List.map_cons, SecretMap.answerAll, ← answered]
      simp only [← ih reaches later rest]

end SecretServer

/-- Some calls to the store, with the requests that they sent and the replies to these, refine the
same calls to a map of secrets. -/
structure Refinement (calls : List StoreCall) (exchanges : List (Request × Reply))
    (answers : List StoreCall.Answered) : Prop where
  requests : exchanges.map (·.1) = calls.map StoreCall.request
  answered : answers.map (·.1) = calls
  /-- Where the server reads what is written as it was meant and replies by what it holds, the
  answers and what it holds in the end are those of a map of secrets. -/
  agrees : ∀ reads held last, (∀ call ∈ calls, call.Legible reads) →
    SecretServer.Serves reads held exchanges last → (answers, last) = held.answerAll calls
  /-- Whatever the other replies, a call is answered with an error of the API if nothing follows
  from its own. -/
  fails : ∀ (place : Nat) call exchange, calls[place]? = some call →
    exchanges[place]? = some exchange → call.Fails exchange.2 →
    ∃ error, answers[place]? = some ⟨call, call.failed (.api error)⟩

/-- **The store in the cluster.** Calls to the store about secrets that can be addressed refine the
same calls to a map of secrets, whatever server answers them. -/
theorem Http.storeAll_refines {σ : Type}
    (answer : (question : HttpCall) → σ → question.Answer × σ) (state : σ)
    (calls : List StoreCall) (addressable : ∀ call ∈ calls, call.target.Addressable) :
    Refinement calls (sent ((storeAll calls).run answer state).2.1)
      ((storeAll calls).run answer state).1 := by
  obtain ⟨replied, rfl, answers, exchanges⟩ := run_storeAll answer addressable state
  rw [answers, exchanges]
  exact {
    requests := by simp
    answered := by simp
    agrees := fun reads held last legible serves =>
      serves.answerAll_eq (fun entry mem => addressable entry.1 (List.mem_map_of_mem mem))
        fun entry mem => legible entry.1 (List.mem_map_of_mem mem)
    fails := by
      intro place call exchange called exchanged fails
      rw [List.getElem?_map, Option.map_eq_some_iff] at called exchanged
      obtain ⟨entry, here, rfl⟩ := called
      obtain ⟨same, there, rfl⟩ := exchanged
      obtain rfl := Option.some.inj (here.symm.trans there)
      obtain ⟨error, failed⟩ := fails.meaning_eq
      refine ⟨error, ?_⟩
      rw [List.getElem?_map, here, Option.map_some, failed] }

/-- What is left of a value that may be an error tells the value. -/
theorem eq_ok_of_toOption_eq_some {ε α : Type} {result : Except ε α} {value : α}
    (same : result.toOption = some value) : result = .ok value := by
  cases result with
  | ok found => exact congrArg Except.ok (Option.some.inj same)
  | error error => cases same

/-- A secret is created that is there already, and then it is deleted and looked up. The server
refuses the creation, confirms the deletion by a status and misses the secret; a conflict for
another reason would have told nothing. -/
theorem Http.storeAll_refines_taken_slot :
    let secret : Secret := { metadata := { name := some "pull" } }
    let slot : Slot := ⟨"openshift", "pull"⟩
    let calls : List StoreCall := [.create "openshift" secret, .delete slot, .get slot]
    let taken := Reply.answered 409
      "\x7b\"status\":\"Failure\",\"reason\":\"AlreadyExists\",\"code\":409\x7d"
    let gone := Reply.answered 200 "\x7b\"kind\":\"Status\",\"status\":\"Success\"\x7d"
    let missing := Reply.answered 404
      "\x7b\"status\":\"Failure\",\"reason\":\"NotFound\",\"code\":404\x7d"
    let conflict := Reply.answered 409
      "\x7b\"status\":\"Failure\",\"reason\":\"Conflict\",\"code\":409\x7d"
    let replies := [taken, gone, missing]
    let exchanges := sent ((storeAll calls).run scripted replies).2.1
    (∀ call ∈ calls, call.target.Addressable) ∧
      Refinement calls exchanges ((storeAll calls).run scripted replies).1 ∧
      (∀ call ∈ calls, call.Legible Secret.read?) ∧
      SecretServer.Serves Secret.read? [(slot, secret)] exchanges [] ∧
      StoreCall.Fails (.create "openshift" secret) conflict := by
  intro secret slot calls taken gone missing conflict replies exchanges
  have readable : secret.metadata.Readable := by
    constructor <;> simp [secret]
  have read : Secret.read? secret.encode = some secret := Secret.read?_encode readable
  have addressable : slot.Addressable :=
    ⟨by decide, by decide +kernel, by decide +kernel, by decide +kernel⟩
  have reached : ∀ call ∈ calls, call.target.Addressable :=
    List.forall_mem_cons.mpr ⟨addressable, List.forall_mem_cons.mpr ⟨addressable,
      List.forall_mem_singleton.mpr addressable⟩⟩
  have legible : ∀ call ∈ calls, call.Legible Secret.read? := by
    refine fun call mem => StoreCall.legible_of_readable fun space written writes => ?_
    rcases writes with rfl | rfl
    · obtain ⟨rfl, rfl⟩ : space = "openshift" ∧ written = secret := by simpa [calls] using mem
      exact readable
    · simp [calls] at mem
  have refused : SecretServer.Replies [(slot, secret)] (.create "openshift" secret) taken
      [(slot, secret)] :=
    .taken rfl (Reply.content_of_refusal _ rfl) (by decide +kernel) (by decide +kernel)
  have deleted : SecretServer.Replies [(slot, secret)] (.delete slot) gone [] := by
    have kind : (Json.parse "\x7b\"kind\":\"Status\",\"status\":\"Success\"\x7d").toOption.bind
        SecretServer.kind? = some "Status" := by
      decide +kernel
    have status :
        Deletion.status.parse "\x7b\"kind\":\"Status\",\"status\":\"Success\"\x7d" = .ok () := by
      decide +kernel
    obtain ⟨doc, parsed, kind⟩ := Option.bind_eq_some_iff.mp kind
    have document := eq_ok_of_toOption_eq_some parsed
    have emptied : SecretMap.erase [(slot, secret)] slot = [] := by decide
    rw [← emptied]
    exact .deleted rfl (.status rfl document kind status)
  have missed : SecretServer.Replies [] (.get slot) missing [] :=
    .missing (by decide) rfl (Reply.content_of_refusal _ rfl) (by decide +kernel)
  have exchanged : exchanges = (calls.map StoreCall.request).zip replies :=
    sent_storeAll_scripted reached rfl
  refine ⟨reached, storeAll_refines scripted _ calls reached, legible, ?_, ?_⟩
  · rw [exchanged]
    exact .cons (.create read addressable) refused (.cons (.delete addressable) deleted
      (.cons (.get addressable) missed (.nil _)))
  · exact .refused (Reply.content_of_refusal _ rfl) (by decide +kernel) (by decide +kernel)

end PullSecretSync
