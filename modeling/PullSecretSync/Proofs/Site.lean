import PullSecretSync.Proofs.SecretMap
import PullSecretSync.Proofs.Verdict

/-!
# What an event comes to at a site

At a site the store answers according to what it holds, the configuration is read, and the next
writings of a status may fail. No sample upsert is in flight. An event that is handled there is
either put off, because the deletion of the replica has to be confirmed, or it is settled: the
secrets are brought in line with it, and what is found is written if it is news. What an event is
settled to depends on nothing but the event, the specification and the secrets.
-/

namespace PullSecretSync

open Sync

/-- The surroundings of a manager that is left alone. -/
structure Site where
  secrets : SecretMap
  config : Config
  /-- The errors that the next writings of a status meet. Those that come after succeed. -/
  failures : List SyncError := []

/-- How a site answers. -/
def Site.answer : (question : Call) → Site → question.Answer × Site
  | .store call, site =>
    ((site.secrets.answer call).1, { site with secrets := (site.secrets.answer call).2 })
  | .writeStatus config, site =>
    match site.failures with
    | [] => (.ok (), { site with config := { site.config with status := config.status } })
    | error :: failures => (.error error, { site with failures })
  | .readConfig _, site => (.ok (some site.config), site)
  | .readSecret slot, site => (.ok (site.secrets.get? slot), site)
  | .note _, site => ((), site)

/-! ## What an event is settled to -/

namespace SecretMap

/-- The secrets with the replica brought in line with an event. -/
def follow (version : String) (event : SecretEvent) (secrets : SecretMap) : SecretMap :=
  match event.secret.role?, event.deleted with
  | some .source, false => secrets.put .replica (event.secret.replica version)
  | some .source, true => secrets.erase .replica
  | some .replica, true =>
    match secrets.get? .source with
    | some secret => secrets.put .replica (secret.replica version)
    | none => secrets
  | _, _ => secrets

/-- What is found about the credential when the replica is brought in line with an event. -/
def finding (event : SecretEvent) (secrets : SecretMap) : Option Verdict :=
  match event.secret.role?, event.deleted with
  | some .source, false => some .present
  | some .source, true => some .absent
  | some .replica, true => some (if (secrets.get? .source).isSome then .present else .absent)
  | _, _ => none

end SecretMap

namespace SecretEvent

/-- The decision on an event that is not put off. -/
def ruling (event : SecretEvent) (config : Config) : Transition :=
  (event.facts config 0 0 0).transition

/-- The secrets after an event was settled. -/
def settle (event : SecretEvent) (version : String) (config : Config) (secrets : SecretMap) :
    SecretMap :=
  if event.ruling config = .manageCredential then secrets.follow version event else secrets

/-- What is found about the credential when an event is settled. -/
def verdict? (event : SecretEvent) (config : Config) (secrets : SecretMap) : Option Verdict :=
  match event.ruling config with
  | .acknowledgeOwnWrite => some .present
  | .rejectUnstamped => some (.failed (.unstamped Slot.replica.space))
  | .acceptDeletion => some .absent
  | .manageCredential => secrets.finding event
  | _ => none

/-- What is found is news: the condition has another status, or the event is one of those that are
put on record in any case. -/
def Tells (event : SecretEvent) (config : Config) (secrets : SecretMap) (verdict : Verdict) :
    Prop :=
  event.verdict? config secrets = some verdict ∧
    (event.ruling config = .rejectUnstamped ∨ event.ruling config = .acceptDeletion ∨
      verdict.status ≠ (config.condition Config.credentialType).status)

/-- The configuration that is held after an event was settled without news. -/
def kept (event : SecretEvent) (now : Instant) (config : Config) (secrets : SecretMap) : Config :=
  if event.ruling config = .manageCredential then
    match secrets.finding event with
    | some verdict => config.record now verdict
    | none => config
  else config

end SecretEvent

namespace Site

/-- The courses of handling an event at a site while no sample upsert is in flight. -/
inductive Handles (settings : Settings) (now : Instant) (config : Config) (retries : UInt32)
    (event : SecretEvent) (site : Site) : List Effect → Handled → Site → Prop
  | postponed (deferred : decision settings 0 config retries event = .retryDeletion) :
      Handles settings now config retries event site []
        ⟨.ok (.retry (.deletionUnconfirmed (retries + 1))), config, retries + 1⟩ site
  | settled {asked : List Effect} {outcome : Outcome}
      (definite : decision settings 0 config retries event ≠ .retryDeletion)
      (stores : ∀ effect ∈ asked, effect.IsStore)
      (quiet : ∀ verdict, ¬ event.Tells config site.secrets verdict)
      (plain : outcome = .ignored ∨ outcome = .unchanged) :
      Handles settings now config retries event site asked
        ⟨.ok outcome, event.kept now config site.secrets, 0⟩
        { site with secrets := event.settle settings.version config site.secrets }
  | told {asked : List Effect} {verdict : Verdict} {answer : Except SyncError Unit} {after : Site}
      (definite : decision settings 0 config retries event ≠ .retryDeletion)
      (stores : ∀ effect ∈ asked, effect.IsStore)
      (tells : event.Tells config site.secrets verdict)
      (written : Site.answer (.writeStatus (config.record now verdict))
        { site with secrets := event.settle settings.version config site.secrets } =
          (answer, after)) :
      Handles settings now config retries event site
        (asked ++ [.writeStatus (config.record now verdict) answer])
        ⟨flushed answer, config.record now verdict, 0⟩ after

end Site

variable {settings : Settings} {version : String} {now : Instant} {config : Config}
  {retries : UInt32} {event : SecretEvent} {secret : Secret} {effects asked : List Effect}
  {site after : Site}

/-! ## Decisions -/

/-- A decision that is not to wait for a confirmation does not depend on the count, and where there
is nothing to wait for, it does not depend on what is known of the credential. -/
theorem Facts.transition_of_ne_retry {facts : Facts} (definite : facts.transition ≠ .retryDeletion)
    (known : Bool) :
    { facts with credentialExists := known, retries := 0, retryLimit := 0 }.transition =
      facts.transition := by
  have confirmed (role : facts.role = some .replica) (deleted : facts.deleted = true)
      (idle : ¬ 0 < facts.inFlight) (kept : facts.state ≠ .unmanaged) :
      ¬ (facts.credentialExists = true ∧ facts.retries < facts.retryLimit) := by
    intro unconfirmed
    refine definite ?_
    simp [transition, role, deleted, idle, kept, unconfirmed]
  unfold transition
  dsimp only
  split
  · rfl
  · rename_i idle
    split
    · rfl
    · rename_i kept
      cases role : facts.role with
      | none => rfl
      | some part =>
        cases part with
        | source => rfl
        | replica =>
          cases deleted : facts.deleted with
          | false => rfl
          | true => simp [confirmed role deleted idle kept]

theorem ruling_eq_of_definite
    (definite : decision settings 0 config retries event ≠ .retryDeletion) :
    event.ruling config = decision settings 0 config retries event :=
  Facts.transition_of_ne_retry definite _

/-- An event that is not put off is not decided to wait. -/
theorem SecretEvent.ruling_ne_retry (event : SecretEvent) (config : Config) :
    event.ruling config ≠ .retryDeletion := by
  intro waits
  have grounds := Facts.grounds_transition (event.facts config 0 0 0)
  rw [show (event.facts config 0 0 0).transition = .retryDeletion from waits] at grounds
  have below : (0 : UInt32) < 0 := grounds.2.2.2
  exact absurd below (by decide)

/-- Only the specification matters for a decision on an event that is not put off. -/
theorem SecretEvent.ruling_congr {other : Config} (same : other.spec = config.spec) :
    event.ruling other = event.ruling config := by
  have facts_eq : event.facts other 0 0 0 = { event.facts config 0 0 0 with
      credentialExists := other.conditionHolds Config.credentialType } := by
    rw [facts, same]
    rfl
  rw [ruling, facts_eq]
  exact Facts.transition_of_ne_retry (event.ruling_ne_retry config) _

theorem SecretEvent.verdict?_of_managing {secrets : SecretMap}
    (managing : event.ruling config = .manageCredential) :
    event.verdict? config secrets = secrets.finding event := by
  rw [verdict?, managing]

/-! ## Settling an event again -/

namespace SecretMap

variable {secrets : SecretMap}

/-- The pull secret stays when the replica is brought in line. -/
theorem get?_follow_of_ne {slot : Slot} (other : slot ≠ .replica) :
    (secrets.follow version event).get? slot = secrets.get? slot := by
  unfold follow
  split
  · exact get?_put_of_ne other _ _
  · exact get?_erase_of_ne other _
  · split
    · exact get?_put_of_ne other _ _
    · rfl
  · rfl

/-- A replica that is in line is brought in line again. -/
theorem follow_follow :
    (secrets.follow version event).follow version event = secrets.follow version event := by
  cases role : event.secret.role? with
  | none => simp only [follow, role]
  | some role' =>
    cases role' with
    | source =>
      cases deleted : event.deleted with
      | false => simp only [follow, role, deleted, put_put]
      | true =>
        simp only [follow, role, deleted]
        exact erase_of_get?_eq_none (get?_erase_self _ _)
    | replica =>
      cases deleted : event.deleted with
      | false => simp only [follow, role, deleted]
      | true =>
        have same : (secrets.follow version event).get? .source = secrets.get? .source :=
          get?_follow_of_ne (by decide)
        simp only [follow, role, deleted] at same ⊢
        rw [same]
        cases secrets.get? .source with
        | none => rfl
        | some secret => exact put_put _ _ _ _

/-- What is found does not change when the replica is brought in line. -/
theorem finding_follow : (secrets.follow version event).finding event = secrets.finding event := by
  unfold finding
  rw [get?_follow_of_ne (by decide)]

end SecretMap

namespace SecretEvent

variable {secrets : SecretMap} {other : Config} {verdict : Verdict}

/-- An event that was settled is settled to the same again. -/
theorem settle_settle : event.settle version config (event.settle version config secrets) =
    event.settle version config secrets := by
  unfold settle
  split
  · exact SecretMap.follow_follow
  · rfl

theorem verdict?_settle :
    event.verdict? config (event.settle version config secrets) =
      event.verdict? config secrets := by
  unfold settle
  split
  · rename_i managing
    rw [verdict?_of_managing managing, verdict?_of_managing managing, SecretMap.finding_follow]
  · rfl

theorem tells_settle_iff : event.Tells config (event.settle version config secrets) verdict ↔
    event.Tells config secrets verdict := by
  rw [Tells, Tells, verdict?_settle]

theorem settle_congr (same : other.spec = config.spec) :
    event.settle version other secrets = event.settle version config secrets := by
  rw [settle, settle, ruling_congr same]

theorem verdict?_congr (same : other.spec = config.spec) :
    event.verdict? other secrets = event.verdict? config secrets := by
  rw [verdict?, verdict?, ruling_congr same]

end SecretEvent

/-! ## Bringing the replica in line -/

namespace Site

/-- Writing the replica of a secret succeeds. -/
theorem serves_writing {result : Except SyncError Copied}
    (served : Serves answer site effects after) (writing : Writing version secret effects result) :
    (∃ copied, result = .ok copied ∧ copied ≠ .nothing) ∧
      after = { site with secrets := site.secrets.put .replica (secret.replica version) } := by
  have slot : SecretMap.slotIn Slot.replica.space (secret.replica version) = .replica := rfl
  cases writing with
  | created made =>
    obtain ⟨created, ended⟩ := serves_cons_iff.mp served
    rw [serves_nil_iff] at ended
    cases held : site.secrets.get? .replica with
    | none => exact ⟨⟨_, rfl, by decide⟩, by simp [ended, answer, SecretMap.answer, slot, held]⟩
    | some old => simp [answer, SecretMap.answer, slot, held] at created
  | refused error other =>
    obtain ⟨refused, -⟩ := serves_cons_iff.mp served
    cases held : site.secrets.get? .replica with
    | none => simp [answer, SecretMap.answer, slot, held] at refused
    | some old =>
      simp only [answer, SecretMap.answer, slot, held, Except.error.injEq] at refused
      rw [refused] at other
      cases other
  | updated found present made =>
    obtain ⟨refused, served⟩ := serves_cons_iff.mp served
    obtain ⟨-, ended⟩ := serves_cons_iff.mp served
    rw [serves_nil_iff] at ended
    cases held : site.secrets.get? .replica with
    | none => simp [answer, SecretMap.answer, slot, held] at refused
    | some old =>
      exact ⟨⟨_, rfl, by decide⟩, by simp [ended, answer, SecretMap.answer, slot, held]⟩
  | missed found present error =>
    obtain ⟨refused, served⟩ := serves_cons_iff.mp served
    obtain ⟨missed, -⟩ := serves_cons_iff.mp served
    cases held : site.secrets.get? .replica with
    | none => simp [answer, SecretMap.answer, slot, held] at refused
    | some old => simp [answer, SecretMap.answer, slot, held] at missed

theorem answer_getSource : answer (.store (.get .source)) site =
    (match site.secrets.get? .source with
      | some secret => .ok (some secret)
      | none => .error (.notFound .source), site) := by
  cases held : site.secrets.get? .source <;> simp [answer, SecretMap.answer, held]

/-- Copying the pull secret from its slot succeeds, or finds that it is missing. -/
theorem serves_copying {result : Except SyncError Copied}
    (served : Serves answer site effects after) (copying : Copying version none effects result) :
    match site.secrets.get? .source with
    | some secret => (∃ copied, result = .ok copied ∧ copied ≠ .nothing) ∧
        after = { site with secrets := site.secrets.put .replica (secret.replica version) }
    | none => result = .error (.notFound .source) ∧ after = site := by
  cases copying with
  | fetched writing =>
    obtain ⟨told, served⟩ := serves_cons_iff.mp served
    rw [answer_getSource] at told served
    cases held : site.secrets.get? .source with
    | none => simp [held] at told
    | some source =>
      simp only [held, Except.ok.injEq, Option.some.injEq] at told
      subst told
      exact serves_writing served writing
  | untold =>
    obtain ⟨told, -⟩ := serves_cons_iff.mp served
    rw [answer_getSource] at told
    cases held : site.secrets.get? .source <;> simp [held] at told
  | unread error =>
    obtain ⟨told, ended⟩ := serves_cons_iff.mp served
    rw [answer_getSource] at told ended
    cases held : site.secrets.get? .source with
    | none =>
      simp only [held, Except.error.injEq] at told
      exact ⟨by rw [told], serves_nil_iff.mp ended⟩
    | some source => simp [held] at told

/-- Deleting the replica leaves its slot empty. -/
theorem serves_delete {answer : Except SyncError Unit}
    (served : Serves Site.answer site [.delete answer] after) :
    gone answer = true ∧ after = { site with secrets := site.secrets.erase .replica } := by
  obtain ⟨rfl, ended⟩ := serves_cons_iff.mp served
  rw [serves_nil_iff] at ended
  cases held : site.secrets.get? .replica with
  | none =>
    rw [ended, SecretMap.erase_of_get?_eq_none held]
    simp only [Site.answer, SecretMap.answer, held]
    exact ⟨rfl, trivial⟩
  | some secret =>
    simp only [ended, Site.answer, SecretMap.answer, held]
    exact ⟨rfl, trivial⟩

/-- Managing the credential brings the replica in line, and puts on record what was found. -/
theorem serves_managing {result : Except SyncError Config}
    (served : Serves answer site effects after)
    (managing : Managing version now config event effects result) :
    after = { site with secrets := site.secrets.follow version event } ∧
      result = .ok (match site.secrets.finding event with
        | some verdict => config.record now verdict
        | none => config) := by
  cases managing with
  | irrelevant role =>
    obtain rfl := serves_nil_iff.mp served
    simp [SecretMap.follow, SecretMap.finding, role]
  | echoed role deleted =>
    obtain rfl := serves_nil_iff.mp served
    simp [SecretMap.follow, SecretMap.finding, role, deleted]
  | restored role deleted copying told =>
    have copied := serves_copying served copying
    cases held : site.secrets.get? .source with
    | none => simp [held] at copied
    | some source =>
      rw [held] at copied
      obtain ⟨-, rfl⟩ := copied
      simp [SecretMap.follow, SecretMap.finding, role, deleted, held, Config.record]
  | untold role deleted copying =>
    have copied := serves_copying served copying
    cases held : site.secrets.get? .source <;> simp [held] at copied
  | orphaned role deleted copying missing =>
    have copied := serves_copying served copying
    cases held : site.secrets.get? .source with
    | none =>
      rw [held] at copied
      obtain ⟨-, rfl⟩ := copied
      simp [SecretMap.follow, SecretMap.finding, role, deleted, held, Config.record]
    | some source => simp [held] at copied
  | unrestored role deleted copying other =>
    have copied := serves_copying served copying
    cases held : site.secrets.get? .source with
    | none =>
      rw [held] at copied
      obtain ⟨same, -⟩ := copied
      cases same
      cases other
    | some source => simp [held] at copied
  | withdrawn role deleted absent =>
    obtain ⟨-, rfl⟩ := serves_delete served
    simp [SecretMap.follow, SecretMap.finding, role, deleted, Config.record]
  | kept role deleted other =>
    obtain ⟨missing, -⟩ := serves_delete served
    rw [gone, other] at missing
    cases missing
  | copied role deleted copying =>
    cases copying with
    | given writing =>
      obtain ⟨-, rfl⟩ := serves_writing served writing
      simp [SecretMap.follow, SecretMap.finding, role, deleted, Config.record]
  | uncopied role deleted copying =>
    cases copying with
    | given writing =>
      obtain ⟨⟨_, ⟨⟩, -⟩, -⟩ := serves_writing served writing

/-! ## Handling an event -/

/-- An event for which the credential is not managed is settled without a call. -/
private theorem Handles.of_quiet {outcome : Outcome}
    (definite : decision settings 0 config retries event ≠ .retryDeletion)
    (idle : event.ruling config ≠ .manageCredential)
    (quiet : ∀ verdict, ¬ event.Tells config site.secrets verdict)
    (plain : outcome = .ignored ∨ outcome = .unchanged) :
    site.Handles settings now config retries event [] ⟨.ok outcome, config, 0⟩ site := by
  have settled : site.Handles settings now config retries event [] _ _ :=
    .settled definite (List.forall_mem_nil _) quiet plain
  rwa [SecretEvent.kept, if_neg idle, SecretEvent.settle, if_neg idle] at settled

/-- An event for which the credential is not managed is told without another call. -/
private theorem Handles.of_news {verdict : Verdict} {reply : Except SyncError Unit}
    (definite : decision settings 0 config retries event ≠ .retryDeletion)
    (idle : event.ruling config ≠ .manageCredential)
    (tells : event.Tells config site.secrets verdict)
    (served : Serves answer site [.writeStatus (config.record now verdict) reply] after) :
    site.Handles settings now config retries event [.writeStatus (config.record now verdict) reply]
      ⟨flushed reply, config.record now verdict, 0⟩ after := by
  obtain ⟨rfl, ended⟩ := serves_cons_iff.mp served
  obtain rfl := serves_nil_iff.mp ended
  have told : site.Handles settings now config retries event ([] ++ [.writeStatus _ _]) _ _ :=
    .told definite (List.forall_mem_nil _) tells (by rw [SecretEvent.settle, if_neg idle])
  exact told

/-- Handling an event at a site takes one of these courses. -/
theorem handles {handled : Handled}
    (handling : Handling settings now 0 config retries event effects handled)
    (served : Serves answer site effects after) :
    site.Handles settings now config retries event effects handled after := by
  have ruledAtAnyCount {transition : Transition}
      (decided : decision settings 0 config retries event = transition)
      (definite : transition ≠ .retryDeletion) :
      decision settings 0 config retries event ≠ .retryDeletion ∧
        event.ruling config = transition := by
    subst decided
    exact ⟨definite, ruling_eq_of_definite definite⟩
  cases handling with
  | busy decided =>
    have upserts : (0 : UInt64) < 0 := grounds_of_decision decided
    exact absurd upserts (by decide)
  | postponed decided =>
    obtain rfl := serves_nil_iff.mp served
    exact .postponed decided
  | ignored decided =>
    obtain rfl := serves_nil_iff.mp served
    have quiet (ruling : event.ruling config = .ignoreUnmanaged ∨
        event.ruling config = .ignoreIrrelevant ∨ event.ruling config = .ignoreWhileRemoved)
        (verdict : Verdict) : ¬ event.Tells config after.secrets verdict := by
      rintro ⟨found, -⟩
      rcases ruling with same | same | same <;> simp [SecretEvent.verdict?, same] at found
    rcases decided with decided | decided | decided
    · obtain ⟨definite, ruling⟩ := ruledAtAnyCount decided (by decide)
      exact .of_quiet definite (by simp [ruling]) (quiet (.inl ruling)) (.inl rfl)
    · obtain ⟨definite, ruling⟩ := ruledAtAnyCount decided (by decide)
      exact .of_quiet definite (by simp [ruling]) (quiet (.inr (.inl ruling))) (.inl rfl)
    · obtain ⟨definite, ruling⟩ := ruledAtAnyCount decided (by decide)
      exact .of_quiet definite (by simp [ruling]) (quiet (.inr (.inr ruling))) (.inl rfl)
  | acknowledged decided known =>
    obtain rfl := serves_nil_iff.mp served
    obtain ⟨definite, ruling⟩ := ruledAtAnyCount decided (by decide)
    refine .of_quiet definite (by simp [ruling]) ?_ (.inr rfl)
    rintro verdict ⟨found, news⟩
    have holds : (config.condition Config.credentialType).status = .holds := of_decide_eq_true known
    obtain rfl : Verdict.present = verdict := by simpa [SecretEvent.verdict?, ruling] using found
    simp [ruling, holds, Verdict.status] at news
  | welcomed decided news answer =>
    obtain ⟨definite, ruling⟩ := ruledAtAnyCount decided (by decide)
    have unknown : (config.condition Config.credentialType).status ≠ .holds :=
      of_decide_eq_false news
    have tells : event.Tells config site.secrets .present :=
      ⟨by rw [SecretEvent.verdict?, ruling], .inr (.inr unknown.symm)⟩
    exact .of_news definite (by simp [ruling]) tells served
  | rejected decided answer =>
    obtain ⟨definite, ruling⟩ := ruledAtAnyCount decided (by decide)
    have tells : event.Tells config site.secrets (.failed (.unstamped Slot.replica.space)) :=
      ⟨by rw [SecretEvent.verdict?, ruling], .inl ruling⟩
    exact .of_news definite (by simp [ruling]) tells served
  | accepted decided answer =>
    obtain ⟨definite, ruling⟩ := ruledAtAnyCount decided (by decide)
    have tells : event.Tells config site.secrets .absent :=
      ⟨by rw [SecretEvent.verdict?, ruling], .inr (.inl ruling)⟩
    exact .of_news definite (by simp [ruling]) tells served
  | @steady _ managed decided managing same =>
    obtain ⟨definite, ruling⟩ := ruledAtAnyCount decided (by decide)
    obtain ⟨rfl, found⟩ := serves_managing served managing
    have held := Except.ok.inj found
    have quiet (verdict : Verdict) : ¬ event.Tells config site.secrets verdict := by
      rintro ⟨finding, news⟩
      rw [SecretEvent.verdict?_of_managing ruling] at finding
      rw [finding] at held
      simp [ruling, ← same, held] at news
    have settled : site.Handles settings now config retries event effects _ _ :=
      .settled definite (fun _ asked => managing.isStore asked) quiet (.inr rfl)
    rwa [SecretEvent.kept, if_pos ruling, ← held, SecretEvent.settle, if_pos ruling] at settled
  | @turned _ managed decided managing changed answer =>
    obtain ⟨definite, ruling⟩ := ruledAtAnyCount decided (by decide)
    obtain ⟨middle, stores, written⟩ := serves_append_iff.mp served
    obtain ⟨rfl, found⟩ := serves_managing stores managing
    obtain ⟨rfl, ended⟩ := serves_cons_iff.mp written
    obtain rfl := serves_nil_iff.mp ended
    cases finding : site.secrets.finding event with
    | none =>
      rw [finding] at found
      obtain rfl : managed = config := Except.ok.inj found
      exact absurd rfl changed
    | some verdict =>
      rw [finding] at found
      obtain rfl : managed = config.record now verdict := Except.ok.inj found
      rw [Config.status_condition_record] at changed
      have tells : event.Tells config site.secrets verdict :=
        ⟨(SecretEvent.verdict?_of_managing ruling).trans finding, .inr (.inr changed)⟩
      refine .told definite (fun _ asked => managing.isStore asked) tells ?_
      rw [SecretEvent.settle, if_pos ruling]
  | failed decided managing answer =>
    obtain ⟨middle, managed, -⟩ := serves_append_iff.mp served
    cases (serves_managing managed managing).2

end Site

end PullSecretSync
