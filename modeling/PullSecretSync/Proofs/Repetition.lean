import PullSecretSync.Proofs.Site

/-!
# Events that come more than once

Delivery is at least once. An event that neither tells of a lost replica nor of a foreign one is
settled when it is processed for the first time, and from then on it is no news: the secrets are in
line with it, and the condition tells what was found. However often it is processed again, on the
configuration in memory or on the stored one, nothing is written and nothing changes but times.
-/

namespace PullSecretSync

open Sync

/-- What is there between two times that an event is processed. -/
structure Post where
  site : Site
  /-- The configuration in memory. -/
  held : Config
  /-- The count of deferred deletions. -/
  retries : UInt32

/-- An event was processed: what came of it, what was asked and answered, and the site then. -/
structure Processed where
  handled : Handled
  effects : List Effect
  site : Site

/-- What is there after an event was processed. -/
def Processed.post (processed : Processed) : Post :=
  ⟨processed.site, processed.handled.config, processed.handled.retries⟩

namespace Post

/-- The configuration that an event is processed on: the one in memory, or the one that is stored,
read anew. -/
def config (post : Post) (anew : Bool) : Config := if anew then post.site.config else post.held

/-- Process an event while no sample upsert is in flight. -/
def process (settings : Settings) (event : SecretEvent) (post : Post) (now : Instant)
    (anew : Bool) : Processed :=
  let (handled, effects, site) :=
    (handle settings now 0 (post.config anew) post.retries event).run Site.answer post.site
  ⟨handled, effects, site⟩

/-- Process an event again and again, each time at its time. -/
def processAgain (settings : Settings) (event : SecretEvent) (post : Post) :
    List (Instant × Bool) → List Processed
  | [] => []
  | (now, anew) :: rest =>
    let processed := post.process settings event now anew
    processed :: processAgain settings event processed.post rest

end Post

/-- The event does not tell of a replica that is lost or that someone else wrote. -/
def SecretEvent.Harmless (event : SecretEvent) : Prop :=
  event.secret.role? = some .replica → event.deleted = false ∧ event.secret.stamped = true

/-- For a configuration beside some secrets an event is no news, and after it was settled once more
the credential stands as given. -/
structure SecretEvent.Known (event : SecretEvent) (version : String) (secrets : SecretMap)
    (standing : ConditionStatus × String) (config : Config) : Prop where
  quiet : ∀ verdict, ¬ event.Tells config secrets verdict
  settled : event.settle version config secrets = secrets
  standing_eq : ∀ now, (event.kept now config secrets).standing = standing

variable {settings : Settings} {version : String} {now : Instant} {config : Config}
  {retries : UInt32} {event : SecretEvent} {secrets : SecretMap} {verdict : Verdict}
  {standing : ConditionStatus × String}

namespace SecretEvent

theorem Harmless.definite (harmless : event.Harmless) (settings : Settings) (config : Config)
    (retries : UInt32) : decision settings 0 config retries event ≠ .retryDeletion := by
  intro waits
  obtain ⟨role, deleted, -⟩ := grounds_of_decision waits
  cases deleted.symm.trans (harmless role).1

/-- A harmless event is not put on record unless the status of the condition changes. -/
theorem Harmless.news (harmless : event.Harmless) (tells : event.Tells config secrets verdict) :
    verdict.status ≠ (config.condition Config.credentialType).status := by
  have grounds : (event.facts config 0 0 0).Grounds (event.ruling config) :=
    Facts.grounds_transition _
  rcases tells.2 with rejected | accepted | news
  · rw [rejected] at grounds
    obtain ⟨role, -, unstamped⟩ := grounds
    cases unstamped.symm.trans (harmless role).2
  · rw [accepted] at grounds
    obtain ⟨role, deleted, -⟩ := grounds
    cases deleted.symm.trans (harmless role).1
  · exact news

/-- What is held after an event was settled tells what was found, if the credential was managed. -/
theorem standing_kept (now : Instant) (config : Config) (secrets : SecretMap) :
    (event.kept now config secrets).standing =
      if event.ruling config = .manageCredential then
        ((secrets.finding event).map fun verdict => (verdict.status, verdict.message)).getD
          config.standing
      else config.standing := by
  rw [kept]
  split
  · cases secrets.finding event with
    | none => rfl
    | some verdict => exact Config.standing_record
  · rfl

theorem kept_spec (now : Instant) (config : Config) (secrets : SecretMap) :
    (event.kept now config secrets).spec = config.spec := by
  rw [kept]
  split
  · split
    · exact Config.record_spec
    · rfl
  · rfl

theorem kept_settle : event.kept now config (event.settle version config secrets) =
    event.kept now config secrets := by
  rw [settle]
  split
  · rw [kept, kept, SecretMap.finding_follow]
  · rfl

/-- An event that is known stays known when it is settled once more. -/
theorem Known.again (known : event.Known version secrets standing config)
    (harmless : event.Harmless) (now : Instant) :
    event.Known version secrets standing (event.kept now config secrets) where
  quiet verdict tells := by
    have found := tells.1
    rw [verdict?_congr (kept_spec now config secrets)] at found
    have same : verdict.status = (config.condition Config.credentialType).status :=
      Decidable.byContradiction fun news => known.quiet verdict ⟨found, .inr (.inr news)⟩
    refine harmless.news tells ?_
    rw [kept]
    split
    · rename_i managing
      rw [verdict?_of_managing managing] at found
      rw [found]
      exact Config.status_condition_record.symm
    · exact same
  settled := (settle_congr (kept_spec now config secrets)).trans known.settled
  standing_eq later := by
    have first := known.standing_eq now
    have second := known.standing_eq later
    rw [standing_kept] at first second ⊢
    rw [ruling_congr (kept_spec now config secrets), standing_kept]
    split
    · rename_i managing
      rw [if_pos managing] at first
      cases found : secrets.finding event with
      | none =>
        rw [found] at first
        simpa [found] using first
      | some verdict =>
        rw [found] at first
        simpa using first
    · rename_i idle
      rwa [if_neg idle] at first

/-- An event that was settled without news is known to the configuration that is stored. -/
theorem known_of_quiet (quiet : ∀ verdict, ¬ event.Tells config secrets verdict) (now : Instant) :
    event.Known version (event.settle version config secrets)
      (event.kept now config secrets).standing config where
  quiet verdict tells := quiet verdict (tells_settle_iff.mp tells)
  settled := settle_settle
  standing_eq later := by
    rw [kept_settle, standing_kept, standing_kept]

/-- An event that was news is known once it is on record. -/
theorem known_of_tells (harmless : event.Harmless) (tells : event.Tells config secrets verdict)
    (now : Instant) :
    event.Known version (event.settle version config secrets) (verdict.status, verdict.message)
      (config.record now verdict) where
  quiet other again := by
    have found := again.1
    rw [verdict?_congr Config.record_spec, verdict?_settle] at found
    obtain rfl : verdict = other := Option.some.inj (tells.1.symm.trans found)
    exact harmless.news again Config.status_condition_record.symm
  settled := by rw [settle_congr Config.record_spec, settle_settle]
  standing_eq later := by
    rw [standing_kept, ruling_congr Config.record_spec]
    split
    · rename_i managing
      have found := tells.1
      rw [verdict?_of_managing managing] at found
      rw [settle, if_pos managing, SecretMap.finding_follow, found]
      rfl
    · exact Config.standing_record

end SecretEvent

/-! ## Processing -/

/-- Handling an event that is known changes nothing, and writes nothing. -/
theorem Site.Handles.of_known {site after : Site} {asked : List Effect} {handled : Handled}
    (handles : site.Handles settings now config retries event asked handled after)
    (known : event.Known settings.version site.secrets standing config)
    (harmless : event.Harmless) :
    (handled.result = .ok .ignored ∨ handled.result = .ok .unchanged) ∧
      (∀ written answer, Effect.writeStatus written answer ∉ asked) ∧
      handled.config = event.kept now config site.secrets ∧ after = site ∧ handled.retries = 0 := by
  cases handles with
  | postponed deferred => exact absurd deferred (harmless.definite settings config retries)
  | told definite stores tells => exact absurd tells (known.quiet _)
  | settled definite stores quiet plain =>
    refine ⟨plain.imp (congrArg _) (congrArg _), fun written answer asked => ?_, rfl, ?_, rfl⟩
    · obtain ⟨call, reply, same⟩ := stores _ asked
      cases same
    · rw [known.settled]

namespace Post

/-- An event is known, to what is held and to what is stored. -/
structure Knows (event : SecretEvent) (version : String) (standing : ConditionStatus × String)
    (post : Post) : Prop where
  held : event.Known version post.site.secrets standing post.held
  stored : event.Known version post.site.secrets standing post.site.config

variable {post : Post}

/-- An event is processed in one of the courses that a site allows. -/
theorem handles_process (settings : Settings) (event : SecretEvent) (post : Post) (now : Instant)
    (anew : Bool) :
    post.site.Handles settings now (post.config anew) post.retries event
      (loud (post.process settings event now anew).effects)
      (post.process settings event now anew).handled
      (post.process settings event now anew).site := by
  have quiet : ∀ entry (site : Site), Site.answer (.note entry) site = ((), site) :=
    fun _ _ => rfl
  obtain ⟨leads, serves⟩ := leads_loud quiet
    (handle settings now 0 (post.config anew) post.retries event) post.site
  exact Site.handles (leads_handle_iff.mp leads) serves

/-- Processing an event again is of no consequence: nothing is written, and everything is as it was
before. -/
structure Unmoved (first : Post) (again : Processed) : Prop where
  result : again.handled.result = .ok .ignored ∨ again.handled.result = .ok .unchanged
  unwritten : ∀ config answer, Effect.writeStatus config answer ∉ again.effects
  secrets : again.site.secrets = first.site.secrets
  stored : again.site.config = first.site.config
  held : again.handled.config.standing = first.held.standing
  retries : again.handled.retries = first.retries

theorem Unmoved.of_unmoved {again later : Processed} (unmoved : again.post.Unmoved later)
    (first : post.Unmoved again) : post.Unmoved later where
  result := unmoved.result
  unwritten := unmoved.unwritten
  secrets := unmoved.secrets.trans first.secrets
  stored := unmoved.stored.trans first.stored
  held := unmoved.held.trans first.held
  retries := unmoved.retries.trans first.retries

/-- Processing an event that is known is of no consequence, and it stays known. -/
theorem Knows.process (knows : post.Knows event settings.version post.held.standing)
    (harmless : event.Harmless) (fresh : post.retries = 0) (now : Instant) (anew : Bool) :
    post.Unmoved (post.process settings event now anew) ∧
      (post.process settings event now anew).post.Knows event settings.version
        post.held.standing := by
  have known : event.Known settings.version post.site.secrets post.held.standing
      (post.config anew) := by
    rw [config]
    split
    · exact knows.stored
    · exact knows.held
  have handles := post.handles_process settings event now anew
  obtain ⟨result, unwritten, held, site, retries⟩ := handles.of_known known harmless
  have standing : (post.process settings event now anew).handled.config.standing =
      post.held.standing := by
    rw [held]
    exact known.standing_eq now
  refine ⟨⟨result, fun config answer asked => ?_, congrArg _ site, congrArg _ site, standing,
    retries.trans fresh.symm⟩, ?_, ?_⟩
  · exact unwritten config answer (List.mem_filter.mpr ⟨asked, rfl⟩)
  · rw [Processed.post, held, site]
    exact known.again harmless now
  · rw [Processed.post, site]
    exact knows.stored

/-- An event is known after it was processed on the configuration that is stored. -/
theorem knows_process (harmless : event.Harmless) (settings : Settings) (config : Config)
    (secrets : SecretMap) (retries : UInt32) (now : Instant) (anew : Bool) :
    let first := (process settings event ⟨⟨secrets, config, []⟩, config, retries⟩ now anew).post
    first.Knows event settings.version first.held.standing ∧ first.retries = 0 := by
  have handles := handles_process settings event ⟨⟨secrets, config, []⟩, config, retries⟩ now anew
  generalize process settings event ⟨⟨secrets, config, []⟩, config, retries⟩ now anew = first
    at handles ⊢
  rw [Post.config, ite_self] at handles
  obtain ⟨handled, effects, site⟩ := first
  simp only [Processed.post] at handles ⊢
  generalize loud effects = asked at handles
  cases handles with
  | postponed deferred => exact absurd deferred (harmless.definite settings config retries)
  | settled definite stores quiet plain =>
    have stored : event.Known settings.version (event.settle settings.version config secrets)
        (event.kept now config secrets).standing config := SecretEvent.known_of_quiet quiet now
    have held := stored.again harmless now
    rw [SecretEvent.kept_settle] at held
    exact ⟨⟨held, stored⟩, rfl⟩
  | @told _ verdict _ _ definite stores tells written =>
    obtain ⟨-, rfl⟩ := Prod.mk.inj written
    have known : event.Known settings.version (event.settle settings.version config secrets)
        (verdict.status, verdict.message) (config.record now verdict) :=
      SecretEvent.known_of_tells harmless tells now
    have stands : (config.record now verdict).standing = (verdict.status, verdict.message) :=
      Config.standing_record
    rw [← stands] at known
    refine ⟨⟨known, ?_⟩, rfl⟩
    rw [← Config.record_eq]
    exact known

/-- An event that is known is of no consequence, however often it is processed. -/
theorem Knows.processAgain (knows : post.Knows event settings.version post.held.standing)
    (harmless : event.Harmless) (fresh : post.retries = 0) (times : List (Instant × Bool)) :
    ∀ again ∈ post.processAgain settings event times, post.Unmoved again := by
  induction times generalizing post with
  | nil => exact List.forall_mem_nil _
  | cons time rest ih =>
    obtain ⟨unmoved, next⟩ := knows.process harmless fresh time.1 time.2
    have same : (post.process settings event time.1 time.2).post.held.standing =
        post.held.standing := unmoved.held
    rw [← same] at next
    have later := ih next (unmoved.retries.trans fresh)
    rw [Post.processAgain, List.forall_mem_cons]
    exact ⟨unmoved, fun again mem => (later again mem).of_unmoved unmoved⟩

/-- Events may come more than once. An event on the pull secret, on a stamped replica that was
applied or on any other secret is processed at any count, beside any secrets, on the configuration
that is stored. However often it is processed again after that, on the configuration in memory or on
the stored one, it is ignored or changes nothing, and nothing is written: the secrets, the status
and the message of the condition, in memory and stored, and the count stay as they were after the
first time. -/
theorem unmoved_by_repetition (harmless : event.Harmless) (settings : Settings) (config : Config)
    (secrets : SecretMap) (retries : UInt32) (now : Instant) (times : List (Instant × Bool)) :
    let first := (process settings event ⟨⟨secrets, config, []⟩, config, retries⟩ now false).post
    ∀ again ∈ first.processAgain settings event times, first.Unmoved again := by
  intro first
  obtain ⟨knows, fresh⟩ := knows_process harmless settings config secrets retries now false
  exact knows.processAgain harmless fresh times

/-- The pull secret is applied three times: the replica is created and the status written, and then
the replica is overwritten twice and nothing is written. -/
theorem unmoved_by_repeated_copy :
    let settings : Settings := ⟨"4.1.0", "cluster", 3, 5⟩
    let pull : Secret := { metadata := { name := some "coreos-pull-secret",
                                         space := some "kube-system" } }
    let event : SecretEvent := .applied pull
    let first := process settings event
      ⟨⟨[(.source, pull)], .new "cluster" {}, []⟩, .new "cluster" {}, 2⟩ ⟨1, 0⟩ false
    let again := first.post.processAgain settings event [(⟨2, 0⟩, false), (⟨3, 0⟩, true)]
    event.Harmless ∧ (∀ processed ∈ again, first.post.Unmoved processed) ∧
      first.handled.result.toOption = some .statusFlushed ∧
      (first.site.secrets.get? .replica).isSome = true ∧
      again.map (·.handled.result.toOption) = [some .unchanged, some .unchanged] := by
  intro settings pull event first again
  have harmless : event.Harmless := fun role => absurd role (by decide)
  exact ⟨harmless, unmoved_by_repetition harmless settings _ _ _ _ _, by decide, by decide,
    by decide⟩

end Post

end PullSecretSync
