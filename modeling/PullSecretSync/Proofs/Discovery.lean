import PullSecretSync.Api.Await
import Mathlib.Data.List.Basic

/-!
# What a check of the server finds

A server that answers the requests of a check offers groups, and resources in each of their
versions. The check finds the configuration's kind if the version that its group recommends serves
it as of the configuration's version. Where the resources of a version belong to that version, it
therefore finds a kind that is served if and only if the group recommends the configuration's
version; a kind whose group prefers another version, or lists one that is more stable and prefers
none, is overlooked.
-/

namespace PullSecretSync

/-! ## Recommended versions -/

/-- What comes before something comes before all that comes after it. -/
theorem Stability.before_trans {first middle last : Stability}
    (early : first.before middle = true) (late : middle.before last = true) :
    first.before last = true := by
  cases first <;> cases middle <;> cases last <;> simp_all [before] <;>
    first | omega | exact List.lt_trans early late

/-- Nothing comes before itself. -/
theorem Stability.before_self (version : Stability) : version.before version = false := by
  cases version <;> simp [before]

/-- What comes before something comes before anything else, unless this also does. -/
theorem Stability.before_or {first last : Stability} (early : first.before last = true)
    (middle : Stability) : first.before middle = true ∨ middle.before last = true := by
  cases first <;> cases last <;> cases middle
  case other.other.other first last middle =>
    have early : first < last := of_decide_eq_true early
    by_cases sooner : first < middle
    · exact .inl (decide_eq_true sooner)
    · exact .inr (decide_eq_true (List.lt_of_le_of_lt (List.not_lt.mp sooner) early))
  all_goals simp_all [before] <;> omega

/-- Only stable versions of a higher number come before a stable one. -/
theorem Stability.before_stable_iff {version : Stability} {major : Nat} :
    version.before (.stable major) = true ↔
      ∃ higher, major < higher ∧ version = .stable higher := by
  cases version <;> simp [before]

/-- The better of two versions, which is the first unless the second is more stable. -/
private def better (best other : String) : String :=
  if (Stability.ofName other).before (Stability.ofName best) then other else best

/-- No version comes before the best one. -/
private theorem not_before_foldl (versions : List String) (first : String) :
    ∀ other ∈ first :: versions,
      (Stability.ofName other).before (Stability.ofName (versions.foldl better first)) = false := by
  induction versions generalizing first with
  | nil =>
    intro other mem
    obtain rfl := List.mem_singleton.mp mem
    exact Stability.before_self _
  | cons version rest ih =>
    obtain ⟨best, later⟩ := List.forall_mem_cons.mp (ih (better first version))
    suffices both : (Stability.ofName first).before
          (Stability.ofName (rest.foldl better (better first version))) = false ∧
        (Stability.ofName version).before
          (Stability.ofName (rest.foldl better (better first version))) = false from
      List.forall_mem_cons.mpr ⟨both.1, List.forall_mem_cons.mpr ⟨both.2, later⟩⟩
    cases wins : (Stability.ofName version).before (Stability.ofName first) with
    | true =>
      have same : better first version = version := if_pos wins
      rw [same] at best ⊢
      refine ⟨Bool.eq_false_iff.mpr fun beats => ?_, best⟩
      exact Bool.eq_false_iff.mp best (Stability.before_trans wins beats)
    | false =>
      have same : better first version = first := if_neg (Bool.eq_false_iff.mp wins)
      rw [same] at best ⊢
      refine ⟨best, Bool.eq_false_iff.mpr fun beats => ?_⟩
      rcases Stability.before_or beats (Stability.ofName first) with ahead | ahead
      · exact Bool.eq_false_iff.mp wins ahead
      · exact Bool.eq_false_iff.mp best ahead

/-- What a group without a preference recommends is as stable as anything that it lists. -/
theorem latestVersion?_stable {versions : List String} {latest : String}
    (found : latestVersion? versions = some latest) :
    ∀ other ∈ versions, (Stability.ofName other).before (Stability.ofName latest) = false := by
  cases versions with
  | nil => cases found
  | cons first rest =>
    obtain rfl := Option.some.inj found
    exact not_before_foldl rest first

/-! ## Offers -/

/-- What a server has to tell: its groups, and the resources under the name of each version of a
group. -/
structure Offer where
  groups : List ApiGroup
  resources : String → ResourceList

namespace Offer

/-- The groups that have the name of the configuration's. -/
def own (offer : Offer) : List ApiGroup := offer.groups.filter (·.name = Config.group)

/-- The configuration's kind is served: its group is listed with the configuration's version, and
among the resources of this version, not among the parts of resources, is one of the kind. -/
def Serves (offer : Offer) : Prop :=
  ∃ group ∈ offer.own, ∃ version ∈ group.versions, version.version = Config.version ∧
    ∃ resource ∈ (offer.resources version.groupVersion).resources,
      '/' ∉ resource.name.toList ∧ resource.kind = Config.kind

/-- The configuration's group recommends the configuration's version. -/
def Recommends (offer : Offer) : Prop :=
  ∃ group ∈ offer.own, group.recommended? = some Config.version

/-- There is one group of a name, it lists a version once, and the resources under a version belong
to this version. -/
structure Regular (offer : Offer) : Prop where
  group : ∀ group ∈ offer.own, offer.own = [group]
  versions : ∀ group ∈ offer.own, (group.versions.map (·.version)).Nodup
  resources : ∀ group ∈ offer.own, ∀ version ∈ group.versions,
    ∀ resource ∈ (offer.resources version.groupVersion).resources,
      '/' ∉ resource.name.toList → resource.kind = Config.kind →
        resource.version.getD
          (ResourceList.versionOf (offer.resources version.groupVersion).groupVersion) =
          version.version

/-- A group serves the configuration in the version that it recommends. -/
def Holds (offer : Offer) (group : ApiGroup) : Bool :=
  group.servesConfig
    (group.versions.map fun version => (version.version, offer.resources version.groupVersion))

/-- Whether some groups of one name hold it: none may be empty, and the last one counts. -/
def search (offer : Offer) (found : Bool) (groups : List ApiGroup) : Except ApiError Bool :=
  match groups.find? (·.versions.isEmpty) with
  | some group => .error (.emptyGroup group.name)
  | none => .ok ((groups.getLast?.map offer.Holds).getD found)

/-- What a check finds. -/
def finding (offer : Offer) : Await.Finding :=
  match offer.search false offer.own with
  | .ok true => .available
  | .ok false => .missing
  | .error error => .failed error

end Offer

/-! ## What is found -/

/-- A version is found by its name where no name comes twice. -/
private theorem find?_of_nodup {versions : List GroupVersion} {version : GroupVersion}
    (distinct : (versions.map (·.version)).Nodup) (mem : version ∈ versions) :
    versions.find? (·.version = version.version) = some version := by
  induction versions with
  | nil => cases mem
  | cons first rest ih =>
    obtain ⟨absent, distinct⟩ := List.nodup_cons.mp distinct
    rcases List.mem_cons.mp mem with rfl | later
    · exact List.find?_cons_of_pos (by simp)
    · have apart : first.version ≠ version.version := fun same =>
        absent (List.mem_map.mpr ⟨version, later, same.symm⟩)
      rw [List.find?_cons_of_neg (by simpa using apart)]
      exact ih distinct later

namespace ResourceList

theorem servesConfig_iff {list : ResourceList} : list.servesConfig = true ↔
    ∃ resource ∈ list.resources, '/' ∉ resource.name.toList ∧ resource.kind = Config.kind ∧
      resource.version.getD (versionOf list.groupVersion) = Config.version := by
  simp [servesConfig, and_assoc]

end ResourceList

namespace Offer

variable {offer : Offer} {group : ApiGroup}

/-- The resources of the version that a group recommends count, if it lists this version. -/
theorem holds_iff : offer.Holds group = true ↔
    ∃ version, group.recommended? = some version.version ∧
      group.versions.find? (·.version = version.version) = some version ∧
      (offer.resources version.groupVersion).servesConfig = true := by
  have found (name : String) :
      (group.versions.map fun version =>
        (version.version, offer.resources version.groupVersion)).find? (·.1 = name) =
      (group.versions.find? (·.version = name)).map fun version =>
        (version.version, offer.resources version.groupVersion) := List.find?_map
  rw [Holds, ApiGroup.servesConfig]
  cases group.recommended? with
  | none => simp
  | some name =>
    rw [Option.bind_some, found]
    cases listed : group.versions.find? (·.version = name) with
    | none =>
      simp only [Option.map_none, Bool.false_eq_true, Option.some.injEq, false_iff]
      rintro ⟨version, rfl, known, -⟩
      cases listed.symm.trans known
    | some version =>
      have same : version.version = name := by simpa using List.find?_some listed
      subst same
      simp only [Option.map_some, Option.some.injEq]
      constructor
      · exact fun serves => ⟨version, rfl, listed, serves⟩
      · rintro ⟨other, same, known, serves⟩
        rw [← same, listed] at known
        exact Option.some.inj known ▸ serves

/-- The configuration is found: no group of its name is empty, and the last one lists the version
that it recommends, among whose resources is one of the kind and of the configuration's version. -/
def Finds (offer : Offer) : Prop :=
  (∀ group ∈ offer.own, group.versions ≠ []) ∧
    ∃ group ∈ offer.own.getLast?, ∃ version, group.recommended? = some version.version ∧
      group.versions.find? (·.version = version.version) = some version ∧
      (offer.resources version.groupVersion).servesConfig = true

theorem finding_eq_available_iff : offer.finding = .available ↔ offer.Finds := by
  have filled : offer.own.find? (·.versions.isEmpty) = none ↔
      ∀ group ∈ offer.own, group.versions ≠ [] := by
    simp [List.find?_eq_none]
  rw [finding, search, Finds, ← filled]
  cases offer.own.find? (·.versions.isEmpty) with
  | some group => simp
  | none =>
    cases offer.own.getLast? with
    | none => simp
    | some group =>
      rw [Option.map_some, Option.getD_some]
      simp only [true_and, Option.mem_some_iff, exists_eq_left', ← holds_iff]
      cases offer.Holds group <;> simp

/-- Where all is regular, a kind that is served is found if and only if its version is
recommended. -/
theorem Regular.finds_iff (regular : offer.Regular) :
    offer.Finds ↔ offer.Serves ∧ offer.Recommends := by
  constructor
  · rintro ⟨-, group, last, version, recommended, listed, serves⟩
    have own : group ∈ offer.own := List.mem_of_getLast? last
    have known : version ∈ group.versions := List.mem_of_find?_eq_some listed
    obtain ⟨resource, mem, whole, kind, same⟩ := ResourceList.servesConfig_iff.mp serves
    have version_eq : version.version = Config.version :=
      (regular.resources group own version known resource mem whole kind).symm.trans same
    exact ⟨⟨group, own, version, known, version_eq, resource, mem, whole, kind⟩,
      group, own, version_eq ▸ recommended⟩
  · rintro ⟨⟨group, own, version, known, version_eq, resource, mem, whole, kind⟩, other, too,
      recommended⟩
    have only := regular.group group own
    obtain rfl : other = group := List.mem_singleton.mp (only ▸ too)
    have listed := find?_of_nodup (regular.versions other own) known
    refine ⟨?_, other, by rw [only]; rfl, version, version_eq ▸ recommended, listed, ?_⟩
    · intro group mem
      obtain rfl : group = other := List.mem_singleton.mp (only ▸ mem)
      exact List.ne_nil_of_mem known
    · refine ResourceList.servesConfig_iff.mpr ⟨resource, mem, whole, kind, ?_⟩
      exact (regular.resources other own version known resource mem whole kind).trans version_eq

end Offer

/-! ## Asking the server -/

namespace Http

variable {σ α β : Type} {answer : (question : HttpCall) → σ → question.Answer × σ}

/-- Whatever the state of the surroundings, a computation comes to a value. -/
def Yields (answer : (question : HttpCall) → σ → question.Answer × σ) (computation : Http α)
    (value : α) : Prop :=
  ∀ state, (computation.run answer state).1 = value

theorem Yields.bind {computation : Http α} {next : α → Http β} {value : α} {result : β}
    (first : Yields answer computation value) (later : Yields answer (next value) result) :
    Yields answer (computation >>= next) result := by
  intro state
  rw [Interaction.bind_eq, Interaction.run_bind]
  simp only [first state]
  exact later _

theorem yields_pure (value : α) : Yields answer (pure value) value := fun _ => rfl

/-- Asked for what is at an address, the server replies with the document of a value. -/
def Lists (answer : (question : HttpCall) → σ → question.Answer × σ) (decoder : Decoder α)
    (target : String) (value : α) : Prop :=
  ∃ address, Address.ofText target = .ok address ∧
    ∀ state, (answer (.send ⟨.get, address, none⟩) state).1.readBy decoder.parse = .ok value

theorem Lists.yields {decoder : Decoder α} {target : String} {value : α}
    (lists : Lists answer decoder target value) :
    Yields answer (getListing decoder target) (.ok value) := by
  obtain ⟨address, valid, replies⟩ := lists
  intro state
  rw [getListing, valid]
  exact replies state

/-- The server makes an offer: each request of a check is replied to with the document of what is
offered. -/
structure Offers (answer : (question : HttpCall) → σ → question.Answer × σ) (offer : Offer) :
    Prop where
  groups : Lists answer ApiGroup.listDecoder "/apis" offer.groups
  resources : ∀ group ∈ offer.own, ∀ version ∈ group.versions,
    Lists answer ResourceList.decoder ("/apis/" ++ version.groupVersion)
      (offer.resources version.groupVersion)

variable {offer : Offer}

theorem yields_listVersions {versions : List GroupVersion}
    (lists : ∀ version ∈ versions, Lists answer ResourceList.decoder
      ("/apis/" ++ version.groupVersion) (offer.resources version.groupVersion)) :
    Yields answer (listVersions versions) (.ok (versions.map fun version =>
      (version.version, offer.resources version.groupVersion))) := by
  induction versions with
  | nil => exact yields_pure _
  | cons version rest ih =>
    obtain ⟨first, later⟩ := List.forall_mem_cons.mp lists
    exact first.yields.bind ((ih later).bind (yields_pure _))

/-- Groups of other names do not count. -/
theorem yields_searchGroups {groups : List ApiGroup} (found : Bool)
    (lists : ∀ group ∈ groups, group.name = Config.group → ∀ version ∈ group.versions,
      Lists answer ResourceList.decoder ("/apis/" ++ version.groupVersion)
        (offer.resources version.groupVersion)) :
    Yields answer (searchGroups found groups)
      (offer.search found (groups.filter (·.name = Config.group))) := by
  induction groups generalizing found with
  | nil => exact yields_pure _
  | cons group rest ih =>
    obtain ⟨first, later⟩ := List.forall_mem_cons.mp lists
    rw [searchGroups]
    by_cases named : group.name = Config.group
    · have counts : (group :: rest).filter (·.name = Config.group) =
          group :: rest.filter (·.name = Config.group) :=
        List.filter_cons_of_pos (by simpa using named)
      rw [if_neg (not_not.mpr named), counts, Offer.search, List.find?_cons]
      cases empty : group.versions.isEmpty with
      | true => exact yields_pure _
      | false =>
        rw [List.getLast?_cons, Option.map_some, Option.getD_some, ← Option.getD_map offer.Holds]
        exact (yields_listVersions (first named)).bind (ih (offer.Holds group) later)
    · have other : (group :: rest).filter (·.name = Config.group) =
          rest.filter (·.name = Config.group) := List.filter_cons_of_neg (by simpa using named)
      rw [if_pos named, other]
      exact ih found later

/-- A check finds what the offer says. -/
theorem Offers.yields_checkOnce (offers : Offers answer offer) (interval : UInt64) :
    Yields answer (checkOnce interval) offer.finding := by
  have searched : Yields answer servesConfig (offer.search false offer.own) :=
    offers.groups.yields.bind (yields_searchGroups false fun group mem named =>
      offers.resources group (List.mem_filter.mpr ⟨mem, decide_eq_true named⟩))
  refine searched.bind fun state => ?_
  rw [Offer.finding]
  match offer.search false offer.own with
  | .ok true => rfl
  | .ok false => rfl
  | .error error => rfl

end Http

/-! ## Checks -/

namespace Offer

/-- What a check is worth. -/
structure Checked (offer : Offer) (finding : Await.Finding) : Prop where
  available_iff : finding = .available ↔ offer.Finds
  /-- The check tells whether the kind is served unless the kind is served and its version is not
  recommended. -/
  agrees_iff : offer.Regular →
    ((finding = .available ↔ offer.Serves) ↔ (offer.Serves → offer.Recommends))
  /-- A kind that is served is missed when its group prefers another version, and when it prefers
  none and lists a stable version of a higher number. -/
  overlooked : offer.Regular → offer.Serves → ∀ group ∈ offer.own,
    (∃ preferred ∈ group.preferred, preferred.version ≠ Config.version) ∨
      (group.preferred = none ∧ ∃ version ∈ group.versions, ∃ major,
        1 < major ∧ Stability.ofName version.version = .stable major) →
    finding = .missing

variable {offer : Offer} {group : ApiGroup}

/-- A group does not recommend the configuration's version if it prefers another one or lists one
that is more stable. -/
theorem recommended?_ne (other :
    (∃ preferred ∈ group.preferred, preferred.version ≠ Config.version) ∨
      (group.preferred = none ∧ ∃ version ∈ group.versions, ∃ major,
        1 < major ∧ Stability.ofName version.version = .stable major)) :
    group.recommended? ≠ some Config.version := by
  intro recommended
  rw [ApiGroup.recommended?] at recommended
  rcases other with ⟨preferred, known, apart⟩ | ⟨none, version, mem, major, higher, stable⟩
  · rw [Option.mem_def.mp known] at recommended
    exact apart (Option.some.inj recommended)
  · rw [none] at recommended
    have last := latestVersion?_stable recommended version.version (List.mem_map_of_mem mem)
    have first : Stability.ofName Config.version = .stable 1 := by decide
    rw [first, stable] at last
    exact Bool.eq_false_iff.mp last (Stability.before_stable_iff.mpr ⟨major, higher, rfl⟩)

/-- A check does not fail where the kind is served. -/
theorem Regular.finding_ne_failed (regular : offer.Regular) (serves : offer.Serves)
    (error : ApiError) : offer.finding ≠ .failed error := by
  obtain ⟨group, own, version, known, -⟩ := serves
  have filled : group.versions.isEmpty = false :=
    List.isEmpty_eq_false_iff.mpr (List.ne_nil_of_mem known)
  have only : offer.own.find? (·.versions.isEmpty) = none := by
    rw [regular.group group own, List.find?_cons, filled]
    rfl
  rw [finding, search, only]
  cases (offer.own.getLast?.map offer.Holds).getD false <;> simp

theorem checked_finding (offer : Offer) : offer.Checked offer.finding where
  available_iff := finding_eq_available_iff
  agrees_iff regular := by
    rw [finding_eq_available_iff, regular.finds_iff]
    constructor
    · exact fun agrees serves => (agrees.mpr serves).2
    · exact fun recommends => ⟨And.left, fun serves => ⟨serves, recommends serves⟩⟩
  overlooked regular serves group own other := by
    have missed : ¬ offer.Finds := fun finds => by
      obtain ⟨_, too, recommended⟩ := (regular.finds_iff.mp finds).2
      obtain rfl := List.mem_singleton.mp (regular.group group own ▸ too)
      exact recommended?_ne other recommended
    match found : offer.finding with
    | .available => exact absurd (finding_eq_available_iff.mp found) missed
    | .missing => rfl
    | .failed error => exact absurd found (regular.finding_ne_failed serves error)

end Offer

/-- **Checks.** Against any server that makes an offer, in whatever state, a check is worth what the
offer says. -/
theorem Http.checkOnce_checked {σ : Type}
    {answer : (question : HttpCall) → σ → question.Answer × σ} {offer : Offer}
    (offers : Offers answer offer) (interval : UInt64) (state : σ) :
    offer.Checked ((checkOnce interval).run answer state).1 := by
  rw [offers.yields_checkOnce interval state]
  exact offer.checked_finding

namespace Http

/-- The replies of a server that has some documents under their paths. -/
def serving (documents : List (String × String)) :
    (question : HttpCall) → Unit → question.Answer × Unit
  | .send request, state =>
    (match Json.lookup request.address.path documents with
      | some content => .answered 200 content
      | none => .answered 404 "", state)
  | .note _, state => ((), state)

theorem lists_serving {α : Type} {documents : List (String × String)} {decoder : Decoder α}
    {path content : String} {value : α} (valid : Address.ofText path = .ok ⟨path, none⟩)
    (found : Json.lookup path documents = some content)
    (reads : decoder.parse content = .ok value) :
    Lists (serving documents) decoder path value := by
  refine ⟨⟨path, none⟩, valid, fun state => ?_⟩
  simp only [serving, found]
  change (decoder.parse content).mapError ApiError.badBody = _
  rw [reads]
  rfl

/-- The configuration's kind is served in two versions, of which its group prefers the second. It is
missed, although it is served in the configuration's version. -/
theorem checkOnce_misses_unpreferred_version :
    let version (name : String) : String :=
      "\x7b\"groupVersion\":\"samples.operator.openshift.io/" ++ name ++
        "\",\"version\":\"" ++ name ++ "\"\x7d"
    let groups : String :=
      "\x7b\"groups\":[\x7b\"name\":\"samples.operator.openshift.io\",\"preferredVersion\":" ++
        version "v2" ++ ",\"versions\":[" ++ version "v1" ++ "," ++ version "v2" ++ "]\x7d]\x7d"
    let resources (name : String) : String :=
      "\x7b\"groupVersion\":\"samples.operator.openshift.io/" ++ name ++
        "\",\"resources\":[\x7b\"kind\":\"Config\",\"name\":\"configs\"\x7d]\x7d"
    let answer := serving [("/apis", groups),
      ("/apis/samples.operator.openshift.io/v1", resources "v1"),
      ("/apis/samples.operator.openshift.io/v2", resources "v2")]
    let one : GroupVersion := ⟨"samples.operator.openshift.io/v1", "v1"⟩
    let two : GroupVersion := ⟨"samples.operator.openshift.io/v2", "v2"⟩
    let offer : Offer := {
      groups := [⟨Config.group, some two, [one, two]⟩]
      resources := fun version => ⟨version, [⟨"configs", "Config", none⟩]⟩ }
    Offers answer offer ∧ offer.Regular ∧ offer.Serves ∧ ¬ offer.Recommends ∧
      ((checkOnce 10).run answer ()).1 = .missing := by
  intro version groups resources answer one two offer
  let group : ApiGroup := ⟨Config.group, some two, [one, two]⟩
  have own : offer.own = [group] := rfl
  have mem : group ∈ offer.own := List.mem_singleton_self group
  have offers : Offers answer offer := by
    refine ⟨lists_serving (by decide +kernel) rfl (by decide +kernel), ?_⟩
    refine List.forall_mem_singleton.mpr
      (List.forall_mem_cons.mpr ⟨?_, List.forall_mem_singleton.mpr ?_⟩)
    · exact lists_serving (by decide +kernel) rfl (by decide +kernel)
    · exact lists_serving (by decide +kernel) rfl (by decide +kernel)
  have regular : offer.Regular := by
    refine ⟨List.forall_mem_singleton.mpr own, List.forall_mem_singleton.mpr (by decide), ?_⟩
    refine List.forall_mem_singleton.mpr
      (List.forall_mem_cons.mpr ⟨?_, List.forall_mem_singleton.mpr ?_⟩)
    · exact List.forall_mem_singleton.mpr fun _ _ => by decide
    · exact List.forall_mem_singleton.mpr fun _ _ => by decide
  have serves : offer.Serves :=
    ⟨group, mem, one, List.mem_cons_self, rfl, _, List.mem_singleton_self _, by decide, rfl⟩
  have checked := checkOnce_checked offers 10 ()
  refine ⟨offers, regular, serves, ?_, checked.overlooked regular serves group mem ?_⟩
  · rintro ⟨other, too, recommended⟩
    obtain rfl := List.mem_singleton.mp too
    exact absurd recommended (by decide)
  · exact .inl ⟨two, rfl, by decide⟩

end Http

end PullSecretSync
