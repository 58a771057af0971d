import PullSecretSync.Proofs.Patching
import PullSecretSync.Settings
import Mathlib.Data.Nat.Digits.Defs
import Mathlib.Tactic.Ring

/-!
# Which settings an environment lays down

A numeral below a bound is read as its value and nothing else is. An environment lays down settings
when the version is a text and each number that is given as text is a numeral that fits. The number
is then the value of the numeral. What is given as bytes that are no text counts as not given,
except for the version; so an environment is taken at its word as long as nothing of this kind is
given.
-/

namespace PullSecretSync

/-! ## Numerals -/

namespace Numeral

/-- The value of some decimal digits, the first of which counts most. -/
def valueOf (digits : List Char) : Nat :=
  Nat.ofDigits 10 (digits.reverse.map fun c => c.toNat - '0'.toNat)

/-- A text denotes a number: it is made of decimal digits, at least one, behind at most one plus
sign. -/
def Denotes (text : List Char) (number : Nat) : Prop :=
  ∃ digits, (text = digits ∨ text = '+' :: digits) ∧ digits ≠ [] ∧
    (∀ c ∈ digits, c.isDigit = true) ∧ number = valueOf digits

theorem valueOf_cons (c : Char) (digits : List Char) :
    valueOf (c :: digits) = (c.toNat - '0'.toNat) * 10 ^ digits.length + valueOf digits := by
  simp only [valueOf, List.reverse_cons, List.map_append, List.map_cons, List.map_nil,
    Nat.ofDigits_append, Nat.ofDigits_singleton, List.length_map, List.length_reverse]
  ring

variable {bound value number : Nat} {text digits : List Char}

/-- Digits after some of a value below the bound are read if the whole value is below it; that what
is read so far is below it, too, says nothing more. -/
theorem readDigits_eq_ok_iff (below : value < bound) :
    readDigits bound value digits = .ok number ↔
      (∀ c ∈ digits, c.isDigit = true) ∧
        number = value * 10 ^ digits.length + valueOf digits ∧ number < bound := by
  induction digits generalizing value with
  | nil =>
    have empty : valueOf [] = 0 := rfl
    rw [readDigits, Except.ok.injEq, List.length_nil, Nat.pow_zero, Nat.mul_one, empty,
      Nat.add_zero]
    constructor
    · rintro rfl
      exact ⟨List.forall_mem_nil _, rfl, below⟩
    · exact fun known => known.2.1.symm
  | cons c rest ih =>
    rw [List.forall_mem_cons, readDigits, digit?]
    cases digit : c.isDigit with
    | false => simp
    | true =>
      have whole : value * 10 ^ (c :: rest).length + valueOf (c :: rest) =
          (10 * value + (c.toNat - '0'.toNat)) * 10 ^ rest.length + valueOf rest := by
        rw [valueOf_cons, List.length_cons]
        ring
      rw [whole]
      simp only [if_true, true_and]
      split
      · exact ih ‹_›
      · have onlyGrows : 10 * value + (c.toNat - '0'.toNat) ≤
            (10 * value + (c.toNat - '0'.toNat)) * 10 ^ rest.length :=
          Nat.le_mul_of_pos_right _ (by positivity)
        simp only [reduceCtorEq, false_iff, not_and]
        omega

/-- What is read is exactly what a numeral denotes, as long as it is below the bound. -/
theorem read_eq_ok_iff (positive : 0 < bound) :
    read bound text = .ok number ↔ Denotes text number ∧ number < bound := by
  have digits_iff (digits : List Char) : readDigits bound 0 digits = .ok number ↔
      ((∀ c ∈ digits, c.isDigit = true) ∧ number = valueOf digits) ∧ number < bound := by
    rw [readDigits_eq_ok_iff positive, Nat.zero_mul, Nat.zero_add, and_assoc]
  have sign : '+'.isDigit = false := rfl
  unfold read
  split
  · simp [Denotes]
  · simp [Denotes, sign]
  · rename_i digits nonempty
    rw [digits_iff]
    refine and_congr_left fun _ => ⟨fun known => ?_, ?_⟩
    · exact ⟨digits, .inr rfl, nonempty, known⟩
    · rintro ⟨others, rfl | same, -, plain, value⟩
      · cases sign.symm.trans (plain '+' List.mem_cons_self)
      · obtain rfl := (List.cons.inj same).2
        exact ⟨plain, value⟩
  · rename_i nonempty _ unsigned
    rw [digits_iff]
    refine and_congr_left fun _ => ⟨fun known => ⟨text, .inl rfl, nonempty, known⟩, ?_⟩
    rintro ⟨digits, rfl | signed, -, known⟩
    · exact known
    · exact absurd signed (unsigned digits)

end Numeral
/-! ## Variables -/

variable {α : Type} {means : String → α → Prop} {default setting : α} {given : Option EnvValue}

/-- A variable settles a setting: where it is set it is a text that means the setting, and a default
stands in where it is not set. -/
inductive Settles (means : String → α → Prop) (default : α) : Option EnvValue → α → Prop
  | set {text : String} {setting : α} (meant : means text setting) :
      Settles means default (some (.text text)) setting
  | unset : Settles means default none default

/-- What is left of a variable when only texts count. -/
def legible : Option EnvValue → Option EnvValue
  | some (.raw _) => none
  | given => given

theorem legible_eq_text_iff {text : String} :
    legible given = some (.text text) ↔ given = some (.text text) := by
  match given with
  | none => exact Iff.rfl
  | some (.text found) => exact Iff.rfl
  | some (.raw bytes) => simp [legible]

/-- A variable that settles a setting is no bytes, and bytes are all that not to count changes. -/
theorem settles_iff : Settles means default given setting ↔
    Settles means default (legible given) setting ∧ ∀ bytes, given ≠ some (.raw bytes) := by
  constructor
  · intro settles
    cases settles with
    | set meant => exact ⟨.set meant, nofun⟩
    | unset => exact ⟨.unset, nofun⟩
  · rintro ⟨settles, plain⟩
    match given with
    | none => exact settles
    | some (.text text) => exact settles
    | some (.raw bytes) => exact absurd rfl (plain bytes)

/-- The variable of that name, if only texts count. -/
def Environment.legible? (environment : Environment) (name : String) : Option EnvValue :=
  legible (environment.value? name)

theorem Environment.legible?_eq (environment : Environment) (name : String) :
    environment.legible? name = (environment.text? name).map .text := by
  rw [legible?, text?]
  match environment.value? name with
  | none => rfl
  | some (.text text) => rfl
  | some (.raw bytes) => rfl

namespace Settings

variable {environment : Environment} {settings : Settings}

/-- The settings follow from the variables, each from its own. -/
structure Follows (value? : String → Option EnvValue) (settings : Settings) : Prop where
  version : value? versionVariable = some (.text settings.version)
  configName :
    Settles Eq defaultConfigName (value? configNameVariable) settings.configName
  retryLimit :
    Settles (fun text limit => Numeral.Denotes text.toList limit.toNat) defaultRetryLimit
      (value? retryLimitVariable) settings.retryLimit
  retryDelay :
    Settles (fun text delay => Numeral.Denotes text.toList delay.toNat) defaultRetryDelay
      (value? retryDelayVariable) settings.retryDelay

/-- A variable that need not be set is set to bytes that are no text. -/
def Garbled (environment : Environment) : Prop :=
  ∃ name ∈ [configNameVariable, retryLimitVariable, retryDelayVariable],
    ∃ bytes, environment.value? name = some (.raw bytes)

/-- Settings that follow when only texts count follow as well when everything counts, unless a
variable is garbled. -/
theorem follows_value?_iff : Follows environment.value? settings ↔
    Follows environment.legible? settings ∧ ¬ Garbled environment := by
  have garbled : ¬ Garbled environment ↔
      (∀ bytes, environment.value? configNameVariable ≠ some (.raw bytes)) ∧
        (∀ bytes, environment.value? retryLimitVariable ≠ some (.raw bytes)) ∧
          ∀ bytes, environment.value? retryDelayVariable ≠ some (.raw bytes) := by
    simp [Garbled]
  rw [garbled]
  constructor
  · rintro ⟨version, configName, retryLimit, retryDelay⟩
    obtain ⟨configName, plainName⟩ := settles_iff.mp configName
    obtain ⟨retryLimit, plainLimit⟩ := settles_iff.mp retryLimit
    obtain ⟨retryDelay, plainDelay⟩ := settles_iff.mp retryDelay
    exact ⟨⟨legible_eq_text_iff.mpr version, configName, retryLimit, retryDelay⟩, plainName,
      plainLimit, plainDelay⟩
  · rintro ⟨⟨version, configName, retryLimit, retryDelay⟩, plainName, plainLimit, plainDelay⟩
    exact ⟨legible_eq_text_iff.mp version, settles_iff.mpr ⟨configName, plainName⟩,
      settles_iff.mpr ⟨retryLimit, plainLimit⟩, settles_iff.mpr ⟨retryDelay, plainDelay⟩⟩

/-! ## Loading -/

/-- A number below a bound settles a word of that many values. -/
theorem settles_word {word : Type} {toNat : word → Nat} {ofNat : Nat → word} {bound : Nat}
    (ofNat_toNat : ∀ value, ofNat (toNat value) = value)
    (toNat_ofNat : ∀ number < bound, toNat (ofNat number) = number)
    (toNat_lt : ∀ value, toNat value < bound) (given : Option EnvValue) (default setting : word) :
    (∃ number, Settles (fun text number => Numeral.Denotes text.toList number ∧ number < bound)
        (toNat default) given number ∧ ofNat number = setting) ↔
      Settles (fun text value => Numeral.Denotes text.toList (toNat value)) default given
        setting := by
  constructor
  · rintro ⟨number, settles, rfl⟩
    cases settles with
    | set meant => exact .set (by rw [toNat_ofNat number meant.2]; exact meant.1)
    | unset =>
      rw [ofNat_toNat]
      exact .unset
  · intro settles
    refine ⟨toNat setting, ?_, ofNat_toNat setting⟩
    cases settles with
    | set meant => exact .set ⟨meant, toNat_lt setting⟩
    | unset => exact .unset

/-- A number is what the text of its variable denotes. -/
theorem number_eq_ok_iff {name : String} {bound default result : Nat} (positive : 0 < bound) :
    number environment name bound default = .ok result ↔
      Settles (fun text number => Numeral.Denotes text.toList number ∧ number < bound) default
        (environment.legible? name) result := by
  rw [number, Environment.legible?_eq]
  cases environment.text? name with
  | none =>
    constructor
    · rintro ⟨⟩
      exact .unset
    · rintro ⟨⟩
      rfl
  | some text =>
    have read : (Numeral.read bound text.toList).mapError (SettingsError.numeral name text) =
        .ok result ↔ Numeral.Denotes text.toList result ∧ result < bound := by
      rw [← Numeral.read_eq_ok_iff positive]
      cases Numeral.read bound text.toList <;> simp [Except.mapError]
    refine read.trans ⟨fun meant => .set meant, ?_⟩
    rintro ⟨meant⟩
    exact meant

/-- Where the version is a text, the numbers decide whether there are settings. -/
theorem load_of_version {version : String}
    (given : environment.value? versionVariable = some (.text version)) :
    load environment =
      number environment retryLimitVariable (2 ^ 32) defaultRetryLimit.toNat >>= fun retryLimit =>
        number environment retryDelayVariable (2 ^ 64) defaultRetryDelay.toNat >>= fun retryDelay =>
          .ok {
            version
            configName := (environment.text? configNameVariable).getD defaultConfigName
            retryLimit := .ofNat retryLimit
            retryDelay := .ofNat retryDelay } := by
  rw [load, given]
  rfl

/-- Settings have a version that is given as text. -/
theorem version_of_load (loaded : load environment = .ok settings) :
    ∃ version, environment.value? versionVariable = some (.text version) := by
  match given : environment.value? versionVariable with
  | some (.text version) => exact ⟨version, rfl⟩
  | some (.raw bytes) =>
    rw [load, given] at loaded
    cases loaded
  | none =>
    rw [load, given] at loaded
    cases loaded

/-- The name is that of its variable, if this is a text. -/
theorem settles_configName_iff {name : String} :
    Settles Eq defaultConfigName (environment.legible? configNameVariable) name ↔
      (environment.text? configNameVariable).getD defaultConfigName = name := by
  rw [Environment.legible?_eq]
  cases environment.text? configNameVariable with
  | none =>
    constructor
    · rintro ⟨⟩
      rfl
    · rintro rfl
      exact .unset
  | some text =>
    constructor
    · rintro ⟨same⟩
      exact same
    · exact fun same => .set same

/-- An environment lays down exactly the settings that follow from those of its variables that are
texts. -/
theorem load_eq_ok_iff :
    load environment = .ok settings ↔ Follows environment.legible? settings := by
  have limit := settles_word (fun _ => UInt32.ofNat_toNat) (fun _ => UInt32.toNat_ofNat_of_lt')
    UInt32.toNat_lt (environment.legible? retryLimitVariable) defaultRetryLimit
  have delay := settles_word (fun _ => UInt64.ofNat_toNat) (fun _ => UInt64.toNat_ofNat_of_lt')
    UInt64.toNat_lt (environment.legible? retryDelayVariable) defaultRetryDelay
  constructor
  · intro loaded
    obtain ⟨version, given⟩ := version_of_load loaded
    rw [load_of_version given, bind_eq_ok_iff] at loaded
    obtain ⟨retryLimit, limited, loaded⟩ := loaded
    obtain ⟨retryDelay, delayed, loaded⟩ := bind_eq_ok_iff.mp loaded
    obtain rfl := Except.ok.inj loaded
    have limited := (number_eq_ok_iff (by positivity)).mp limited
    have delayed := (number_eq_ok_iff (by positivity)).mp delayed
    exact ⟨legible_eq_text_iff.mpr given, settles_configName_iff.mpr rfl,
      (limit _).mp ⟨retryLimit, limited, rfl⟩, (delay _).mp ⟨retryDelay, delayed, rfl⟩⟩
  · rintro ⟨version, configName, retryLimit, retryDelay⟩
    obtain ⟨limited, settled, limit⟩ := (limit _).mpr retryLimit
    obtain ⟨delayed, settles, delay⟩ := (delay _).mpr retryDelay
    have numbered := (number_eq_ok_iff (by positivity)).mpr settled
    have timed := (number_eq_ok_iff (by positivity)).mpr settles
    rw [load_of_version (legible_eq_text_iff.mp version), settles_configName_iff.mp configName]
    refine bind_eq_ok_iff.mpr ⟨limited, numbered, bind_eq_ok_iff.mpr ⟨delayed, timed, ?_⟩⟩
    rw [limit, delay]

/-! ## Taking an environment at its word -/

/-- A variable may be left out, and if it is set, it is a numeral below a bound. -/
def Numeric (bound : Nat) (given : Option EnvValue) : Prop :=
  ∀ value ∈ given, ∃ text number,
    value = .text text ∧ Numeral.Denotes text.toList number ∧ number < bound

/-- The version is given, and everything that is given has a meaning. -/
structure Meaningful (environment : Environment) : Prop where
  version : ∃ text, environment.value? versionVariable = some (.text text)
  configName : ∀ value ∈ environment.value? configNameVariable, ∃ text, value = .text text
  retryLimit : Numeric (2 ^ 32) (environment.value? retryLimitVariable)
  retryDelay : Numeric (2 ^ 64) (environment.value? retryDelayVariable)

/-- An environment is taken at its word: it lays down settings if and only if all that it gives has
a meaning, and then each variable that is set determines its setting, and defaults stand in for
those alone that are not set. -/
structure Honored (environment : Environment) : Prop where
  loads : (∃ settings, load environment = .ok settings) ↔ Meaningful environment
  follows : ∀ settings, load environment = .ok settings → Follows environment.value? settings

/-- A numeral below the bound has a word for its value. -/
theorem numeric_iff {word : Type} {toNat : word → Nat} {ofNat : Nat → word} {bound : Nat}
    (toNat_ofNat : ∀ number < bound, toNat (ofNat number) = number)
    (toNat_lt : ∀ value, toNat value < bound) (given : Option EnvValue) (default : word) :
    Numeric bound given ↔ ∃ setting,
      Settles (fun text value => Numeral.Denotes text.toList (toNat value)) default given
        setting := by
  constructor
  · intro numeric
    cases given with
    | none => exact ⟨default, .unset⟩
    | some value =>
      obtain ⟨text, number, rfl, meant, small⟩ := numeric value rfl
      exact ⟨ofNat number, .set (by rwa [toNat_ofNat number small])⟩
  · rintro ⟨setting, settles⟩ value known
    cases settles with
    | set meant =>
      obtain rfl := Option.some.inj known
      exact ⟨_, _, rfl, meant, toNat_lt setting⟩
    | unset => cases known

/-- All that an environment gives has a meaning if and only if settings follow from it. -/
theorem meaningful_iff :
    Meaningful environment ↔ ∃ settings, Follows environment.value? settings := by
  have limit := numeric_iff (fun _ => UInt32.toNat_ofNat_of_lt') UInt32.toNat_lt
    (environment.value? retryLimitVariable) defaultRetryLimit
  have delay := numeric_iff (fun _ => UInt64.toNat_ofNat_of_lt') UInt64.toNat_lt
    (environment.value? retryDelayVariable) defaultRetryDelay
  constructor
  · rintro ⟨⟨version, given⟩, configName, retryLimit, retryDelay⟩
    obtain ⟨retryLimit, limited⟩ := limit.mp retryLimit
    obtain ⟨retryDelay, delayed⟩ := delay.mp retryDelay
    obtain ⟨name, named⟩ : ∃ name,
        Settles Eq defaultConfigName (environment.value? configNameVariable) name := by
      cases found : environment.value? configNameVariable with
      | none => exact ⟨_, .unset⟩
      | some value =>
        obtain ⟨text, rfl⟩ := configName value found
        exact ⟨text, .set rfl⟩
    exact ⟨⟨version, name, retryLimit, retryDelay⟩, given, named, limited, delayed⟩
  · rintro ⟨settings, version, configName, retryLimit, retryDelay⟩
    refine ⟨⟨_, version⟩, fun value known => ?_, limit.mpr ⟨_, retryLimit⟩,
      delay.mpr ⟨_, retryDelay⟩⟩
    rw [known] at configName
    cases configName with
    | set => exact ⟨_, rfl⟩

/-- An environment is taken at its word unless it lays down settings although a variable is
garbled. -/
theorem honored_iff_not_garbled : Honored environment ↔
    ∀ settings, load environment = .ok settings → ¬ Garbled environment := by
  constructor
  · intro honored settings loaded
    exact (follows_value?_iff.mp (honored.follows settings loaded)).2
  · intro plain
    refine ⟨⟨?_, fun meaningful => ?_⟩, fun settings loaded => ?_⟩
    · rintro ⟨settings, loaded⟩
      exact meaningful_iff.mpr ⟨settings,
        follows_value?_iff.mpr ⟨load_eq_ok_iff.mp loaded, plain settings loaded⟩⟩
    · obtain ⟨settings, follows⟩ := meaningful_iff.mp meaningful
      exact ⟨settings, load_eq_ok_iff.mpr (follows_value?_iff.mp follows).1⟩
    · exact follows_value?_iff.mpr ⟨load_eq_ok_iff.mp loaded, plain settings loaded⟩

/-- **The settings of an environment.** An environment lays down the settings that follow from those
of its variables that are texts, and no others: one that is garbled counts as not set. It is
therefore taken at its word unless it lays down settings although a variable is garbled, for which a
default then silently stands in. -/
theorem load_follows_legible (environment : Environment) :
    (∀ settings, load environment = .ok settings ↔ Follows environment.legible? settings) ∧
      (Honored environment ↔
        ∀ settings, load environment = .ok settings → ¬ Garbled environment) :=
  ⟨fun _ => load_eq_ok_iff, honored_iff_not_garbled⟩

/-- A retry limit that is a five and a stray byte is replaced by the default. -/
theorem not_honored_of_garbled_limit :
    let environment : Environment :=
      [(versionVariable, .text "4.1.0"), (retryLimitVariable, .raw [53, 255])]
    load environment = .ok ⟨"4.1.0", "cluster", 3, 5⟩ ∧ ¬ Meaningful environment ∧
      ¬ Honored environment := by
  intro environment
  have loaded : load environment = .ok ⟨"4.1.0", "cluster", 3, 5⟩ := rfl
  have garbled : Garbled environment :=
    ⟨retryLimitVariable, by simp, [53, 255], rfl⟩
  have dishonored : ¬ Honored environment := fun honored =>
    (load_follows_legible environment).2.mp honored _ loaded garbled
  refine ⟨loaded, fun meaningful => ?_, dishonored⟩
  obtain ⟨settings, follows⟩ := meaningful_iff.mp meaningful
  exact (follows_value?_iff.mp follows).2 garbled

end Settings

end PullSecretSync
