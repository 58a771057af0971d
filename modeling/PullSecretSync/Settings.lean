import PullSecretSync.Text.Numeral
import PullSecretSync.Text.Quoted

/-!
# Settings

What the environment of the process lays down: the version to stamp, the configuration to follow,
and how often and how late a deferred event is tried again.
-/

namespace PullSecretSync

/-- The value of an environment variable: text, or bytes that are no text. -/
inductive EnvValue where
  | text (value : String)
  | raw (bytes : List UInt8)
  deriving DecidableEq, Repr

/-- The value that some bytes are. -/
def EnvValue.ofBytes (bytes : List UInt8) : EnvValue :=
  match Text.ofBytes? bytes with
  | some value => .text value
  | none => .raw bytes

/-- The environment variables that are set. -/
abbrev Environment := List (String × EnvValue)

/-- The value of a variable. -/
def Environment.value? (environment : Environment) (name : String) : Option EnvValue :=
  (environment.find? (·.1 = name)).map (·.2)

/-- The text of a variable that is set to text. -/
def Environment.text? (environment : Environment) (name : String) : Option String :=
  match environment.value? name with
  | some (.text value) => some value
  | _ => none

/-- What the environment lays down. -/
structure Settings where
  /-- The version that is stamped on the replica. -/
  version : String
  /-- The name of the configuration. -/
  configName : String
  /-- How often an unconfirmed deletion of the replica is deferred. -/
  retryLimit : UInt32
  /-- The seconds until a deferred event is delivered again. -/
  retryDelay : UInt64
  deriving DecidableEq, Repr

/-- Why an environment lays down no settings. -/
inductive SettingsError where
  | versionUnset
  | versionNotText (bytes : List UInt8)
  | numeral (name : String) (value : String) (error : NumeralError)
  deriving DecidableEq, Repr

namespace Settings

/-- The variable of the version. -/
def versionVariable : String := "RELEASE_VERSION"

/-- The variable of the configuration's name. -/
def configNameVariable : String := "SAMPLES_CONFIG_NAME"

/-- The variable of the retry limit. -/
def retryLimitVariable : String := "SECRET_RETRY_LIMIT"

/-- The variable of the retry delay. -/
def retryDelayVariable : String := "RETRY_DELAY_SECS"

/-- The name of the configuration where none is given. -/
def defaultConfigName : String := "cluster"

/-- The retry limit where none is given. -/
def defaultRetryLimit : UInt32 := 3

/-- The retry delay where none is given. -/
def defaultRetryDelay : UInt64 := 5

/-- The messages of a refusal, from the outermost to its cause. -/
def errorChain : SettingsError → List String
  | .versionUnset =>
    [versionVariable ++ " environment variable not set", "environment variable not found"]
  | .versionNotText bytes =>
    [versionVariable ++ " environment variable not set",
      "environment variable was not valid unicode: " ++ Text.quotedBytes bytes]
  | .numeral name value error => ["invalid " ++ name ++ ": " ++ value, error.message]

/-- The number that a variable is set to; a default if it is not set to text. -/
def number (environment : Environment) (name : String) (bound default : Nat) :
    Except SettingsError Nat :=
  match environment.text? name with
  | none => .ok default
  | some value => (Numeral.read bound value.toList).mapError (.numeral name value)

/-- The settings that an environment lays down. -/
def load (environment : Environment) : Except SettingsError Settings := do
  let version ← match environment.value? versionVariable with
    | some (.text value) => pure value
    | some (.raw bytes) => throw (.versionNotText bytes)
    | none => throw .versionUnset
  let retryLimit ← number environment retryLimitVariable (Nat.pow 2 32) defaultRetryLimit.toNat
  let retryDelay ← number environment retryDelayVariable (Nat.pow 2 64) defaultRetryDelay.toNat
  return {
    version
    configName := (environment.text? configNameVariable).getD defaultConfigName
    retryLimit := retryLimit.toUInt32
    retryDelay := retryDelay.toUInt64 }

end Settings

end PullSecretSync
