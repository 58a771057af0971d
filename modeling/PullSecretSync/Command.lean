import PullSecretSync.Config.Definition
import PullSecretSync.Settings
import PullSecretSync.Yaml

/-!
# Commands

What can be asked of the program: to print the definition of the configuration's kind, or to load
the settings that a run is based on.
-/

namespace PullSecretSync

/-- A command. -/
inductive Command where
  | printDefinition
  | loadSettings
  deriving DecidableEq, Repr

/-- What a command leaves behind. -/
structure CommandResult where
  exitCode : UInt8
  output : String
  errors : String
  deriving DecidableEq, Repr

namespace Command

/-- The text of a refusal: its message, and below it what caused it. -/
def refusalText : List String → String
  | [] => ""
  | [message] => "Error: " ++ message ++ "\n"
  | message :: causes =>
    "Error: " ++ message ++ "\n\nCaused by:\n" ++
      String.join (causes.map fun cause => "    " ++ cause ++ "\n")

/-- Carry out a command in an environment. -/
def run (environment : Environment) : Command → CommandResult
  | .printDefinition => ⟨0, Yaml.print Config.definition, ""⟩
  | .loadSettings =>
    match Settings.load environment with
    | .ok _ => ⟨0, "", ""⟩
    | .error error => ⟨1, "", refusalText (Settings.errorChain error)⟩

/-- The command that some arguments name. -/
def ofArguments : List String → Command
  | ["crd"] => .printDefinition
  | _ => .loadSettings

end Command

end PullSecretSync
