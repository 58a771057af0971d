import PullSecretSync.Command

/-!
# The command line
-/

namespace PullSecretSync

/-- The variables of the process that settings are read from. -/
def processEnvironment : IO Environment := do
  let names := [Settings.versionVariable, Settings.configNameVariable,
    Settings.retryLimitVariable, Settings.retryDelayVariable]
  let found ← names.mapM fun name => do
    return (← IO.getEnv name).map fun value => (name, EnvValue.text value)
  return found.filterMap id

end PullSecretSync

open PullSecretSync in
/-- Carry out the command that the arguments name. -/
def main (arguments : List String) : IO UInt32 := do
  let result := (Command.ofArguments arguments).run (← processEnvironment)
  IO.print result.output
  IO.eprint result.errors
  return result.exitCode.toUInt32
