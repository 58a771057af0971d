import PullSecretSync.Api.Client
import PullSecretSync.Config.Codec
import PullSecretSync.Sync.Call

/-!
# Writing the status

A status is written as a merge patch. The patch names the version at which the configuration was
read, so that a write based on an outdated copy is refused as a conflict.
-/

namespace PullSecretSync

/-- The path of the configurations. -/
def configsPath : String := "/apis/" ++ Config.group ++ "/" ++ Config.version ++ "/" ++ Config.plural

/-- The merge patch that writes the status of a configuration. -/
def Config.statusPatch (config : Config) : Json :=
  .obj (Json.optional "metadata"
      (config.resourceVersion.map fun version => .obj [("resourceVersion", .str version)]) ++
    [("status", (config.status.map ConfigStatus.encode).getD .null)])

namespace Http

/-- Write the status of a configuration. -/
def writeStatus (config : Config) : Http (Except SyncError Unit) := do
  let name := config.displayName
  match ← patchStatus Config.decoder configsPath name config.statusPatch with
  | .ok _ =>
    note .debug ("Status of config " ++ name ++ " updated")
    return .ok ()
  | .error (.refused fault) =>
    if fault.code = 409 then return .error (.conflict name)
    else return .error (.api (.refused fault))
  | .error error => return .error (.api error)

end Http

end PullSecretSync
