import PullSecretSync.Api.Status
import PullSecretSync.Api.Store

/-!
# The synchronisation in the cluster

Every question of the synchronisation is answered by the API.
-/

namespace PullSecretSync

namespace Http

/-- Answer a question of the synchronisation. -/
def answer : (call : Call) → Http call.Answer
  | .store call => store call
  | .writeStatus config => writeStatus config
  | .readConfig name => get? Config.decoder configsPath name
  | .readSecret slot => get? Secret.decoder (secretsPath slot.space) slot.name
  | .note entry => note entry.severity entry.text

/-- Run a computation of the synchronisation against the API. -/
def ofSync {α : Type} (computation : Sync α) : Http α := computation.answeredBy answer

end Http

end PullSecretSync
