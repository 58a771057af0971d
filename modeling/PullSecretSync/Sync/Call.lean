import PullSecretSync.Config.Basic
import PullSecretSync.Interaction
import PullSecretSync.Log
import PullSecretSync.SyncError

/-!
# What the synchronisation asks for

The synchronisation asks its surroundings for secrets, for the configuration, and for the writing
of its status; it also leaves entries in the log. Every question has a type of answers.
-/

namespace PullSecretSync

/-- A question to the store of secrets. -/
inductive StoreCall where
  | get (slot : Slot)
  | create (space : String) (secret : Secret)
  | update (space : String) (secret : Secret)
  | delete (slot : Slot)

/-- The answers of the store. A `get` may also answer that there is nothing to tell. -/
abbrev StoreCall.Answer : StoreCall → Type
  | .get _ => Except SyncError (Option Secret)
  | .create _ _ => Except SyncError Secret
  | .update _ _ => Except SyncError Secret
  | .delete _ => Except SyncError Unit

/-- A question of the synchronisation. -/
inductive Call where
  | store (call : StoreCall)
  /-- Write the status of a configuration to the cluster. -/
  | writeStatus (config : Config)
  /-- Read the configuration of a name, if it exists. -/
  | readConfig (name : String)
  /-- Read the secret in a slot, if it exists. -/
  | readSecret (slot : Slot)
  | note (entry : LogEntry)

/-- The answers to a question. -/
abbrev Call.Answer : Call → Type
  | .store call => call.Answer
  | .writeStatus _ => Except SyncError Unit
  | .readConfig _ => Except ApiError (Option Config)
  | .readSecret _ => Except ApiError (Option Secret)
  | .note _ => Unit

/-- A computation of the synchronisation. -/
abbrev Sync := Interaction Call Call.Answer

namespace Sync

/-- Ask the store. -/
def store (call : StoreCall) : Sync call.Answer := Interaction.query (Call.store call)

/-- Write a status. -/
def writeStatus (config : Config) : Sync (Except SyncError Unit) :=
  Interaction.query (Call.writeStatus config)

/-- Read a configuration. -/
def readConfig (name : String) : Sync (Except ApiError (Option Config)) :=
  Interaction.query (Call.readConfig name)

/-- Read a secret. -/
def readSecret (slot : Slot) : Sync (Except ApiError (Option Secret)) :=
  Interaction.query (Call.readSecret slot)

/-- Leave an entry in the log. -/
def note (severity : Severity) (text : String) : Sync Unit :=
  Interaction.query (Call.note ⟨severity, text⟩)

end Sync

end PullSecretSync
