import PullSecretSync.Api.Store
import PullSecretSync.Api.Watch

/-!
# Watching the two secrets

The slots of the pull secret and its replica are watched, each in the collection of its namespace.
What the watches tell is handed on as events.
-/

namespace PullSecretSync

/-- The collection in which a slot is watched. -/
def Slot.watched (slot : Slot) : Watched := ⟨secretsPath slot.space, slot.name⟩

namespace Watching

/-- The entry that is made when the watches start. -/
def started : LogEntry :=
  ⟨.info, "Watching secrets " ++ Slot.source.path ++ " and " ++ Slot.replica.path⟩

/-- The entry that is made when an event is handed on. -/
def forwarded (event : SecretEvent) : LogEntry :=
  ⟨.debug, "Secret " ++ event.secret.path ++ " changed, deleted: " ++ toString event.deleted⟩

/-- The entry that is made when a watch fails. -/
def failed (error : WatchError) : LogEntry :=
  ⟨.warning, "Secret watch error: " ++ error.message⟩

end Watching

end PullSecretSync
