import PullSecretSync.Config.Basic

/-!
# Tracking conditions

Conditions are found by their type, of which the first counts. Setting one stamps its update time;
its transition time moves only with its status. A report of an error that is already on record
leaves everything as it is.
-/

namespace PullSecretSync

namespace Condition

/-- A condition after it was set again. -/
def renew (condition : Condition) (now : Instant) (status : ConditionStatus) (message : String) :
    Condition :=
  { condition with
    status
    message
    lastUpdate := some now
    lastTransition := if condition.status = status then condition.lastTransition else some now }

/-- Set the first condition of a type, or add one at the end. -/
def setIn (now : Instant) (type : String) (status : ConditionStatus) (message : String) :
    List Condition → List Condition
  | [] => [⟨type, status, some now, some now, message⟩]
  | condition :: rest =>
    if condition.type = type then condition.renew now status message :: rest
    else condition :: setIn now type status message rest

end Condition

namespace Config

/-- The type of the condition that tells whether the replica holds the credential. -/
def credentialType : String := "ImportCredentialsExist"

/-- The conditions on record. -/
def conditions (config : Config) : List Condition := (config.status.getD {}).conditions

/-- The first condition of a type; an unset one if there is none. -/
def condition (config : Config) (type : String) : Condition :=
  (config.conditions.find? (·.type = type)).getD (.unset type)

/-- Whether the condition of a type holds. -/
def conditionHolds (config : Config) (type : String) : Bool :=
  (config.condition type).status = .holds

/-- Set the condition of a type. -/
def setCondition (config : Config) (now : Instant) (type : String) (status : ConditionStatus)
    (message : String) : Config :=
  let current := config.status.getD {}
  { config with
    status := some { current with
      conditions := Condition.setIn now type status message current.conditions } }

/-- Set a condition after a success. The message is cleared, so that a later error is reported in
any case. -/
def settle (config : Config) (now : Instant) (type : String) (status : ConditionStatus) : Config :=
  config.setCondition now type status ""

/-- Put an error on record, unless the same one is there already. -/
def reportError (config : Config) (now : Instant) (type : String) (status : ConditionStatus)
    (message : String) : Config :=
  let current := config.condition type
  if current.status = status ∧ current.message = message then config
  else config.setCondition now type status message

end Config

end PullSecretSync
