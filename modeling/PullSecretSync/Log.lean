/-!
# Log entries
-/

namespace PullSecretSync

/-- How much an entry matters. -/
inductive Severity where
  | error
  | warning
  | info
  | debug
  deriving DecidableEq, Repr

/-- An entry of the log. -/
structure LogEntry where
  severity : Severity
  text : String
  deriving DecidableEq, Repr

end PullSecretSync
