import PullSecretSync.Api.Discovery

/-!
# Waiting for the configuration's kind

Whether the server serves the configuration is checked until it does. The time between two checks
doubles from a first interval up to a longest one; a check that fails counts as one that found
nothing. A wait takes one step for every check and stands still when it is over.
-/

namespace PullSecretSync

namespace Await

/-- The seconds after the first check. -/
def firstInterval : UInt64 := 10

/-- The most seconds between two checks. -/
def longestInterval : UInt64 := 60

/-- The interval after an interval. -/
def nextInterval (interval : UInt64) : UInt64 := min (interval * 2) longestInterval

/-- What a check brought. -/
inductive Finding where
  | available
  | missing
  | failed (error : ApiError)
  deriving DecidableEq, Repr

/-- The entry on a finding; an interval follows unless the kind is available. -/
def Finding.entry (finding : Finding) (interval : UInt64) : LogEntry :=
  let kind := "Config CRD (" ++ Config.group ++ "/v1)"
  let seconds := toString interval.toNat ++ " seconds..."
  match finding with
  | .available => ⟨.info, kind ++ " is available"⟩
  | .missing => ⟨.info, kind ++ " not yet available, waiting " ++ seconds⟩
  | .failed error =>
    ⟨.warning, "Error checking for Config CRD: " ++ "Kubernetes API error: " ++ error.message ++
      ", retrying in " ++ seconds⟩

/-- The interval to wait after a finding and the one after that; none when the wait is over. -/
def Finding.wait? (finding : Finding) (interval : UInt64) : Option (UInt64 × UInt64) :=
  match finding with
  | .available => none
  | _ => some (interval, nextInterval interval)

end Await

/-- A wait for the configuration's kind. -/
inductive Await where
  /-- The next check is due at a time, in seconds since the first one. An interval follows it unless
  it ends the wait. -/
  | pending (time : Nat) (interval : UInt64)
  /-- The wait came to its result at a time. -/
  | over (time : Nat) (result : Except ApiError Unit)

namespace Await

/-- The wait before its first check. -/
def start : Await := .pending 0 firstInterval

/-- How a wait stands after a finding. -/
def meet : Await → Finding → Await
  | .pending time interval, finding =>
    match finding.wait? interval with
    | none => .over time (.ok ())
    | some (pause, next) => .pending (time + pause.toNat) next
  | wait, _ => wait

end Await

namespace Http

/-- Check once whether the kind is available. -/
def checkOnce (interval : UInt64) : Http Await.Finding := do
  let finding := match ← servesConfig with
    | .ok true => Await.Finding.available
    | .ok false => .missing
    | .error error => .failed error
  let entry := finding.entry interval
  note entry.severity entry.text
  return finding

end Http

/-- Make the check that is due. None is due when the wait is over. -/
def Await.step (wait : Await) : Http Await :=
  match wait with
  | .pending _ interval => do return wait.meet (← Http.checkOnce interval)
  | .over _ _ => return wait

end PullSecretSync
