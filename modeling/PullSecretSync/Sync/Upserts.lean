/-!
# Upserts in flight

Counters of running upserts. A counter can be cloned, and a counter and its clones share one
count; a guard stands for one running upsert and is counted until it is dropped.
-/

namespace PullSecretSync

/-- Counters, guards and the counts that they share. -/
structure Upserts where
  /-- The counts; they wrap around like machine words. -/
  counts : List UInt64 := []
  /-- The place of every counter's count. -/
  counters : List Nat := []
  /-- The place of every guard's count; nothing once it is dropped. -/
  guards : List (Option Nat) := []
  deriving DecidableEq, Repr

namespace Upserts

/-- A fresh counter with a count of its own. -/
def create (upserts : Upserts) : Upserts :=
  { upserts with
    counts := upserts.counts ++ [0]
    counters := upserts.counters ++ [upserts.counts.length] }

/-- A single fresh counter. -/
def single : Upserts := create {}

/-- A clone of a counter. -/
def clone (upserts : Upserts) (counter : Nat) : Upserts :=
  match upserts.counters[counter]? with
  | some place => { upserts with counters := upserts.counters ++ [place] }
  | none => upserts

/-- Start an upsert on a counter; it is counted by a new guard. -/
def start (upserts : Upserts) (counter : Nat) : Upserts :=
  match upserts.counters[counter]? with
  | some place =>
    { upserts with
      counts := upserts.counts.modify place (· + 1)
      guards := upserts.guards ++ [some place] }
  | none => upserts

/-- Drop a guard. Nothing happens when it was dropped before. -/
def drop (upserts : Upserts) (guard : Nat) : Upserts :=
  match upserts.guards[guard]? with
  | some (some place) =>
    { upserts with
      counts := upserts.counts.modify place (· - 1)
      guards := upserts.guards.set guard none }
  | _ => upserts

/-- The number of upserts in flight that a counter tells. -/
def inFlight (upserts : Upserts) (counter : Nat) : UInt64 :=
  (upserts.counters[counter]?.bind fun place => upserts.counts[place]?).getD 0

end Upserts

end PullSecretSync
