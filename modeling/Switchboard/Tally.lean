/-!
# Counters

What the program counts while it runs, one counter per kind of event. `Tally.moved` lists the
counters that moved, by name.
-/

namespace Switchboard

/-- The counters. -/
structure Tally where
  /-- Snapshots that the watch loop published as news. -/
  discoveryUpdates : Nat := 0
  discoveryErrors : Nat := 0
  /-- Answers with a missing, lower or repeated index. -/
  discoveryAnomalies : Nat := 0
  endpointBuilds : Nat := 0
  endpointBuildFailures : Nat := 0
  endpointReleases : Nat := 0
  retryAttempts : Nat := 0
  retrySuccess : Nat := 0
  retryExhausted : Nat := 0
  retryDeadline : Nat := 0
  retryCancelled : Nat := 0
  deriving DecidableEq, Repr, Inhabited

namespace Tally

/-- Counter by counter, the sum. -/
def add (a b : Tally) : Tally where
  discoveryUpdates := a.discoveryUpdates + b.discoveryUpdates
  discoveryErrors := a.discoveryErrors + b.discoveryErrors
  discoveryAnomalies := a.discoveryAnomalies + b.discoveryAnomalies
  endpointBuilds := a.endpointBuilds + b.endpointBuilds
  endpointBuildFailures := a.endpointBuildFailures + b.endpointBuildFailures
  endpointReleases := a.endpointReleases + b.endpointReleases
  retryAttempts := a.retryAttempts + b.retryAttempts
  retrySuccess := a.retrySuccess + b.retrySuccess
  retryExhausted := a.retryExhausted + b.retryExhausted
  retryDeadline := a.retryDeadline + b.retryDeadline
  retryCancelled := a.retryCancelled + b.retryCancelled

instance : Add Tally := ⟨add⟩

def named (t : Tally) : List (String × Nat) :=
  [("discovery_updates", t.discoveryUpdates), ("discovery_errors", t.discoveryErrors),
    ("discovery_anomalies", t.discoveryAnomalies), ("endpoint_builds", t.endpointBuilds),
    ("endpoint_build_failures", t.endpointBuildFailures),
    ("endpoint_releases", t.endpointReleases), ("retry_attempts", t.retryAttempts),
    ("retry_success", t.retrySuccess), ("retry_exhausted", t.retryExhausted),
    ("retry_deadline", t.retryDeadline), ("retry_cancelled", t.retryCancelled)]

def moved (t : Tally) : List (String × Nat) := t.named.filter fun p => p.2 != 0

end Tally

end Switchboard
