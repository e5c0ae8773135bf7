import Switchboard.Supply
import Switchboard.Retry
import Switchboard.Rotation
/-!
# Values for inspection

The outlines of the parts of a pipeline, as they are shown to someone who looks into a running
program. A duration is shown by its text, a policy keeps its parts to itself, and of a pool only
the number of endpoints is shown, not the endpoints.
-/

namespace Switchboard

open Text (Outline)

def Duration.outline (d : Duration) : Outline := .atom d.text

def Backoff.outline (b : Backoff) : Outline :=
  .record "Backoff"
    [("floor", b.floor.outline), ("cap", b.cap.outline), ("current", b.current.outline)]

/-- A policy, whose parts do not show. -/
def Policy.outline : Outline := .hidden "RetryPolicy"

def Retry.outline (r : Retry) : Outline :=
  .record "Retry"
    [("timeout", r.timeout.outline), ("policy", Policy.outline), ("backoff", r.backoff.outline)]

/-- The grace period of a pool; without one it is shown as none at all. -/
def Pool.graceOutline (p : Pool) : Outline :=
  .record "EndpointerOptions"
    [("invalidate_on_error", .ofBool p.grace.isSome),
      ("invalidate_timeout", (p.grace.getD .zero).outline)]

/-- A pool, of whose endpoints only the number shows. -/
def Pool.outline (p : Pool) : Outline :=
  .record "EndpointCache"
    [("options", p.graceOutline), ("endpoints", .ofNat p.served.length),
      ("err", .ofOption (p.pending.map DiscoveryFailure.outline)),
      ("closed", .ofBool p.closed)]

def Supply.outline (s : Supply) : Outline :=
  .record "DefaultEndpointer"
    [("id", .tuple "SubscriberId" [.ofNat s.subscriber]), ("cache", s.pool.outline)]

/-- A fixed number of endpoints. -/
def fixedOutline (endpoints : Nat) : Outline := .tuple "FixedEndpointer" [.ofNat endpoints]

/-- A round-robin balancer over a source. -/
def Rotation.outline (r : Rotation) (source : Outline) : Outline :=
  .record "RoundRobin" [("endpointer", source), ("counter", .ofNat r.tick)]

end Switchboard
