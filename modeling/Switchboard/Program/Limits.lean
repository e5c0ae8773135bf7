import Switchboard.Duration
/-!
# What the program cannot bear

Some settings are accepted and still break the program down when it gets to use them: no worker
threads, calls without any time between them, and moments that the clock of the system cannot name.

* `Breakdown` — the ways to break down, with `Breakdown.message`.
* `pastClock` — can a clock not name the moment after a duration?
* `breakdownOfWorkers` — what breaks down before anything starts.
* `breakdownOfOpening`, `breakdownOfCall` — what breaks down as calls are prepared, and as one
  begins.
-/

namespace Switchboard.Program

/-- A way for the program to break down. -/
inductive Breakdown
  | noWorkers
  | noInterval
  /-- The clock cannot name the deadline of a call. -/
  | noDeadline
  /-- The clock cannot name the end of the time that endpoints outlive a failure. -/
  | noGraceEnd
  deriving DecidableEq, Repr, Inhabited

def Breakdown.message : Breakdown → String
  | .noWorkers => "Worker threads cannot be set to 0"
  | .noInterval => "`period` must be non-zero."
  | .noDeadline | .noGraceEnd => "overflow when adding duration to instant"

/-- The first moment that the clock of the system cannot name, in nanoseconds: it has 63 bits for
seconds. -/
def clockEnd : Nat := 9223372036854775808 * Duration.perSecond

/-- Can a clock that reads so many nanoseconds not name the moment after a duration? -/
def pastClock (reading : Nat) (d : Duration) : Bool := clockEnd ≤ reading + d.nanos

/-- What breaks down before anything starts. -/
def breakdownOfWorkers (threads : Option Nat) : Option Breakdown :=
  if threads = some 0 then some .noWorkers else none

/-- What breaks down as a call begins that has so much time. -/
def breakdownOfCall (reading : Nat) (timeout : Duration) : Option Breakdown :=
  if pastClock reading timeout then some .noDeadline else none

/-- What breaks down as calls are prepared: endpoints are opened, `failing` if discovery fails
already; then there is the interval, and at once the first call. -/
def breakdownOfOpening (reading : Nat) (failing : Bool) (grace : Option Duration)
    (intervalMillis : Nat) (timeout : Duration) : Option Breakdown :=
  if failing && grace.any (pastClock reading) then some .noGraceEnd
  else if intervalMillis = 0 then some .noInterval
  else breakdownOfCall reading timeout

end Switchboard.Program
