import Switchboard.Backoff
import Switchboard.Feed
import Switchboard.Service
import Switchboard.Tally
/-!
# The watch loop

A watcher keeps a feed in step with a discovery backend by asking over and over, each time
naming the index of the last answer it trusts. An answer is accepted only if its index is above
the one that was sent; all others leave the feed alone, except that the first failure after good
news is published.

* `Verdict` — what an answer is worth, given the index that was sent.
* `Watcher` — the loop: its feed, the index for the next query, its backoff, where it stands,
  and whether it was told to stop.
* `Watcher.begin` — the loop after the initial query.
* `Watcher.receive` — the loop takes an answer.
* `Watcher.send`, `wake`, `stop`, `quit` — the other steps of the loop.

A loop that was told to stop may end at its next turn, but if an answer is ready at the same
time, either may be taken; which one is up to whoever drives the loop.
-/

namespace Switchboard

/-- What an answer is worth. -/
inductive Verdict
  | failed
  | unindexed
  | regressed
  | unchanged
  | accepted
  deriving DecidableEq, Repr, Inhabited

namespace Verdict

/-- The verdict on an answer to a query that sent an index. -/
def on (sent : Nat) : Answer → Verdict
  | .failed _ => .failed
  | .found _ index =>
    if index = noIndex then .unindexed
    else if index < sent then .regressed
    else if index = sent then .unchanged
    else .accepted

/-- What the verdict counts as; `news` tells whether an accepted answer changed the feed. -/
def tally (v : Verdict) (news : Bool) : Tally :=
  match v with
  | .failed => { discoveryErrors := 1 }
  | .unindexed | .regressed | .unchanged => { discoveryAnomalies := 1 }
  | .accepted => { discoveryUpdates := if news then 1 else 0 }

/-- The index to send next, after the verdict on an answer with an index. -/
def nextIndex (sent index : Nat) : Verdict → Nat
  | .accepted => index
  | .failed | .regressed => noIndex
  | .unindexed | .unchanged => sent

end Verdict

namespace Answer

def index : Answer → Nat
  | .found _ index => index
  | .failed _ => noIndex

def snapshot : Answer → Snapshot
  | .found instances _ => .ofAddresses instances
  | .failed why => .failure why

end Answer

/-- Where the loop stands. -/
inductive Phase
  | asking
  | waiting
  /-- Sleeping until a moment, in milliseconds. -/
  | pausing (wakeAt : Nat)
  | ended
  deriving DecidableEq, Repr, Inhabited

/-- The watch loop of one service. -/
structure Watcher where
  query : ServiceQuery
  feed : Feed
  /-- The index to send with the next query. -/
  last : Nat
  /-- The delays after answers that were not accepted. -/
  pace : Backoff
  phase : Phase
  stopped : Bool
  tally : Tally
  deriving DecidableEq, Repr, Inhabited

namespace Watcher

/-- The loop after its initial query: the feed is seeded, and the first query is due. A failed
initial query counts as an error; a good one does not count as an update. -/
def begin (query : ServiceQuery) (pace : Backoff) (initial : Answer) : Watcher where
  query
  feed := (Feed.empty.publish (fun _ => false) initial.snapshot).1
  last := initial.index
  pace
  phase := .asking
  stopped := false
  tally :=
    match initial with
    | .found .. => {}
    | .failed _ => { discoveryErrors := 1 }

/-- The snapshot that an answer publishes: addresses if it is accepted, a failure if none is
known yet. -/
def published (w : Watcher) (a : Answer) : Option Snapshot :=
  match Verdict.on w.last a with
  | .accepted => some a.snapshot
  | .failed => if w.feed.state.isFailure then none else some a.snapshot
  | .unindexed | .regressed | .unchanged => none

/-- The loop takes an answer at a moment. After an accepted one it asks again at once, after any
other it sleeps for the next delay of its backoff. -/
def receive (w : Watcher) (now : Nat) (j : Jitter) (reachable : String → Bool) (a : Answer) :
    Watcher × List Delivery :=
  let verdict := Verdict.on w.last a
  let out :=
    match w.published a with
    | some s => w.feed.publish reachable s
    | none => (w.feed, [])
  let news := (w.published a).any w.feed.isNews
  let w' := { w with
    feed := out.1
    last := verdict.nextIndex w.last a.index
    tally := w.tally + verdict.tally news }
  match verdict with
  | .accepted => ({ w' with pace := w.pace.reset, phase := .asking }, out.2)
  | _ =>
    let (delay, pace) := w.pace.draw j
    ({ w' with pace, phase := .pausing (now + delay.ticks) }, out.2)

/-- The loop sends its next query. -/
def send (w : Watcher) : Watcher := { w with phase := .waiting }

def wake (w : Watcher) : Watcher := { w with phase := .asking }

def stop (w : Watcher) : Watcher := { w with stopped := true }

def quit (w : Watcher) : Watcher := { w with phase := .ended }

def isFinished (w : Watcher) : Bool := w.phase = .ended

/-- A new subscriber of the feed. -/
def subscribe (w : Watcher) (mailbox : String) : Watcher × Delivery :=
  let (feed, d) := w.feed.subscribe mailbox
  ({ w with feed }, d)

def unsubscribe (w : Watcher) (id : Nat) : Watcher := { w with feed := w.feed.unsubscribe id }

end Watcher

end Switchboard
