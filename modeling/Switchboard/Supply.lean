import Switchboard.Feed
import Switchboard.Pool
/-!
# Supplying a pool from a feed

A supply subscribes a pool to a feed. The feed's current snapshot is applied when it is set up,
later ones are applied one by one, in order, by a task in the background. Closing it unsubscribes
it, ends the task and drops every entry of the pool; snapshots that still wait are never applied.

* `Supply` — the pool, its subscription, and where the task stands.
* `Supply.open_` — the subscription, with the current snapshot applied.
* `Supply.turn` — one turn of the task.
* `Supply.close` — the end; a second one does nothing.
-/

namespace Switchboard

/-- A pool with its subscription to a feed. -/
structure Supply where
  pool : Pool
  subscriber : Nat
  /-- Was the task told to end? -/
  closing : Bool := false
  finished : Bool := false
  deriving DecidableEq, Repr, Inhabited

namespace Supply

def mailbox : String := "supply"

/-- Subscribes a pool to a feed at a moment; the current snapshot is applied at once. -/
def open_ (pool : Pool) (build : String → Build) (now : Nat) (feed : Feed) :
    Supply × Feed × List PoolEvent :=
  let (feed, d) := feed.subscribe mailbox
  let (pool, events) := pool.update build now d.snapshot
  ({ pool, subscriber := d.subscriber }, feed, events)

/-- The task applies one snapshot. -/
def apply (s : Supply) (build : String → Build) (now : Nat) (snapshot : Snapshot) :
    Supply × List PoolEvent :=
  let (pool, events) := s.pool.update build now snapshot
  ({ s with pool }, events)

def applyAll (s : Supply) (build : String → Build) (now : Nat) :
    List Snapshot → Supply × List PoolEvent
  | [] => (s, [])
  | snapshot :: rest =>
    let (s, events) := s.apply build now snapshot
    let (s, more) := s.applyAll build now rest
    (s, events ++ more)

/-- One turn of the task with the snapshots that wait: it ends if it was told to, else it applies
the oldest. Says which snapshots wait on. -/
def turn (s : Supply) (build : String → Build) (now : Nat) (waiting : List Snapshot) :
    Supply × List Snapshot × List PoolEvent :=
  if s.finished then (s, waiting, [])
  else if s.closing then ({ s with finished := true }, [], [])
  else
    match waiting with
    | [] => (s, [], [])
    | snapshot :: rest =>
      let (s, events) := s.apply build now snapshot
      (s, rest, events)

/-- The task runs until it has nothing left to do. -/
def run (s : Supply) (build : String → Build) (now : Nat) (waiting : List Snapshot) :
    Supply × List PoolEvent :=
  if s.finished then (s, [])
  else if s.closing then ({ s with finished := true }, [])
  else s.applyAll build now waiting

/-- The task is told to end and the pool is closed. -/
def close (s : Supply) : Supply × List PoolEvent :=
  let (pool, events) := s.pool.close
  ({ s with pool, closing := true }, events)

end Supply

end Switchboard
