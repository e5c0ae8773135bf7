import Switchboard.Backend
import Switchboard.Clockwork
import Switchboard.Watcher
/-!
# A watcher at work

The watch loop together with its backend, the query that is out, and a clock of whole
milliseconds. A run is driven by turns. At any moment there is a list of turns that can be
taken, each does one thing, and whoever drives the run chooses; time passes between turns.

* `WatchRun` — watcher, backend, inquiry, mailboxes and clock.
* `WatchRun.start`, `WatchRun.begin?` — a run that begins.
* `WatchRun.turns`, `WatchRun.take` — what can happen now, and what happens then.
* `WatchRun.settle` — turns are taken until none is left.
* `WatchRun.advance` — the clock goes on, stopping at every timer on the way.
-/

namespace Switchboard

/-- A watcher with its backend and the time. -/
structure WatchRun where
  /-- The time in milliseconds. -/
  now : Nat
  backend : Backend
  watcher : Watcher
  inquiry : Option Inquiry
  mailboxes : Mailboxes
  /-- The queries that came in: when, and with which index. -/
  asked : List (Nat × Nat)
  deriving Inhabited

/-- What can happen next in a run. -/
inductive Turn
  | send
  | query (t : QueryTurn)
  | receive
  | wake
  | quit
  deriving DecidableEq, Repr, Inhabited

namespace WatchRun

def query (r : WatchRun) : ServiceQuery := r.watcher.query

/-- The turns that the query that is out, or its reply, makes possible. -/
def queryTurns (r : WatchRun) : List Turn :=
  match r.inquiry with
  | none => []
  | some i =>
    (i.turns r.now r.backend.revision).map .query
      ++ (if (i.ready? r.now).isSome then [.receive] else [])

/-- The turns that can be taken now. A loop that was told to stop can always end instead of
waiting or sleeping on. -/
def turns (r : WatchRun) : List Turn :=
  match r.watcher.phase with
  | .asking => [.send]
  | .waiting => (if r.watcher.stopped then [.quit] else []) ++ r.queryTurns
  | .pausing wakeAt =>
    (if r.watcher.stopped then [.quit] else []) ++ (if wakeAt ≤ r.now then [.wake] else [])
  | .ended => []

/-- What a turn does; `j` is the factor of the next delay, should one be drawn. -/
def take (r : WatchRun) (j : Jitter) : Turn → WatchRun
  | .send => { r with watcher := r.watcher.send, inquiry := some .sent }
  | .query t =>
    match r.inquiry with
    | none => r
    | some i =>
      let (backend, inquiry) := r.backend.progress r.query r.now r.watcher.last i t
      { r with
        backend, inquiry := some inquiry
        asked := if t = .arrive then r.asked ++ [(r.now, r.watcher.last)] else r.asked }
  | .receive =>
    match r.inquiry.bind (·.ready? r.now) with
    | none => r
    | some reply =>
      let (watcher, ds) := r.watcher.receive r.now j r.mailboxes.reaches reply.toAnswer
      { r with watcher, inquiry := none, mailboxes := r.mailboxes.postAll ds }
  | .wake => { r with watcher := r.watcher.wake }
  | .quit => { r with watcher := r.watcher.quit, inquiry := none }

/-- Takes turns, the first that is possible each time, until none is left. -/
def settleIn (j : Jitter) : Nat → WatchRun → WatchRun
  | 0, r => r
  | fuel + 1, r =>
    match r.turns with
    | [] => r
    | t :: _ => settleIn j fuel (r.take j t)

/-- A bound on the turns between two moments: what the backend has in store, at most five turns
for each query it answers at once, and as many again to come to rest. -/
def patience (r : WatchRun) : Nat := 8 * (r.backend.stock + 4)

/-- The run at rest: every turn that is possible now has been taken. -/
def settle (j : Jitter) (r : WatchRun) : WatchRun := settleIn j r.patience r

def timer? (r : WatchRun) : Option Nat :=
  match r.watcher.phase with
  | .pausing wakeAt => some wakeAt
  | .waiting => r.inquiry.bind Inquiry.timer?
  | _ => none

def clockwork (j : Jitter) : Clockwork WatchRun :=
  ⟨now, timer?, fun moment r => { r with now := moment }, settle j⟩

/-- A bound on the timers that go off in `ms` milliseconds: at most two in each of them, and the
replies that the backend has in store. -/
def timerBound (r : WatchRun) (ms : Nat) : Nat := 2 * ms + 2 * r.backend.stock + 2

/-- The run after `ms` more milliseconds. -/
def advance (j : Jitter) (ms : Nat) (r : WatchRun) : WatchRun :=
  (clockwork j).advance ms (r.timerBound ms) r

/-- The run at the moment `now`, when the initial query, sent at another moment, has been answered
and the loop has not moved yet. -/
def start (backend : Backend) (query : ServiceQuery) (pace : Backoff) (mailboxes : Mailboxes)
    (sentAt now : Nat) (initial : Answer) : WatchRun where
  now
  backend
  watcher := .begin query pace initial
  inquiry := none
  mailboxes
  asked := [(sentAt, noIndex)]

/-- The run at the moment a watcher has been set up on a backend. There is none if the initial
query is never answered, or breaks down. -/
def begin? (backend : Backend) (query : ServiceQuery) (pace : Backoff) (mailboxes : Mailboxes)
    (now : Nat) : Option WatchRun :=
  match backend.enter query now noIndex with
  | (backend, .replied (some due) (.answer a)) =>
    some (start backend query pace mailboxes now (max now due) a)
  | _ => none

def change (r : WatchRun) (ch : Catalog.Change) : WatchRun :=
  { r with backend := r.backend.change ch }

def stop (r : WatchRun) : WatchRun := { r with watcher := r.watcher.stop }

/-- A mailbox subscribes to the watcher's feed: the subscriber's number, if the mailbox is still
kept open. -/
def subscribe (r : WatchRun) (mailbox : String) : Option Nat × WatchRun :=
  let boxes := r.mailboxes.ensure mailbox
  if (boxes.get? mailbox).any (·.isOpen) then
    let (watcher, d) := r.watcher.subscribe mailbox
    (some d.subscriber, { r with watcher, mailboxes := boxes.post d })
  else (none, { r with mailboxes := boxes })

end WatchRun

end Switchboard
