import Switchboard.Dispatch
import Switchboard.Script
import Switchboard.Supply
import Switchboard.Watcher.Run
/-!
# The pipeline

From a backend to calls: a feed, or a watcher on a backend, supplies a pool of endpoints, and a
balancer dispatches calls to them. The pipeline has one clock; a call that sleeps or waits lets
the rest of it go on.

* `Source` — where snapshots come from.
* `Factory` — which addresses can be dialled, and which endpoints come with a handle.
* `Pipeline` — source and supply, with what the pool did so far.
* `Pipeline.settle`, `advance` — everything runs until it waits; time goes on.
* `Pipeline.endpoints` — what a caller gets from the pool at a moment.
* `Pipeline.close`, `dropSupply` — the supply is closed; it goes away altogether.
* `Pipeline.ask` — an endpoint is called past the balancer.
-/

namespace Switchboard

/-- Where the snapshots of a pipeline come from. -/
inductive Source
  /-- A feed that someone publishes on by hand, and the time. -/
  | feed (now : Nat) (f : Feed) (mailboxes : Mailboxes)
  | watch (run : WatchRun)
  deriving Inhabited

namespace Source

def now : Source → Nat
  | .feed now _ _ => now
  | .watch run => run.now

def theCatalog : Source → Catalog
  | .feed .. => .empty
  | .watch run => run.backend.theCatalog

def theFeed : Source → Feed
  | .feed _ f _ => f
  | .watch run => run.watcher.feed

def mailboxes : Source → Mailboxes
  | .feed _ _ boxes => boxes
  | .watch run => run.mailboxes

def withFeed (s : Source) (f : Feed) : Source :=
  match s with
  | .feed now _ boxes => .feed now f boxes
  | .watch run => .watch { run with watcher := { run.watcher with feed := f } }

def withMailboxes (s : Source) (boxes : Mailboxes) : Source :=
  match s with
  | .feed now f _ => .feed now f boxes
  | .watch run => .watch { run with mailboxes := boxes }

/-- A snapshot is published by hand. -/
def publish (s : Source) (snapshot : Snapshot) : Source :=
  let (f, ds) := s.theFeed.publish s.mailboxes.reaches snapshot
  (s.withFeed f).withMailboxes (s.mailboxes.postAll ds)

/-- The watcher runs until it waits. -/
def settle (j : Jitter) : Source → Source
  | .feed now f boxes => .feed now f boxes
  | .watch run => .watch (run.settle j)

/-- The next moment at which a timer goes off. -/
def timer? : Source → Option Nat
  | .feed .. => none
  | .watch run => run.timer?

/-- The clock stands at a moment. -/
def at_ (s : Source) (moment : Nat) : Source :=
  match s with
  | .feed _ f boxes => .feed moment f boxes
  | .watch run => .watch { run with now := moment }

/-- A bound on the timers that go off in `ms` milliseconds. -/
def timerBound (s : Source) (ms : Nat) : Nat :=
  match s with
  | .feed .. => 0
  | .watch run => run.timerBound ms

/-- Someone changes the catalog, if there is one. -/
def change (s : Source) (ch : Catalog.Change) : Source :=
  match s with
  | .feed now f boxes => .feed now f boxes
  | .watch run => .watch (run.change ch)

def tally : Source → Tally
  | .feed .. => {}
  | .watch run => run.watcher.tally

def stop : Source → Source
  | .feed now f boxes => .feed now f boxes
  | .watch run => .watch run.stop

end Source

/-- Which addresses can be dialled, and what comes with their endpoints. -/
structure Factory where
  /-- The addresses that cannot be dialled. -/
  bad : List String := []
  /-- The addresses whose endpoints come without a handle. -/
  noRelease : List String := []
  deriving DecidableEq, Repr, Inhabited

/-- What building an endpoint comes to. -/
def Factory.build (f : Factory) (address : String) : Build :=
  if f.bad.contains address then .refused else .built (!f.noRelease.contains address)

/-- A source, and the pool that it supplies. -/
structure Pipeline where
  source : Source
  supply : Supply
  factory : Factory
  dropped : Bool := false
  events : List PoolEvent := []
  deriving Inhabited

namespace Pipeline

def now (p : Pipeline) : Nat := p.source.now

/-- A pool supplied from a source. -/
def open_ (source : Source) (grace : Option Duration) (factory : Factory) : Pipeline :=
  let boxes := source.mailboxes.ensure Supply.mailbox
  let (supply, feed, events) :=
    Supply.open_ (.empty grace) factory.build source.now source.theFeed
  { source := (source.withFeed feed).withMailboxes boxes, supply, factory, events }

/-- The snapshots that wait for the task of the supply. -/
def waiting (p : Pipeline) : List Snapshot :=
  ((p.source.mailboxes.get? Supply.mailbox).map Mailbox.waiting).getD []

/-- The task of the supply runs until it has nothing left to do. -/
def drain (p : Pipeline) : Pipeline :=
  let (supply, events) := p.supply.run p.factory.build p.now p.waiting
  { p with
    supply, events := p.events ++ events
    source := p.source.withMailboxes (p.source.mailboxes.emptied Supply.mailbox) }

/-- Everything runs until it waits. -/
def settle (j : Jitter) (p : Pipeline) : Pipeline := { p with source := p.source.settle j }.drain

/-- The clock of a pipeline. -/
def clockwork (j : Jitter) : Clockwork Pipeline :=
  ⟨now, fun p => p.source.timer?, fun moment p => { p with source := p.source.at_ moment },
    settle j⟩

/-- The pipeline after `ms` more milliseconds. -/
def advance (j : Jitter) (ms : Nat) (p : Pipeline) : Pipeline :=
  (clockwork j).advance ms (p.source.timerBound ms) p

/-- The pipeline at a moment; nothing moves if that is now. -/
def reach (j : Jitter) (moment : Nat) (p : Pipeline) : Pipeline :=
  if p.now < moment then p.advance j (moment - p.now) else p

/-- What a caller gets from the pool right now. -/
def read (p : Pipeline) : Pool.Reading × Pipeline :=
  if p.dropped then (.error .stopped, p)
  else
    let (pool, events, got) := p.supply.pool.read p.now
    (got, { p with supply := { p.supply with pool }, events := p.events ++ events })

/-- What a caller gets from the pool at a moment, to which everything runs on first. -/
def endpoints (j : Jitter) (p : Pipeline) (moment : Nat) :
    Except DiscoveryFailure (List Endpoint) × Pipeline :=
  (p.reach j moment).read

/-- The supply is closed. -/
def close (p : Pipeline) : Pipeline :=
  let (supply, events) := p.supply.close
  { p with
    supply, events := p.events ++ events
    source := p.source.withFeed (p.source.theFeed.unsubscribe p.supply.subscriber) }

/-- The supply is closed, unless it went away. -/
def closeSupply (p : Pipeline) : Pipeline := if p.dropped then p else p.close

/-- The supply goes away, and is closed by that. -/
def dropSupply (p : Pipeline) : Pipeline :=
  if p.dropped then p else { p.close with dropped := true }

def change (p : Pipeline) (ch : Catalog.Change) : Pipeline :=
  { p with source := p.source.change ch }

/-- The watcher, if there is one, is told to stop. -/
def stopWatcher (p : Pipeline) : Pipeline := { p with source := p.source.stop }

/-- From now on other addresses cannot be dialled. -/
def refuse (p : Pipeline) (bad : List String) : Pipeline :=
  { p with factory := { p.factory with bad } }

/-- A snapshot is published by hand: was it news? -/
def publish (p : Pipeline) (snapshot : Snapshot) : Bool × Pipeline :=
  (p.source.theFeed.isNews snapshot, { p with source := p.source.publish snapshot })

/-- An endpoint is called past the balancer; everything runs on until it has answered. -/
def ask (j : Jitter) (callee : Endpoint → Callee) (d : Dispatch Pipeline Endpoint) (e : Endpoint)
    (request : String) : Except Fault String × Dispatch Pipeline Endpoint :=
  let (i, d) := d.invoke callee d.source.now e request
  (i.outcome.toResult,
    { d with source := d.source.reach j (d.source.now + i.delay.getD 0) })

end Pipeline

end Switchboard
