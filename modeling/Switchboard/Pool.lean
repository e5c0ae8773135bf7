import Switchboard.Duration
import Switchboard.Snapshot
import Switchboard.Tally
/-!
# Pools of endpoints

A pool holds one built endpoint per address of a service and serves them in address order. An
endpoint lives as long as its address is listed: it is built once, and its release handle, if it
came with one, is used once, when the address goes away.

When discovery fails the pool goes on serving for a grace period. The first read after that
drops every entry and reports the failure, until good news arrives.

* `Build` — what building an endpoint for an address comes to.
* `Endpoint` — a built endpoint, told from all others by its serial number.
* `PoolEvent` — what an operation did to the outside: built, refused, released.
* `Pool` — the entries, the list that is served, the pending failure with its deadline.
* `Pool.update` — a snapshot arrives.
* `Pool.read` — the endpoints for a caller; `Pool.glance` and `Pool.resolve` are its two steps,
  the first under a shared lock, the second under an exclusive one.
* `Pool.close` — every entry is dropped, for good.
-/

namespace Switchboard

/-- What building an endpoint for an address comes to. -/
inductive Build
  | built (releasable : Bool)
  | refused
  deriving DecidableEq, Repr, Inhabited

/-- A built endpoint. -/
structure Endpoint where
  /-- How many endpoints the pool had built when this one was done. -/
  serial : Nat
  address : String
  deriving DecidableEq, Repr, Inhabited

/-- An endpoint as the pool holds it. -/
structure PoolEntry where
  endpoint : Endpoint
  /-- Did it come with a handle that has to be released? -/
  releasable : Bool
  deriving DecidableEq, Repr, Inhabited

/-- What an operation of a pool did to the outside. -/
inductive PoolEvent
  | built (e : PoolEntry)
  | refused (address : String)
  | released (e : Endpoint)
  deriving DecidableEq, Repr, Inhabited

namespace PoolEvent

def tally : PoolEvent → Tally
  | .built _ => { endpointBuilds := 1 }
  | .refused _ => { endpointBuildFailures := 1 }
  | .released _ => { endpointReleases := 1 }

def tallies (events : List PoolEvent) : Tally := events.foldl (fun t e => t + e.tally) {}

end PoolEvent

abbrev PoolEntries := List (String × PoolEntry)

/-- The pool of one service. -/
structure Pool where
  /-- How long a failing discovery is borne; without it failures are ignored. -/
  grace : Option Duration
  held : PoolEntries := []
  served : List Endpoint := []
  /-- The first failure since the last good news. -/
  pending : Option DiscoveryFailure := none
  /-- The moment, in milliseconds, from which the pending failure counts. -/
  deadline : Option Nat := none
  /-- Were the entries dropped because of the pending failure? -/
  purged : Bool := false
  closed : Bool := false
  built : Nat := 0
  deriving DecidableEq, Repr, Inhabited

namespace Pool

def empty (grace : Option Duration) : Pool := { grace }

/-- What going through a list of addresses yields. -/
structure Gathered where
  entries : PoolEntries := []
  built : Nat
  events : List PoolEvent := []
  deriving DecidableEq, Repr, Inhabited

/-- Entries for addresses, in their order: those that are held are kept, the others are built; an
address that cannot be dialled gets none. -/
def gather (build : String → Build) (held : PoolEntries) (built : Nat) : List String → Gathered
  | [] => { built }
  | a :: rest =>
    match held.lookup a with
    | some e =>
      let g := gather build held built rest
      { g with entries := (a, e) :: g.entries }
    | none =>
      match build a with
      | .built releasable =>
        let e : PoolEntry := ⟨⟨built + 1, a⟩, releasable⟩
        let g := gather build held (built + 1) rest
        { g with entries := (a, e) :: g.entries, events := .built e :: g.events }
      | .refused =>
        let g := gather build held built rest
        { g with events := .refused a :: g.events }

def endpointsOf (entries : PoolEntries) (addrs : List String) : List Endpoint :=
  addrs.filterMap fun a => (entries.lookup a).map PoolEntry.endpoint

/-- The releases of the entries whose address is not listed. -/
def releasesOf (held : PoolEntries) (addrs : List String) : List PoolEvent :=
  (held.filter fun p => !addrs.contains p.1 && p.2.releasable).map fun p => .released p.2.endpoint

/-- Makes the pool hold exactly the addresses of an ascending list, as far as they can be
dialled. -/
def reconcile (p : Pool) (build : String → Build) (addrs : List String) : Pool × List PoolEvent :=
  let g := gather build p.held p.built addrs
  ({ p with held := g.entries, served := endpointsOf g.entries addrs, built := g.built },
    g.events ++ releasesOf p.held addrs)

/-- Nothing is built when every entry is dropped. -/
def noBuild (_ : String) : Build := .refused

/-- A failure is noted, unless failures are ignored, the pool is closed, or one is pending. -/
def noteFailure (p : Pool) (now : Nat) (why : DiscoveryFailure) : Pool :=
  match p.grace, p.closed, p.pending with
  | some grace, false, none =>
    { p with pending := some why, deadline := some (now + grace.ticks) }
  | _, _, _ => p

/-- A snapshot arrives at a moment. -/
def update (p : Pool) (build : String → Build) (now : Nat) :
    Snapshot → Pool × List PoolEvent
  | .failure why => (p.noteFailure now why, [])
  | .instances addrs =>
    if p.closed then (p, [])
    else
      let (p, events) := p.reconcile build (ascending addrs)
      ({ p with pending := none, deadline := none, purged := false }, events)

/-- May the list be handed out at a moment? -/
def isServing (p : Pool) (now : Nat) : Bool :=
  match p.pending, p.deadline with
  | none, _ => true
  | some _, some deadline => now < deadline
  | some _, none => false

/-- What a caller gets: endpoints in address order, or the failure that invalidated them. -/
abbrev Reading := Except DiscoveryFailure (List Endpoint)

/-- The first step of a read, under the shared lock; without a result the second one follows. -/
def glance (p : Pool) (now : Nat) : Option Reading :=
  if p.isServing now then some (.ok p.served)
  else if p.purged then p.pending.map .error
  else none

/-- The second step of a read, under the exclusive lock. Someone may have come first, so all is
looked at again before the entries are dropped. -/
def resolve (p : Pool) (now : Nat) : Pool × List PoolEvent × Reading :=
  if p.isServing now then (p, [], .ok p.served)
  else
    let (p, events) :=
      if p.purged then (p, []) else ({ p with purged := true }).reconcile noBuild []
    match p.pending with
    | some why => (p, events, .error why)
    | none => (p, events, .ok [])

/-- A caller asks for the endpoints at a moment. -/
def read (p : Pool) (now : Nat) : Pool × List PoolEvent × Reading :=
  match p.glance now with
  | some r => (p, [], r)
  | none => p.resolve now

/-- Drops every entry and ignores what comes later. -/
def close (p : Pool) : Pool × List PoolEvent := ({ p with closed := true }).reconcile noBuild []

end Pool

end Switchboard
