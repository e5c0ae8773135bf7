import Switchboard.Line.Peer
import Switchboard.Middleware
import Switchboard.Pipeline
import Switchboard.Program.Limits
import Switchboard.Program.Origin
import Switchboard.Settings
/-!
# Calling a service again and again

The command that calls a service at regular intervals until it is interrupted, and logs what
comes of each call. A call that takes longer than the interval delays the next ones; they follow
one after the other until the command has caught up. A call whose deadline the clock of the system
cannot name breaks the command down.

* `wrapped` — the middleware around every endpoint.
* `Calling` — the command at work.
* `Calling.open?`, `Calling.start`, `Calling.begin?` — the start.
* `Calling.callOnce`, `Calling.callsUntil`, `Calling.calls` — one more call; the calls that end by
  a moment; a number of calls.
-/

namespace Switchboard.Program

/-- The middleware around every endpoint: it traces, counts, and names the operation in faults. -/
def wrapped (operation : String) : Middleware :=
  chain (Middleware.trace operation)
    [Middleware.metrics operation, Middleware.errorContext operation]

/-- The operation of calls to a service. -/
def operationOf (service : String) : String := "call " ++ service

/-- What the addresses of a service do. -/
abbrev Peers := (address : String) → Line.Peer

def Peers.absent : Peers := fun _ => Line.Peer.absent

/-- The callee of an endpoint. -/
def calleeOf (peers : Peers) (service : String) (e : Endpoint) : Callee :=
  wrapped (operationOf service) (Line.callee e.address (peers e.address))

/-- The command at work, between two calls. -/
structure Calling where
  service : String
  payload : String
  /-- The milliseconds between calls; at least one. -/
  interval : Nat
  retry : Retry
  peers : Peers
  dispatch : Dispatch Pipeline Endpoint
  due : Nat
  /-- What the clock of the system read at the start, in nanoseconds. -/
  uptime : Nat := 0
  broken : Option Breakdown := none
  log : List LogLine := []

namespace Calling

def now (c : Calling) : Nat := c.dispatch.source.now

/-- What the clock of the system reads, in nanoseconds. -/
def reading (c : Calling) : Nat := c.uptime + Duration.perMilli * c.now

def pool (c : Calling) : Pool := c.dispatch.source.supply.pool

/-- What is logged at the start. -/
def startLine (settings : Settings) (service : String) : LogLine :=
  ⟨.info, target, "calling",
    [("service", service), ("retry", settings.mode.outline.inline),
      ("timeout", settings.timeout.text)]⟩

/-- What is logged of a call. -/
def lineOf : CallResult → LogLine
  | .ok text => ⟨.info, target, "call succeeded", [("resp", text)]⟩
  | .error why => ⟨.warn, target, "call failed", [("err", why.text)]⟩

/-- Before the start: endpoints are opened on a backend. There are none if the first query is never
answered. -/
def open? (backend : Backend) (settings : Settings) (service payload : String) (interval : Nat)
    (peers : Peers) (uptime : Nat) : Option Calling :=
  (WatchRun.begin? backend (settings.query service) settings.backoff {} 0).map fun run =>
    { service, payload, interval, peers, uptime
      retry := settings.retry
      dispatch := .start (.open_ (.watch run) settings.grace {})
      due := run.now }

/-- The command starts, unless it breaks down; that endpoints were opened is logged first. -/
def start (settings : Settings) (c : Calling) : Calling :=
  let broken := breakdownOfOpening c.reading c.pool.pending.isSome settings.grace c.interval
    settings.timeout
  { c with
    broken
    log := if broken = some .noGraceEnd then [] else [startLine settings c.service] }

/-- The start on a backend. -/
def begin? (backend : Backend) (settings : Settings) (service payload : String) (interval : Nat)
    (peers : Peers) (uptime : Nat) : Option Calling :=
  (open? backend settings service payload interval peers uptime).map (start settings)

/-- What surrounds the calls. -/
def environment (j : Jitter) (c : Calling) : Environment (Dispatch Pipeline Endpoint) :=
  Dispatch.environment (Pipeline.endpoints j) (calleeOf c.peers c.service)

/-- The command when its next call is due. -/
def wait (j : Jitter) (c : Calling) : Calling :=
  { c with
    dispatch := { c.dispatch with source := (c.dispatch.source.settle j).reach j c.due } }

/-- A call of the command, which is due: the command after it, unless the call never ends. -/
def call (j : Nat → Jitter) (c : Calling) : Option Calling :=
  (c.retry.execute (c.environment (j 0)) j none c.now c.payload c.dispatch).map fun report =>
    { c with
      dispatch := { report.state with source := report.state.source.reach (j 0) report.endedAt }
      due := c.due + c.interval
      log := c.log ++ [lineOf report.result] }

/-- The same, unless the clock cannot name the deadline of the call. -/
def callOrBreak (j : Nat → Jitter) (c : Calling) : Option Calling :=
  match breakdownOfCall c.reading c.retry.timeout with
  | some how => some { c with broken := some how }
  | none => c.call j

/-- The next call: the command after it, unless the call never ends, or there is no next one. -/
def callOnce (j : Nat → Jitter) (c : Calling) : Option Calling :=
  if c.broken.isSome then none else (c.wait (j 0)).callOrBreak j

def calls (j : Nat → Jitter) : Nat → Calling → Calling
  | 0, c => c
  | n + 1, c =>
    match c.callOnce j with
    | some c => calls j n c
    | none => c

/-- The calls that end by a moment, at most `fuel` of them. -/
def callsUntilIn (j : Nat → Jitter) (moment : Nat) : Nat → Calling → Calling
  | 0, c => c
  | fuel + 1, c =>
    match c.callOnce j with
    | some c' => if c'.now ≤ moment then callsUntilIn j moment fuel c' else c
    | none => c

/-- The calls that end by a moment: no more than are due by then. -/
def callsUntil (j : Nat → Jitter) (moment : Nat) (c : Calling) : Calling :=
  callsUntilIn j moment (moment + 1) c

end Calling

end Switchboard.Program
