import Switchboard.Retry
import Switchboard.Rotation
/-!
# Dispatching calls

A round-robin balancer in front of a source of endpoints, with a log of the calls it made. The
source may be anything that can be asked for its endpoints at a moment.

* `Dispatch` — the source's state, the counter of the balancer, and the calls so far.
* `Dispatch.select` — one selection.
* `Dispatch.environment` — the same as the surroundings of a call that is tried again.
-/

namespace Switchboard

/-- A call that was made. -/
structure CallEntry (ε : Type) where
  /-- When it was made, in milliseconds. -/
  moment : Nat
  endpoint : ε
  request : String
  deriving DecidableEq, Repr

/-- Endpoints of a source, dispatched in turn. -/
structure Dispatch (σ ε : Type) where
  source : σ
  rotation : Rotation
  log : List (CallEntry ε)

namespace Dispatch

variable {σ ε : Type}

def start (source : σ) : Dispatch σ ε := ⟨source, {}, []⟩

def callsOf [DecidableEq ε] (d : Dispatch σ ε) (e : ε) : Nat :=
  (d.log.filter fun c => c.endpoint = e).length

/-- Asks the source at a moment and selects the endpoint whose turn it is. -/
def select (endpoints : σ → Nat → Except DiscoveryFailure (List ε) × σ) (d : Dispatch σ ε)
    (now : Nat) : Except CallFailure ε × Dispatch σ ε :=
  let (got, source) := endpoints d.source now
  let (picked, rotation) := d.rotation.pick got
  (picked, { d with source, rotation })

/-- Invokes an endpoint at a moment. -/
def invoke [DecidableEq ε] (callee : ε → Callee) (d : Dispatch σ ε) (now : Nat) (e : ε)
    (request : String) : Invocation × Dispatch σ ε :=
  (callee e (d.callsOf e) request, { d with log := d.log ++ [⟨now, e, request⟩] })

/-- The surroundings of a call: selections from the source, and the endpoints' own behaviour. -/
def environment [DecidableEq ε] (endpoints : σ → Nat → Except DiscoveryFailure (List ε) × σ)
    (callee : ε → Callee) : Environment (Dispatch σ ε) where
  attempt d now request :=
    match d.select endpoints now with
    | (.error why, d) => (.unavailable why, d)
    | (.ok e, d) =>
      let (i, d) := d.invoke callee now e request
      (.invoked (i.delay.map (now + ·)) i.outcome, d)

end Dispatch

/-- A source that hands out one list or failure per time it is asked, the last one over and over,
and nothing at all if it has none. -/
def listsSource {ε : Type} (lists : List (Except DiscoveryFailure (List ε))) (_now : Nat) :
    Except DiscoveryFailure (List ε) × List (Except DiscoveryFailure (List ε)) :=
  match lists with
  | [] => (.ok [], [])
  | [last] => (last, [last])
  | first :: rest => (first, rest)

/-- A source that always hands out the same endpoints. -/
def fixedSource {ε : Type} (endpoints : List ε) (_now : Nat) :
    Except DiscoveryFailure (List ε) × List ε :=
  (.ok endpoints, endpoints)

end Switchboard
