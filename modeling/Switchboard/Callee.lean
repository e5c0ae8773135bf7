import Switchboard.Fault
/-!
# What is called

A callee is one way to reach a remote operation, seen from the outside. A call has two parts. It
is invoked, which happens at once and may leave its mark; and what was invoked then runs, for
some time or for ever, and comes to an outcome unless it is given up first.

* `Outcome` — a response, a fault, or a breakdown of the task that ran the call.
* `CallEvent` — what can be observed of a call on its way.
* `Invocation` — what a call does when invoked and afterwards.
* `Callee` — the invocation for the n-th call with a request.
-/

namespace Switchboard

/-- How a call ends. -/
inductive Outcome
  | response (text : String)
  | fault (f : Fault)
  | panic (message : String)
  deriving Inhabited

namespace Outcome

def isOk : Outcome → Bool
  | .response _ => true
  | _ => false

def isComplete : Outcome → Bool
  | .panic _ => false
  | _ => true

/-- The outcome with its fault, if it has one, put into other words. -/
def mapFault (g : Fault → Fault) : Outcome → Outcome
  | .fault f => .fault (g f)
  | o => o

end Outcome

/-- What can be observed of a call on its way. -/
inductive CallEvent
  | invoked (request : String)
  | entered (layer request : String)
  | left (layer : String) (ok : Bool)
  | counted (operation : String) (ok : Bool)
  deriving DecidableEq, Repr, Inhabited

/-- A call that was invoked. -/
structure Invocation where
  atOnce : List CallEvent
  /-- The milliseconds until the outcome; without them it never comes. -/
  delay : Option Nat
  /-- What happens by the time the outcome is there. -/
  later : List CallEvent
  outcome : Outcome
  deriving Inhabited

/-- One way to reach a remote operation: what its n-th call does, counted from zero. -/
abbrev Callee := (nth : Nat) → (request : String) → Invocation

namespace Callee

/-- A callee that answers at once, always with the same. -/
def constant (o : Outcome) : Callee := fun _ request => ⟨[.invoked request], some 0, [], o⟩

end Callee

end Switchboard
