/-!
# Handles on endpoints

An endpoint is held by handles. Handles made from one another are on the same endpoint, all
others are on different ones. What comes with an endpoint is released at most once: an action
runs, or a token is cancelled.

* `Making` — how a handle comes into being; `Handle.makeAll` — handles made one after the other.
* `Handle.same` — are two handles on the same endpoint?
* `Resource` — what comes with an endpoint; `runs`, `cancels` — what releasing it does.
-/

namespace Switchboard

/-- How a handle comes into being. -/
inductive Making
  | fresh
  | idle
  /-- On the endpoint of an earlier handle. -/
  | clone (of : Nat)
  deriving DecidableEq, Repr, Inhabited

/-- A handle on an endpoint. -/
structure Handle where
  /-- The position of the handle that was made with the endpoint. -/
  origin : Nat
  acts : Bool
  deriving DecidableEq, Repr, Inhabited

namespace Handle

/-- One more handle, after others. -/
def make (handles : List Handle) : Making → Handle
  | .fresh => ⟨handles.length, true⟩
  | .idle => ⟨handles.length, false⟩
  | .clone k => (handles[k]?).getD ⟨handles.length, false⟩

/-- Handles made one after the other. -/
def makeAll (makings : List Making) : List Handle :=
  makings.foldl (fun handles m => handles ++ [make handles m]) []

def same (a b : Handle) : Bool := a.origin == b.origin

end Handle

/-- What comes with an endpoint. -/
inductive Resource
  | action
  | token
  deriving DecidableEq, Repr, Inhabited

namespace Resource

def runs : Resource → Bool
  | .action => true
  | .token => false

def cancels : Resource → Bool
  | .action => false
  | .token => true

end Resource

end Switchboard
