import Switchboard.Failure
/-!
# Services, queries and registrations

What is asked of a discovery backend and what is announced to it.

* `ServiceQuery` — a service and the filters on its instances.
* `Answer` — what a query came back with: addresses and an index, or a failure.
* `Registration`, `HealthCheck` — an instance as it is announced.
* `instanceAddress` — the `host:port` of an instance.
-/

namespace Switchboard

/-- The index that stands for no earlier answer; a query with it never waits. -/
def noIndex : Nat := 0

structure ServiceQuery where
  service : String
  /-- The tags that an instance has to carry, all of them. -/
  tags : List String := []
  passingOnly : Bool := false
  deriving DecidableEq, Repr, Inhabited

/-- What a query came back with. -/
inductive Answer
  | found (instances : List String) (index : Nat)
  | failed (why : DiscoveryFailure)
  deriving DecidableEq, Repr, Inhabited

/-- A health check that the backend runs for an instance; durations are in its own notation. -/
structure HealthCheck where
  http : Option String := none
  tcp : Option String := none
  interval : String
  timeout : Option String := none
  /-- The time in a critical state after which the instance is removed. -/
  deregisterAfter : Option String := none
  deriving DecidableEq, Repr, Inhabited

/-- The address of an instance, `host:port`. -/
def instanceAddress (host : String) (port : Nat) : String := host ++ ":" ++ toString port

/-- An instance as it is announced to the backend, under an identity of its own. -/
structure Registration where
  id : String
  name : String
  address : String
  port : Nat
  tags : List String := []
  namespaceName : Option String := none
  check : Option HealthCheck := none
  deriving DecidableEq, Repr, Inhabited

namespace Registration

/-- The identity of an instance for which none is given. -/
def defaultId (name address : String) (port : Nat) : String :=
  name ++ "-" ++ address ++ "-" ++ toString port

def plain (name address : String) (port : Nat) : Registration :=
  { id := defaultId name address port, name, address, port }

/-- The `host:port` of the instance. -/
def instanceAddress (r : Registration) : String := Switchboard.instanceAddress r.address r.port

end Registration

end Switchboard
