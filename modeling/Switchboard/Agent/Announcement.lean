import Switchboard.Json
import Switchboard.Service
/-!
# Announcements to the agent

The body with which an instance is announced to the agent, in the agent's own names. What is left
out of a registration is left out of the body as well.

* `Announcement` — the body, and `AnnouncedCheck`, the health check in it.
* `Announcement.ofRegistration` — the body for a registration.
* `Announcement.toJson` — its JSON.
-/

namespace Switchboard.Agent

/-- A health check as the agent is told of it. -/
structure AnnouncedCheck where
  http : Option String
  tcp : Option String
  interval : String
  timeout : Option String
  deregisterAfter : Option String
  deriving DecidableEq, Repr, Inhabited

/-- An instance as the agent is told of it. -/
structure Announcement where
  id : String
  name : String
  tags : List String
  port : Nat
  address : String
  namespaceName : Option String
  check : Option AnnouncedCheck
  deriving DecidableEq, Repr, Inhabited

/-- A member for a text that is there. -/
def memberOf (name : String) : Option String → List (String × Json)
  | none => []
  | some s => [(name, .text s)]

namespace AnnouncedCheck

def ofHealthCheck (c : HealthCheck) : AnnouncedCheck :=
  ⟨c.http, c.tcp, c.interval, c.timeout, c.deregisterAfter⟩

def toJson (c : AnnouncedCheck) : Json :=
  .record (memberOf "HTTP" c.http ++ memberOf "TCP" c.tcp ++ [("Interval", .text c.interval)]
    ++ memberOf "Timeout" c.timeout
    ++ memberOf "DeregisterCriticalServiceAfter" c.deregisterAfter)

end AnnouncedCheck

namespace Announcement

def ofRegistration (r : Registration) : Announcement :=
  ⟨r.id, r.name, r.tags, r.port, r.address, r.namespaceName,
    r.check.map AnnouncedCheck.ofHealthCheck⟩

def toJson (a : Announcement) : Json :=
  .record ([("ID", .text a.id), ("Name", .text a.name), ("Tags", .texts a.tags),
      ("Port", .natural a.port), ("Address", .text a.address)]
    ++ memberOf "Namespace" a.namespaceName
    ++ (a.check.map fun c => [("Check", c.toJson)]).getD [])

end Announcement

end Switchboard.Agent
