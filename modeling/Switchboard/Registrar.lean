import Switchboard.Agent.Exchange
import Switchboard.Catalog
import Switchboard.Logging.Line
/-!
# Announcing an instance

An instance is announced to a directory and withdrawn from it, and what came of it is logged.

* `Deed` — what is done about an instance.
* `Directory` — where instances are announced: the catalog, the agent, or a script of outcomes.
* `Directory.perform` — a deed is done: the directory after it, and the failure, if it failed.
* `Registrar` — the directory and the instance; `Registrar.perform` also says what is logged.
-/

namespace Switchboard

/-- What is done about an instance. -/
inductive Deed
  | register
  | deregister
  deriving DecidableEq, Repr, Inhabited

def Deed.text : Deed → String
  | .register => "register"
  | .deregister => "deregister"

/-- Where instances are announced. -/
inductive Directory
  /-- The in-process catalog, which never refuses. -/
  | catalog (c : Catalog)
  | agent (client : Agent.Client) (network : Agent.Network)
  /-- Outcomes in order, then success for ever, and the deeds so far. -/
  | script (outcomes : List (Option DiscoveryFailure)) (deeds : List (Deed × String))

namespace Directory

instance : Inhabited Directory := ⟨.script [] []⟩

/-- The catalog; other directories have an empty one. -/
def theCatalog : Directory → Catalog
  | .catalog c => c
  | .agent .. | .script .. => .empty

def withCatalog (d : Directory) (c : Catalog) : Directory :=
  match d with
  | .catalog _ => .catalog c
  | .agent client network => .agent client network
  | .script outcomes deeds => .script outcomes deeds

/-- A deed is done for an instance: the directory after it, and the failure, if it failed. -/
def perform (d : Directory) (deed : Deed) (r : Registration) :
    Directory × Option DiscoveryFailure :=
  match d, deed with
  | .catalog c, .register => (.catalog (c.register r), none)
  | .catalog c, .deregister => (.catalog (c.deregister r), none)
  | .agent client network, .register => (d, client.announce network r)
  | .agent client network, .deregister => (d, client.withdraw network r)
  | .script outcomes deeds, deed =>
    (.script outcomes.tail (deeds ++ [(deed, r.id)]), outcomes.head?.join)

end Directory

/-- A directory, and the instance that is announced to it. -/
structure Registrar where
  directory : Directory
  registration : Registration
  deriving Inhabited

namespace Registrar

/-- The part of the program that logs what a registrar does. -/
def target : String := "discovery::registrar"

/-- What is logged of a deed. -/
def line (deed : Deed) (r : Registration) (failure : Option DiscoveryFailure) : LogLine :=
  match deed, failure with
  | .register, none =>
    ⟨.info, target, "registered instance",
      [("id", r.id), ("service", r.name), ("addr", r.instanceAddress)]⟩
  | .register, some why =>
    ⟨.warn, target, "failed to register instance", [("id", r.id), ("err", why.detail)]⟩
  | .deregister, none => ⟨.info, target, "deregistered instance", [("id", r.id)]⟩
  | .deregister, some why =>
    ⟨.warn, target, "failed to deregister instance", [("id", r.id), ("err", why.detail)]⟩

/-- A deed is done: the registrar after it, the failure, if it failed, and what is logged. -/
def perform (r : Registrar) (deed : Deed) : Registrar × Option DiscoveryFailure × LogLine :=
  let (directory, failure) := r.directory.perform deed r.registration
  ({ r with directory }, failure, line deed r.registration failure)

end Registrar

end Switchboard
