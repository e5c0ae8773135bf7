import Switchboard.Fault
import Switchboard.Program.Origin
/-!
# Announcing an instance until interrupted

The command that announces an instance, waits for an interrupt, and withdraws the instance again.

* `registrationOf` — the registration that the arguments make.
* `Announcing` — the command at work.
* `Announcing.begin`, `Announcing.interrupt` — the start and the end.
-/

namespace Switchboard.Program

/-- The registration that the arguments of the command make. -/
def registrationOf (a : RegisterArgs) : Registration :=
  let r := Registration.plain a.name a.address a.port
  { r with id := a.id.getD r.id, tags := a.tags }

/-- The command at work. -/
structure Announcing where
  registrar : Registrar
  /-- How it ended, if it did: well, or with a fault. -/
  ending : Option (Option Fault) := none
  log : List LogLine := []
  deriving Inhabited

namespace Announcing

/-- The fault of a deed that failed. -/
def faultOf (deed : Deed) (why : DiscoveryFailure) : Fault :=
  .context ("failed to " ++ deed.text ++ " instance") (.discovery why)

/-- A deed is done. -/
def perform (a : Announcing) (deed : Deed) : Option DiscoveryFailure × Announcing :=
  let (registrar, failure, line) := a.registrar.perform deed
  (failure, { a with registrar, log := a.log ++ [line] })

/-- The start: the instance is announced, and if that fails it is the end. -/
def begin (directory : Directory) (r : Registration) : Announcing :=
  match Announcing.perform { registrar := ⟨directory, r⟩ } .register with
  | (none, a) => a
  | (some why, a) => { a with ending := some (some (faultOf .register why)) }

def theCatalog (a : Announcing) : Catalog := a.registrar.directory.theCatalog

def withCatalog (a : Announcing) (c : Catalog) : Announcing :=
  { a with registrar := { a.registrar with directory := a.registrar.directory.withCatalog c } }

/-- The command is interrupted: the instance is withdrawn. -/
def interrupt (a : Announcing) : Announcing :=
  if a.ending.isSome then a
  else
    let (failure, a) := a.perform .deregister
    { a with ending := some (failure.map (faultOf .deregister)) }

end Announcing

end Switchboard.Program
