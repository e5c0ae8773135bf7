import Switchboard.Backend
import Switchboard.CommandLine
import Switchboard.Registrar
import Switchboard.Text.Blank
/-!
# Where services are found

The address on the command line either names the agent or lists the instances of an in-process
catalog.

* `addressesOf` — the addresses of a list between commas.
* `Origin` — the catalog or the agent; `Origin.ofAddress` — the one that an address means.
* `Origin.line` — what is logged of the choice.
* `Origin.backend`, `Origin.directory` — it as what answers queries, and as what is told of
  instances.
-/

namespace Switchboard.Program

/-- The part of the program that logs what a command does. -/
def target : String := "relay"

/-- What an address begins with that lists instances. -/
def memoryScheme : String := "memory://"

/-- The addresses of a list between commas, without blanks around them and without empty ones. -/
def addressesOf (list : String) : List String :=
  (((list.toList.splitOn ',').map Text.trimBlank).filter fun cs => !cs.isEmpty).map String.ofList

/-- Where services are found. -/
inductive Origin
  | memory (addresses : List String)
  | agent (client : Agent.Client)
  deriving DecidableEq, Repr, Inhabited

namespace Origin

/-- The origin that an address means, with what requests to an agent carry. -/
def ofAddress (address : String) (token datacenter : Option String) : Origin :=
  match memoryScheme.toList.isPrefixOf? address.toList with
  | some list => .memory (addressesOf (String.ofList list))
  | none => .agent { address, token, datacenter }

/-- The origin of a command line. -/
def ofCommandLine (c : CommandLine) : Origin :=
  ofAddress c.consulAddr c.consulToken c.datacenter

/-- A text that may be missing, for inspection. -/
def optionalText : Option String → String
  | none => "None"
  | some s => "Some(" ++ Text.quoted s ++ ")"

def line (o : Origin) (service : String) : LogLine :=
  match o with
  | .memory addresses =>
    ⟨.info, target, "using in-process catalog",
      [("addrs", Text.quotedList addresses), ("service", service)]⟩
  | .agent client =>
    ⟨.info, target, "using consul",
      [("addr", client.address), ("datacenter", optionalText client.datacenter)]⟩

/-- The catalog of addresses of a service. -/
def catalogOf (service : String) (addresses : List String) : Catalog :=
  Catalog.empty.setInstances service addresses

/-- The origin as what answers queries. -/
def backend (o : Origin) (service : String) (network : Agent.Network) : Backend :=
  match o with
  | .memory addresses => .catalog (catalogOf service addresses) none
  | .agent client => .agent client network

/-- The origin as what is told of instances. -/
def directory (o : Origin) (service : String) (network : Agent.Network) : Directory :=
  match o with
  | .memory addresses => .catalog (catalogOf service addresses)
  | .agent client => .agent client network

end Origin

end Switchboard.Program
