import Switchboard.Service
/-!
# The in-process catalog

A discovery backend in memory. It holds instances by identity, in ascending order, and counts
its changes: the index starts at one and moves by one with every change of the instances. A
query that names an index waits until the catalog is past it.

* `Catalog` — the instances, the index, a standing failure, failures queued for single queries,
  and the number of queries that came in.
* `Catalog.matching` — the addresses that a query asks for.
* `Catalog.look` — what a waiting query sees: an answer, or that it has to wait on.
* `Catalog.enter` — a query comes in; a queued failure answers it at once.
* `Catalog.setInstances`, `setPassing`, `register`, `deregister` — changes of the instances.
* `Catalog.setFailure`, `failNext` — failures, which do not move the index.
-/

namespace Switchboard

/-- An instance as the catalog holds it. -/
structure Instance where
  service : String
  address : String
  tags : List String
  passing : Bool
  deriving DecidableEq, Repr, Inhabited

namespace Instance

/-- Does an instance have all that a query asks for? -/
def fits (i : Instance) (q : ServiceQuery) : Bool :=
  i.service == q.service && (!q.passingOnly || i.passing) && q.tags.all fun t => i.tags.contains t

end Instance

/-- Instances by identity, in ascending order of the identities. -/
structure InstanceTable where
  rows : List (String × Instance) := []
  deriving DecidableEq, Repr, Inhabited

namespace InstanceTable

/-- The rows with one more, which takes the place of a row of the same identity. -/
def insertRow (id : String) (i : Instance) : List (String × Instance) → List (String × Instance)
  | [] => [(id, i)]
  | row :: rest =>
    if id < row.1 then (id, i) :: row :: rest
    else if id = row.1 then (id, i) :: rest
    else row :: insertRow id i rest

def insert (t : InstanceTable) (id : String) (i : Instance) : InstanceTable :=
  ⟨insertRow id i t.rows⟩

def erase (t : InstanceTable) (id : String) : InstanceTable := ⟨t.rows.filter fun r => r.1 != id⟩

def get? (t : InstanceTable) (id : String) : Option Instance := t.rows.lookup id

/-- The table without the instances of a service. -/
def withoutService (t : InstanceTable) (service : String) : InstanceTable :=
  ⟨t.rows.filter fun r => r.2.service != service⟩

/-- The table with the health of one instance changed. -/
def setPassing (t : InstanceTable) (id : String) (passing : Bool) : InstanceTable :=
  ⟨t.rows.map fun r => if r.1 = id then (r.1, { r.2 with passing }) else r⟩

/-- The addresses of the instances that fit a query, in the order of their identities. -/
def matching (t : InstanceTable) (q : ServiceQuery) : List String :=
  (t.rows.filter fun r => r.2.fits q).map fun r => r.2.address

end InstanceTable

/-- The catalog of instances, with the number of changes so far, which makes its index. -/
structure Catalog where
  changes : Nat := 0
  table : InstanceTable := {}
  /-- A failure that answers every query until it is cleared. -/
  failure : Option DiscoveryFailure := none
  /-- Failures that answer one query each, the oldest first. -/
  queued : List DiscoveryFailure := []
  queries : Nat := 0
  /-- How often the catalog was written to; this is what wakes a waiting query. -/
  revision : Nat := 0
  deriving DecidableEq, Repr, Inhabited

namespace Catalog

def empty : Catalog := {}

/-- The index starts at one and moves by one with every change. -/
def index (c : Catalog) : Nat := c.changes + 1

def matching (c : Catalog) (q : ServiceQuery) : List String := c.table.matching q

/-- The answer that the catalog can give right now, failing or not. -/
def current (c : Catalog) (q : ServiceQuery) : Answer := .found (c.matching q) c.index

/-- The identity of an instance for which only service and address are known. -/
def defaultId (service address : String) : String := service ++ "-" ++ address

/-! ## Queries -/

/-- What a query sees that waits for something newer than the index `last`. -/
def look (c : Catalog) (q : ServiceQuery) (last : Nat) : Option Answer :=
  match c.failure with
  | some why => some (.failed why)
  | none => if last = noIndex ∨ last < c.index then some (c.current q) else none

/-- A query comes in: a queued failure is used up for it, or else it looks at the catalog. -/
def enter (c : Catalog) (q : ServiceQuery) (last : Nat) : Catalog × Option Answer :=
  let c := { c with queries := c.queries + 1 }
  match c.queued with
  | why :: rest => ({ c with queued := rest }, some (.failed why))
  | [] => (c, c.look q last)

/-! ## Changes -/

/-- The catalog with its instances changed, one index further. -/
def modify (c : Catalog) (f : InstanceTable → InstanceTable) : Catalog :=
  { c with table := f c.table, changes := c.changes + 1, revision := c.revision + 1 }

/-- The table with exactly these addresses for a service: healthy instances without tags. -/
def replaceService (service : String) (addrs : List String) (t : InstanceTable) : InstanceTable :=
  addrs.foldl (fun t a => t.insert (defaultId service a) ⟨service, a, [], true⟩)
    (t.withoutService service)

/-- Replaces every instance of a service. -/
def setInstances (c : Catalog) (service : String) (addrs : List String) : Catalog :=
  c.modify (replaceService service addrs)

def knows (c : Catalog) (id : String) : Bool := (c.table.get? id).isSome

/-- Marks an instance healthy or not; the index moves even if there is no such instance. -/
def setPassing (c : Catalog) (id : String) (passing : Bool) : Catalog :=
  c.modify fun t => t.setPassing id passing

/-- Makes every query fail, or stops doing so. Waiting queries look again. -/
def setFailure (c : Catalog) (failure : Option DiscoveryFailure) : Catalog :=
  { c with failure, revision := c.revision + 1 }

def failNext (c : Catalog) (why : DiscoveryFailure) : Catalog :=
  { c with queued := c.queued ++ [why] }

/-- Announces an instance, healthy until told otherwise. -/
def register (c : Catalog) (r : Registration) : Catalog :=
  c.modify fun t => t.insert r.id ⟨r.name, r.instanceAddress, r.tags, true⟩

def deregister (c : Catalog) (r : Registration) : Catalog := c.modify fun t => t.erase r.id

/-- A step of someone who changes the catalog. -/
inductive Change
  | setInstances (service : String) (addrs : List String)
  | setPassing (id : String) (passing : Bool)
  | setFailure (failure : Option DiscoveryFailure)
  | failNext (why : DiscoveryFailure)
  | register (registration : Registration)
  | deregister (registration : Registration)
  deriving DecidableEq, Repr, Inhabited

def apply (c : Catalog) : Change → Catalog
  | .setInstances service addrs => c.setInstances service addrs
  | .setPassing id passing => c.setPassing id passing
  | .setFailure failure => c.setFailure failure
  | .failNext why => c.failNext why
  | .register r => c.register r
  | .deregister r => c.deregister r

end Catalog

end Switchboard
