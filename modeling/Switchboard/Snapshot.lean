import Switchboard.Addresses
import Switchboard.Failure
/-!
# Snapshots

What is known of a service at one moment: the addresses behind it, or the failure that kept
discovery from finding them.

* `Snapshot` — the two cases.
* `Snapshot.normal` — the address list put in ascending order, without repetitions.
* `Snapshot.ofAddresses` — the snapshot of addresses in any order.
-/

namespace Switchboard

/-- The latest knowledge of a service. -/
inductive Snapshot
  | instances (addrs : List String)
  | failure (why : DiscoveryFailure)
  deriving DecidableEq, Repr

namespace Snapshot

instance : Inhabited Snapshot := ⟨.instances []⟩

/-- The same snapshot with ascending addresses. -/
def normal : Snapshot → Snapshot
  | .instances addrs => .instances (ascending addrs)
  | .failure why => .failure why

/-- The snapshot of addresses given in any order. -/
def ofAddresses (addrs : List String) : Snapshot := .instances (ascending addrs)

def addresses? : Snapshot → Option (List String)
  | .instances addrs => some addrs
  | .failure _ => none

def failure? : Snapshot → Option DiscoveryFailure
  | .instances _ => none
  | .failure why => some why

def isFailure : Snapshot → Bool
  | .instances _ => false
  | .failure _ => true

@[simp] theorem normal_normal (s : Snapshot) : s.normal.normal = s.normal := by
  cases s with
  | instances addrs => simp [normal, ascending_of_pairwise (pairwise_ascending addrs)]
  | failure why => rfl

@[simp] theorem isFailure_normal (s : Snapshot) : s.normal.isFailure = s.isFailure := by
  cases s <;> rfl

end Snapshot

end Switchboard
