import Switchboard.Fault
/-!
# Round robin

A balancer that goes through the endpoints in address order, one per selection. Its counter has
64 bits and wraps around; a selection that fails does not move it.

* `Rotation` — the counter.
* `Rotation.pick` — one selection from what the endpoint source handed out.
-/

namespace Switchboard

/-- The counter of a round-robin balancer. -/
structure Rotation where
  /-- The number of selections so far, in 64 bits. -/
  tick : Nat := 0
  deriving DecidableEq, Repr, Inhabited

namespace Rotation

/-- The number of values of the counter. -/
def size : Nat := 18446744073709551616

def next (r : Rotation) : Rotation := ⟨(r.tick + 1) % size⟩

/-- Picks the endpoint whose turn it is. -/
def pick {ε : Type} (r : Rotation) (source : Except DiscoveryFailure (List ε)) :
    Except CallFailure ε × Rotation :=
  match source with
  | .error why => (.error (.discovery why), r)
  | .ok endpoints =>
    match endpoints[r.tick % endpoints.length]? with
    | some e => (.ok e, r.next)
    | none => (.error .noEndpoints, r)

/-- With endpoints there is always one whose turn it is. -/
theorem pick_ok {ε : Type} (r : Rotation) {endpoints : List ε} (h : 0 < endpoints.length) :
    r.pick (.ok endpoints)
      = (.ok (endpoints.get ⟨r.tick % endpoints.length, Nat.mod_lt _ h⟩), r.next) := by
  simp [pick, List.getElem?_eq_getElem (Nat.mod_lt r.tick h)]

/-- Without endpoints nothing is picked, and the counter stays. -/
theorem pick_nil {ε : Type} (r : Rotation) :
    r.pick (.ok ([] : List ε)) = (.error .noEndpoints, r) := by
  simp [pick]

end Rotation

end Switchboard
