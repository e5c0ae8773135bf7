import Switchboard.Catalog
/-!
# The course of a catalog

What one catalog says about a later one, and what a query sees of a catalog.

* `Catalog.Later` — index and revision go up, and what they stand for changes only when they move.
* `Catalog.enter_fst` — a query that comes in leaves the instances alone.
* `Catalog.look_eq_some`, `Catalog.enter_eq_some` — an answer is a failure, or what fits the query.
-/

namespace Switchboard

namespace Catalog

/-! ## Catalogs over time -/

/-- What the catalog `c` says about the catalog `d` that it turns into. -/
structure Later (c d : Catalog) : Prop where
  index_le : c.index ≤ d.index
  revision_le : c.revision ≤ d.revision
  /-- The instances change only when the index moves. -/
  table_eq : c.index = d.index → c.table = d.table
  /-- Neither the index nor the failure changes without a write. -/
  unwritten : c.revision = d.revision → c.index = d.index ∧ c.failure = d.failure

theorem Later.refl (c : Catalog) : Later c c :=
  ⟨Nat.le_refl _, Nat.le_refl _, fun _ => rfl, fun _ => ⟨rfl, rfl⟩⟩

theorem Later.trans {c d e : Catalog} (h : Later c d) (h' : Later d e) : Later c e where
  index_le := Nat.le_trans h.index_le h'.index_le
  revision_le := Nat.le_trans h.revision_le h'.revision_le
  table_eq heq := by
    have hcd := h.index_le
    have hde := h'.index_le
    rw [h.table_eq (by omega), h'.table_eq (by omega)]
  unwritten heq := by
    have hcd := h.revision_le
    have hde := h'.revision_le
    obtain ⟨hindex, hfailure⟩ := h.unwritten (by omega)
    obtain ⟨hindex', hfailure'⟩ := h'.unwritten (by omega)
    exact ⟨hindex.trans hindex', hfailure.trans hfailure'⟩

/-- Changing the instances moves index and revision. -/
theorem later_modify (c : Catalog) (f : InstanceTable → InstanceTable) : Later c (c.modify f) where
  index_le := Nat.le_succ _
  revision_le := Nat.le_succ _
  table_eq heq := absurd heq (Nat.ne_of_lt (Nat.lt_succ_self _))
  unwritten heq := absurd heq (Nat.ne_of_lt (Nat.lt_succ_self _))

theorem later_apply (c : Catalog) (ch : Change) : Later c (c.apply ch) := by
  cases ch with
  | setInstances service addrs => exact later_modify c _
  | setPassing id passing => exact later_modify c fun t => t.setPassing id passing
  | register r => exact later_modify c fun t => t.insert r.id _
  | deregister r => exact later_modify c fun t => t.erase r.id
  | setFailure failure =>
    refine ⟨Nat.le_refl _, Nat.le_succ _, fun _ => rfl, fun heq => ?_⟩
    exact absurd heq (Nat.ne_of_lt (Nat.lt_succ_self _))
  | failNext why => exact ⟨Nat.le_refl _, Nat.le_refl _, fun _ => rfl, fun _ => ⟨rfl, rfl⟩⟩

/-- A query that comes in may use up a failure that was queued, and writes nothing. -/
theorem enter_fst (c : Catalog) (q : ServiceQuery) (last : Nat) :
    ∃ queued queries, (c.enter q last).1 = { c with queued, queries } := by
  unfold enter
  cases c.queued with
  | nil => exact ⟨_, _, rfl⟩
  | cons why rest => exact ⟨_, _, rfl⟩

theorem later_enter (c : Catalog) (q : ServiceQuery) (last : Nat) :
    Later c (c.enter q last).1 := by
  obtain ⟨queued, queries, heq⟩ := c.enter_fst q last
  rw [heq]
  exact ⟨Nat.le_refl _, Nat.le_refl _, fun _ => rfl, fun _ => ⟨rfl, rfl⟩⟩

/-! ## What a query sees -/

theorem index_ne_noIndex (c : Catalog) : c.index ≠ noIndex := Nat.succ_ne_zero _

/-- A query waits if the catalog is not failing and not past the index that was sent. -/
theorem look_eq_none_iff {c : Catalog} {q : ServiceQuery} {last : Nat} :
    c.look q last = none ↔ c.failure = none ∧ last ≠ noIndex ∧ c.index ≤ last := by
  unfold look
  cases c.failure with
  | some why => simp
  | none =>
    by_cases h : last = noIndex ∨ last < c.index
    · simp only [if_pos h]
      constructor
      · exact fun hsome => nomatch hsome
      · rintro ⟨-, hne, hle⟩
        rcases h with hzero | hlt
        · exact absurd hzero hne
        · omega
    · simp only [if_neg h]
      exact ⟨fun _ => ⟨trivial, fun hzero => h (.inl hzero), by omega⟩, fun _ => trivial⟩

/-- Otherwise it is told of the failure, or what fits it now. -/
theorem look_eq_some {c : Catalog} {q : ServiceQuery} {last : Nat} {a : Answer}
    (h : c.look q last = some a) :
    (∃ why, c.failure = some why ∧ a = .failed why) ∨ (c.failure = none ∧ a = c.current q) := by
  unfold look at h
  cases hfailure : c.failure with
  | some why =>
    simp only [hfailure] at h
    exact .inl ⟨why, rfl, (Option.some.inj h).symm⟩
  | none =>
    simp only [hfailure] at h
    obtain ⟨-, heq⟩ := Option.ite_none_right_eq_some.mp h
    exact .inr ⟨rfl, (Option.some.inj heq).symm⟩

/-- A query sees instances only if they are newer than what it has, or it has nothing. -/
theorem lt_index_of_look {c : Catalog} {q : ServiceQuery} {last : Nat}
    {instances : List String} {index : Nat} (h : c.look q last = some (.found instances index)) :
    last = noIndex ∨ last < index := by
  unfold look at h
  cases hfailure : c.failure with
  | some why =>
    rw [hfailure] at h
    exact nomatch Option.some.inj h
  | none =>
    simp only [hfailure] at h
    obtain ⟨hfresh, heq⟩ := Option.ite_none_right_eq_some.mp h
    obtain ⟨-, rfl⟩ := Answer.found.inj (Option.some.inj heq)
    exact hfresh

/-- A failure that is set is what a query sees. -/
theorem look_of_failure {c : Catalog} {why : DiscoveryFailure} (h : c.failure = some why)
    (q : ServiceQuery) (last : Nat) : c.look q last = some (.failed why) := by
  rw [look, h]

/-- Without one it sees the instances, if they are news to it. -/
theorem look_of_newer {c : Catalog} {last : Nat} (h : c.failure = none)
    (hnewer : last = noIndex ∨ last < c.index) (q : ServiceQuery) :
    c.look q last = some (c.current q) := by
  rw [look, h]
  exact if_pos hnewer

/-- A query that comes in and waits found the catalog as `look` says. -/
theorem look_of_enter_eq_none {c : Catalog} {q : ServiceQuery} {last : Nat}
    (h : (c.enter q last).2 = none) : (c.enter q last).1.look q last = none := by
  unfold enter at h ⊢
  cases hqueued : c.queued with
  | nil => simp only [hqueued] at h ⊢; exact h
  | cons why rest => simp only [hqueued] at h; exact nomatch h

/-- The answer to a query that comes in is a failure, or what fits it. -/
theorem enter_eq_some {c : Catalog} {q : ServiceQuery} {last : Nat} {a : Answer}
    (h : (c.enter q last).2 = some a) :
    (∃ why, a = .failed why) ∨ a = (c.enter q last).1.current q := by
  unfold enter at h ⊢
  cases hqueued : c.queued with
  | nil =>
    simp only [hqueued] at h ⊢
    obtain ⟨why, -, heq⟩ | ⟨-, heq⟩ := look_eq_some h
    · exact .inl ⟨why, heq⟩
    · exact .inr heq
  | cons why rest =>
    simp only [hqueued] at h
    exact .inl ⟨why, (Option.some.inj h).symm⟩

end Catalog

end Switchboard
