import Switchboard.Proofs.Catalog.Queries
/-!
# Queries that are left to run

`Queries.settle` lets every query run until it has its answer or has to wait, oldest first, and
`Queries.advance` does so at every timer that goes off on the way. Both choose among the turns that
can be taken, and nothing else happens meanwhile.

* `Orderly.settle_eq_after`, `Orderly.advance_eq_after` — both are runs, so what holds of all runs
  holds of these.
* `Orderly.settle_atRest` — in the end no turn is left to take; `turnsLeft` counts them down.
-/

namespace Switchboard

namespace Queries

/-! ## Everything runs, and the clock goes on -/

section Driver

variable {s : Queries} {patience : Option Nat}

/-- A query that is the only one of its number is left out, or changed in its place. -/
theorem put_of_split (h : (s.waiting.map OpenQuery.number).Nodup) {done rest : List OpenQuery}
    {o : OpenQuery} (hsplit : s.waiting = done ++ o :: rest) (backend : Backend) (i : Inquiry) :
    s.put o.number backend i =
      match i.ready? s.now with
      | some reply =>
        { s with
          backend
          waiting := done ++ rest
          answered := s.answered ++ [⟨o.number, reply.toAnswer, s.now⟩] }
      | none => { s with backend, waiting := done ++ { o with inquiry := i } :: rest } := by
  rw [hsplit, List.map_append, List.map_cons] at h
  obtain ⟨-, htail, hdisjoint⟩ := List.nodup_append.mp h
  have hdone : ∀ p ∈ done, p.number ≠ o.number := fun p hp =>
    hdisjoint _ (List.mem_map_of_mem hp) _ List.mem_cons_self
  have hrest : ∀ p ∈ rest, p.number ≠ o.number := fun p hp heq =>
    (List.nodup_cons.mp htail).1 (heq ▸ List.mem_map_of_mem hp)
  cases hready : i.ready? s.now with
  | some reply =>
    rw [put_of_ready hready, hsplit, List.filter_append,
      List.filter_cons_of_neg (by simp),
      List.filter_eq_self.mpr fun p hp => decide_eq_true (hdone p hp),
      List.filter_eq_self.mpr fun p hp => decide_eq_true (hrest p hp)]
  | none =>
    have hsame : ∀ l : List OpenQuery, (∀ p ∈ l, p.number ≠ o.number) →
        l.map (fun p => if p.number = o.number then { p with inquiry := i } else p) = l := by
      intro l hl
      refine (List.map_congr_left fun p hp => ?_).trans (List.map_id l)
      exact if_neg (hl p hp)
    rw [put_of_not_ready hready, hsplit, List.map_append, List.map_cons, if_pos rfl,
      hsame done hdone, hsame rest hrest]

theorem put_put {number : Nat} {i : Inquiry} (h : i.ready? s.now = none) (b b' : Backend)
    (i' : Inquiry) : (s.put number b i).put number b' i' = s.put number b' i' := by
  have hnumber : ∀ o : OpenQuery,
      (if o.number = number then { o with inquiry := i } else o).number = o.number := by
    intro o
    split <;> rfl
  rw [put_of_not_ready h]
  cases hready : i'.ready? s.now with
  | some reply =>
    rw [put_of_ready hready, put_of_ready (s := { s with backend := b, waiting := _ }) hready]
    have hfilter : (s.waiting.map fun o =>
        if o.number = number then { o with inquiry := i } else o).filter
          (fun o => o.number ≠ number) = s.waiting.filter fun o => o.number ≠ number := by
      rw [List.filter_map, Function.comp_def]
      simp only [hnumber]
      refine (List.map_congr_left fun o ho => ?_).trans (List.map_id _)
      exact if_neg (of_decide_eq_true (List.mem_filter.mp ho).2)
    simp only [hfilter]
  | none =>
    rw [put_of_not_ready hready,
      put_of_not_ready (s := { s with backend := b, waiting := _ }) hready]
    simp only [List.map_map, Function.comp_def, hnumber]
    congr 1
    refine List.map_congr_left fun o _ => ?_
    by_cases ho : o.number = number <;> simp [ho]

theorem Orderly.put_self (h : Orderly patience s) {done rest : List OpenQuery} {o : OpenQuery}
    (hsplit : s.waiting = done ++ o :: rest) :
    s.put o.number s.backend o.inquiry = s := by
  have hready : o.inquiry.ready? s.now = none := by
    have ho : o ∈ s.waiting := hsplit ▸ List.mem_append_right done List.mem_cons_self
    cases hi : o.inquiry with
    | sent | parked _ _ => rfl
    | replied due reply => exact absurd hi (h.unreplied o ho due reply)
  rw [put_of_split h.waiting_nodup hsplit, hready]
  show { s with waiting := done ++ o :: rest } = s
  rw [← hsplit]

/-- **One query runs by turns**, and nothing is written meanwhile. -/
theorem Orderly.runQuery_eq_after (fuel : Nat) (h : Orderly patience s)
    {done rest : List OpenQuery} {o : OpenQuery} (hsplit : s.waiting = done ++ o :: rest) :
    (∃ ts : List QueryTurn, s.after (ts.map (.turn o.number)) =
        s.put o.number (runQuery s.now fuel s.backend o).1
          (runQuery s.now fuel s.backend o).2.inquiry) ∧
      (runQuery s.now fuel s.backend o).2
        = { o with inquiry := (runQuery s.now fuel s.backend o).2.inquiry } := by
  induction fuel generalizing s o with
  | zero => exact ⟨⟨[], (h.put_self hsplit).symm⟩, rfl⟩
  | succ fuel ih =>
    cases hturns : o.inquiry.turns s.now s.backend.revision with
    | nil =>
      have hstay : runQuery s.now (fuel + 1) s.backend o = (s.backend, o) := by
        rw [runQuery, hturns]
      rw [hstay]
      exact ⟨⟨[], (h.put_self hsplit).symm⟩, rfl⟩
    | cons t more =>
      have ho : o ∈ s.waiting := hsplit ▸ List.mem_append_right done List.mem_cons_self
      have ht : t ∈ o.inquiry.turns s.now s.catalog.revision := by
        rw [h.backend_eq] at hturns
        have hrevision : (Backend.catalog s.catalog patience).revision = s.catalog.revision := rfl
        rw [← hrevision, hturns]
        exact List.mem_cons_self
      obtain ⟨c', i, hprogress, hto⟩ := turnTo_progress s.catalog patience s.now ht
      have hgo : runQuery s.now (fuel + 1) s.backend o
          = runQuery s.now fuel (.catalog c' patience) { o with inquiry := i } := by
        have hprogress' : s.backend.progress o.query s.now o.last o.inquiry t
            = (.catalog c' patience, i) := h.backend_eq ▸ hprogress
        simp only [runQuery, hturns, hprogress']
      have hstep : s.step (.turn o.number t) = s.put o.number (.catalog c' patience) i := by
        have ht' : t ∈ o.inquiry.turns s.now (Backend.catalog s.catalog patience).revision := ht
        simp only [Queries.step, h.open?_eq ho, h.backend_eq, if_pos ht', hprogress]
      rw [hgo]
      rcases hto.ready with ⟨a, rfl, hready⟩ | ⟨seen, giveUpAt, rfl, hready⟩
      · -- an answered query goes no further
        have hstay : runQuery s.now fuel (.catalog c' patience)
            { o with inquiry := .replied (some s.now) (.answer a) }
              = (.catalog c' patience, { o with inquiry := .replied (some s.now) (.answer a) }) := by
          cases fuel <;> rfl
        rw [hstay]
        exact ⟨⟨[t], hstep⟩, rfl⟩
      · have hput := put_of_split h.waiting_nodup hsplit (.catalog c' patience)
          (.parked seen giveUpAt)
        rw [hready] at hput
        have hnext : Orderly patience (s.put o.number (.catalog c' patience)
            (.parked seen giveUpAt)) := h.put (h.open?_eq ho) hto
        have hsplit' : (s.put o.number (.catalog c' patience) (.parked seen giveUpAt)).waiting
            = done ++ { o with inquiry := .parked seen giveUpAt } :: rest := by rw [hput]
        obtain ⟨⟨ts, hts⟩, hsame⟩ := ih hnext hsplit'
        rw [put_backend, put_now] at hts hsame
        refine ⟨⟨t :: ts, ?_⟩, hsame⟩
        rw [List.map_cons, after_cons, hstep]
        exact hts.trans (put_put hready _ _ _)

theorem Orderly.runAll_eq_after (h : Orderly patience s) {done todo : List OpenQuery}
    (hsplit : s.waiting = done ++ todo) :
    ∃ steps, s.after steps =
      { s with
        backend := (runAll s.now s.backend todo).1
        waiting := done ++ (runAll s.now s.backend todo).2.1
        answered := s.answered ++ (runAll s.now s.backend todo).2.2 } := by
  induction todo generalizing s done with
  | nil =>
    refine ⟨[], ?_⟩
    simp only [runAll, List.append_nil] at hsplit ⊢
    rw [← hsplit]
    rfl
  | cons o todo ih =>
    obtain ⟨⟨ts, hts⟩, hsame⟩ := h.runQuery_eq_after 3 hsplit
    have hnext := h.after (ts.map (.turn o.number))
    rw [hts] at hnext
    have hput := put_of_split h.waiting_nodup hsplit (runQuery s.now 3 s.backend o).1
      (runQuery s.now 3 s.backend o).2.inquiry
    cases hready : (runQuery s.now 3 s.backend o).2.inquiry.ready? s.now with
    | some reply =>
      rw [hready] at hput
      rw [hput] at hnext
      obtain ⟨steps, hsteps⟩ := ih hnext rfl
      refine ⟨ts.map (.turn o.number) ++ steps, ?_⟩
      rw [after_append, hts, hput, hsteps]
      have hnumber : (runQuery s.now 3 s.backend o).2.number = o.number := by rw [hsame]
      simp [runAll, hready, hnumber]
    | none =>
      rw [hready] at hput
      rw [hput] at hnext
      obtain ⟨steps, hsteps⟩ := ih hnext (List.append_cons done _ todo)
      refine ⟨ts.map (.turn o.number) ++ steps, ?_⟩
      rw [after_append, hts, hput, hsteps]
      simp [runAll, hready, ← hsame]

/-- **Letting everything run is a run.** -/
theorem Orderly.settle_eq_after (h : Orderly patience s) : ∃ steps, s.settle = s.after steps := by
  obtain ⟨steps, hsteps⟩ := h.runAll_eq_after (List.nil_append s.waiting).symm
  exact ⟨steps, hsteps.symm⟩

/-- The turns that a query at a revision can still take before it is answered or has to wait. -/
def turnsLeft (revision : Nat) : Inquiry → Nat
  | .sent => 2
  | .parked seen _ => if seen = revision then 1 else 2
  | .replied .. => 0

/-- A turn leaves fewer to take. -/
theorem TurnTo.turnsLeft_lt {c c' : Catalog} {now : Nat} {o : OpenQuery} {t : QueryTurn}
    {i : Inquiry} (h : TurnTo c patience now o t c' i) :
    turnsLeft c.revision i < turnsLeft c.revision o.inquiry := by
  cases h with
  | queued sent hqueued => rw [sent]; exact Nat.zero_lt_two
  | atOnce sent hqueued look => rw [sent]; exact Nat.zero_lt_two
  | parks sent hqueued look => rw [sent]; simp [turnsLeft]
  | told parked written look => rw [parked]; simp [turnsLeft, written]
  | waitsOn parked written look => rw [parked]; simp [turnsLeft, written]
  | gaveUp parked due =>
    rw [parked, turnsLeft, turnsLeft]
    split <;> omega

/-- A query that has run for as long as it could is at rest. -/
theorem rest_runQuery (patience : Option Nat) (now fuel : Nat) (c : Catalog) (o : OpenQuery)
    (hfuel : turnsLeft c.revision o.inquiry ≤ fuel) :
    ∃ c', (runQuery now fuel (.catalog c patience) o).1 = .catalog c' patience ∧
      c'.revision = c.revision ∧
      (runQuery now fuel (.catalog c patience) o).2.inquiry.turns now c.revision = [] := by
  induction fuel generalizing c o with
  | zero =>
    refine ⟨c, rfl, rfl, ?_⟩
    show o.inquiry.turns now c.revision = []
    cases hi : o.inquiry with
    | replied due reply => rfl
    | sent => simp [hi, turnsLeft] at hfuel
    | parked seen giveUpAt =>
      rw [hi, turnsLeft] at hfuel
      split at hfuel <;> omega
  | succ fuel ih =>
    cases hturns : o.inquiry.turns now c.revision with
    | nil =>
      have hstay : runQuery now (fuel + 1) (.catalog c patience) o = (.catalog c patience, o) := by
        have hturns' : o.inquiry.turns now (Backend.catalog c patience).revision = [] := hturns
        simp only [runQuery, hturns']
      rw [hstay]
      exact ⟨c, rfl, rfl, hturns⟩
    | cons t more =>
      have hturns' : o.inquiry.turns now (Backend.catalog c patience).revision = t :: more := hturns
      have ht : t ∈ o.inquiry.turns now c.revision := hturns ▸ List.mem_cons_self
      obtain ⟨c', i, hprogress, hto⟩ := turnTo_progress c patience now ht
      have hgo : runQuery now (fuel + 1) (.catalog c patience) o
          = runQuery now fuel (.catalog c' patience) { o with inquiry := i } := by
        simp only [runQuery, hturns', hprogress]
      have hless := hto.turnsLeft_lt
      have hrevision := hto.revision_eq
      have hfuel' : turnsLeft c'.revision i ≤ fuel := by
        rw [hrevision]
        omega
      obtain ⟨c'', hend, hsame, hrest⟩ := ih c' { o with inquiry := i } hfuel'
      rw [hgo]
      exact ⟨c'', hend, hsame.trans hrevision, hrevision ▸ hrest⟩

theorem rest_runAll (patience : Option Nat) (now : Nat) (c : Catalog) (todo : List OpenQuery) :
    ∃ c', (runAll now (.catalog c patience) todo).1 = .catalog c' patience ∧
      c'.revision = c.revision ∧
      ∀ o ∈ (runAll now (.catalog c patience) todo).2.1, o.inquiry.turns now c.revision = [] := by
  induction todo generalizing c with
  | nil => exact ⟨c, rfl, rfl, fun o ho => absurd ho List.not_mem_nil⟩
  | cons o todo ih =>
    have hfuel : turnsLeft c.revision o.inquiry ≤ 3 := by
      unfold turnsLeft
      split
      · decide
      · split <;> decide
      · decide
    obtain ⟨c₁, hend, hsame, hrest⟩ := rest_runQuery patience now 3 c o hfuel
    obtain ⟨c₂, hend', hsame', hrest'⟩ := ih c₁
    have hall : runAll now (.catalog c patience) (o :: todo) =
        match (runQuery now 3 (.catalog c patience) o).2.inquiry.ready? now with
        | some reply => ((runAll now (.catalog c₁ patience) todo).1,
            (runAll now (.catalog c₁ patience) todo).2.1,
            ⟨(runQuery now 3 (.catalog c patience) o).2.number, reply.toAnswer, now⟩
              :: (runAll now (.catalog c₁ patience) todo).2.2)
        | none => ((runAll now (.catalog c₁ patience) todo).1,
            (runQuery now 3 (.catalog c patience) o).2
              :: (runAll now (.catalog c₁ patience) todo).2.1,
            (runAll now (.catalog c₁ patience) todo).2.2) := by
      rw [← hend]
      rfl
    have hlast : ∀ p ∈ (runAll now (.catalog c₁ patience) todo).2.1,
        p.inquiry.turns now c.revision = [] := fun p hp => hsame ▸ hrest' p hp
    rw [hall]
    refine ⟨c₂, ?_, hsame'.trans hsame, ?_⟩
    · split <;> exact hend'
    · split
      · exact hlast
      · intro p hp
        rcases List.mem_cons.mp hp with rfl | hp
        · exact hrest
        · exact hlast p hp

/-- **When everything has run, nothing is left to happen** until something changes or a timer goes
off. -/
theorem Orderly.settle_atRest (h : Orderly patience s) :
    ∀ o ∈ s.settle.waiting, o.inquiry.turns s.settle.now s.settle.catalog.revision = [] := by
  obtain ⟨c', hend, hsame, hrest⟩ := rest_runAll patience s.now s.catalog s.waiting
  rw [← h.backend_eq] at hend hrest
  have hcatalog : s.settle.catalog = c' := by
    show (runAll s.now s.backend s.waiting).1.theCatalog = c'
    rw [hend]
    rfl
  intro o ho
  rw [hcatalog, hsame]
  exact hrest o ho

/-- **Letting the clock go on is a run.** -/
theorem Orderly.advance_eq_after (h : Orderly patience s) (ms : Nat) :
    ∃ steps, s.advance ms = s.after steps := by
  have hjump : ∀ s' m, (∃ steps, s' = s.after steps) → clockwork.now s' ≤ m →
      (∃ steps, clockwork.jump m s' = s.after steps) ∧
        clockwork.now (clockwork.jump m s') = m := by
    rintro s' m ⟨steps, rfl⟩ hm
    have hwait : (s.after steps).step (.wait (m - (s.after steps).now))
        = { s.after steps with now := m } := by
      have hsum : (s.after steps).now + (m - (s.after steps).now) = m := Nat.add_sub_cancel' hm
      show { s.after steps with now := (s.after steps).now + (m - (s.after steps).now) } = _
      rw [hsum]
    have horderly : Orderly patience { s.after steps with now := m } := by
      rw [← hwait]
      exact (h.after steps).step _
    obtain ⟨more, hmore⟩ := horderly.settle_eq_after
    refine ⟨⟨steps ++ .wait (m - (s.after steps).now) :: more, ?_⟩, rfl⟩
    rw [after_append, after_cons, hwait]
    exact hmore
  obtain ⟨steps, hsteps⟩ := h.settle_eq_after
  exact Clockwork.advanceTo_induction hjump _ ⟨steps, hsteps⟩ (Nat.le_add_right _ _)

end Driver

end Queries

end Switchboard
