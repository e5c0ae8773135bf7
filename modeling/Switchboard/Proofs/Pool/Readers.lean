import Switchboard.Proofs.Pool.Grace
/-!
# Many readers of one pool

A read takes two steps: the first looks under a shared lock, and only if that decides nothing does
the second look again under an exclusive one, and drop the entries. Between the two anything may
happen: lists, failures, other readers, the end of the pool. This file proves that the second look
makes up for it.

* `CrowdStep`, `Crowd.step`, `Crowd.after` — any number of readers and writers whose steps are
  interleaved in any way, on one clock; a step that its reader cannot take is skipped, so that every
  list of steps is a run.
* `Crowd.past` — the operations that the steps come to, each at its moment: a read stands where it
  was decided.
* `resolve_eq_read` — under the exclusive lock a read is decided as if it had only begun.
* `InOrder` — the invariant: the pool is what the operations in `past` make of it, and the failures
  over which entries were dropped are in order (`InOrder.step`, `InOrder.after`).
* `Serial` — what follows for the readers, after every run (`serial_after`).

Failures are told apart by their number, as the same failure may come again after a list.
-/

namespace Switchboard

open Pool

/-- What can happen to a pool that many read. -/
inductive CrowdStep
  /-- A snapshot arrives; building an endpoint comes to what the function says. -/
  | update (build : String → Build) (snapshot : Snapshot)
  | close
  | wait (ms : Nat)
  /-- A reader takes its first step. -/
  | glance (reader : Nat)
  /-- A reader whose first step decided nothing takes its second. -/
  | resolve (reader : Nat)

structure Doubt where
  reader : Nat
  /-- The number of the failure that it saw, past the grace period. -/
  saw : Nat
  deriving DecidableEq, Repr, Inhabited

/-- A second step that dropped the entries. -/
structure Purge extends Doubt where
  /-- The number of the failure that was pending then. -/
  cause : Nat
  deriving DecidableEq, Repr, Inhabited

/-- A pool and its readers. -/
structure Crowd where
  pool : Pool
  now : Nat := 0
  doubts : List Doubt := []
  /-- How many failures were noted so far, the pending one included. -/
  failures : Nat := 0
  /-- The operations so far, with their moments. -/
  past : List (Nat × Op) := []
  events : List PoolEvent := []
  /-- The second steps that dropped the entries, oldest first. -/
  purges : List Purge := []

namespace Crowd

def start (grace : Option Duration) : Crowd := { pool := .empty grace }

/-- What a reader is in doubt about, if it is between its steps. -/
def doubt? (r : Crowd) (reader : Nat) : Option Doubt := r.doubts.find? (·.reader = reader)

/-- What is left when an operation is done at this moment: the pool, and what that did to the
outside. -/
def did (r : Crowd) (op : Op) (outcome : Pool × List PoolEvent) : Crowd :=
  { r with
    pool := outcome.1
    failures := if r.pool.pending.isNone && outcome.1.pending.isSome then r.failures + 1
      else r.failures
    past := r.past ++ [(r.now, op)]
    events := r.events ++ outcome.2 }

/-- Does the second step of a read drop the entries now? -/
def purging (r : Crowd) : Bool := !r.pool.purged && (r.pool.resolve r.now).1.purged

/-- A reader's doubt is settled, by a second step that dropped the entries or did not. -/
def settle (r : Crowd) (d : Doubt) (purged : Bool) : Crowd :=
  { r with
    doubts := r.doubts.filter (·.reader ≠ d.reader)
    purges := if purged then r.purges ++ [{ d with cause := r.failures }] else r.purges }

def step (r : Crowd) : CrowdStep → Crowd
  | .update build snapshot => r.did (.update build snapshot) (r.pool.update build r.now snapshot)
  | .close => r.did .close r.pool.close
  | .wait ms => { r with now := r.now + ms }
  | .glance reader =>
    match r.doubt? reader, r.pool.glance r.now with
    | some _, _ => r
    | none, some _ => r.did .read (r.pool, [])
    | none, none => { r with doubts := ⟨reader, r.failures⟩ :: r.doubts }
  | .resolve reader =>
    match r.doubt? reader with
    | none => r
    | some d =>
      (r.did .read ((r.pool.resolve r.now).1, (r.pool.resolve r.now).2.1)).settle d r.purging

def after (r : Crowd) (steps : List CrowdStep) : Crowd := steps.foldl step r

/-- What a step hands to its reader, if it decides. -/
def answer? (r : Crowd) : CrowdStep → Option Reading
  | .glance reader => if (r.doubt? reader).isNone then r.pool.glance r.now else none
  | .resolve reader => (r.doubt? reader).map fun _ => (r.pool.resolve r.now).2.2
  | _ => none

end Crowd

/-! ## The two steps of a read -/

namespace Pool

/-- The second step is decided as if the read had only begun. -/
theorem resolve_eq_read (p : Pool) (now : Nat) : p.resolve now = p.read now := by
  rcases read_cases p now with ⟨hs, hr⟩ | ⟨why, hwhy, hs, hp, hr⟩ | ⟨why, hwhy, hs, hp, hr⟩
  · rw [hr, resolve, if_pos hs]
  · rw [hr]
    simp [resolve, hs, hp, hwhy]
  · rw [hr]
    simp [resolve, hs, hp, hwhy, reconcile_nil]

theorem read_of_glance {p : Pool} {now : Nat} {reading : Reading}
    (h : p.glance now = some reading) : p.read now = (p, [], reading) := by
  rw [read, h]

/-- A pool in order hands its list out, unless a failure is pending whose moment has come. -/
theorem Sound.isServing_eq_false_iff {p : Pool} {events : List PoolEvent} (h : Sound p events)
    (now : Nat) : p.isServing now = false ↔
      p.pending.isSome = true ∧ ∃ d, p.deadline = some d ∧ d ≤ now := by
  have hdeadline := h.deadline
  unfold isServing
  cases hp : p.pending with
  | none => simp
  | some why =>
    rw [hp] at hdeadline
    obtain ⟨d, hd⟩ := Option.isSome_iff_exists.mp hdeadline.symm
    simp [hd]

/-- The first step decides nothing exactly if it is the first to see that a failure counts. -/
theorem glance_eq_none_iff (p : Pool) (now : Nat) :
    p.glance now = none ↔ p.isServing now = false ∧ p.purged = false := by
  unfold glance
  cases hs : p.isServing now with
  | true => simp
  | false =>
    obtain ⟨why, hwhy⟩ := exists_pending_of_not_isServing hs
    cases hp : p.purged <;> simp [hwhy]

/-- A read marks the entries as dropped exactly if the list may not be handed out and they were
not dropped before. -/
theorem purged_read (p : Pool) (now : Nat) :
    (!p.purged && (p.read now).1.purged) = (!p.isServing now && !p.purged) := by
  rcases read_cases p now with ⟨hs, hr⟩ | ⟨why, -, hs, hp, hr⟩ | ⟨why, -, hs, hp, hr⟩
  · rw [hr, hs, Bool.not_and_self]
    rfl
  · rw [hr, hp]
    simp
  · rw [hr, hs, hp]
    rfl

theorem pending_read (p : Pool) (now : Nat) : (p.read now).1.pending = p.pending := by
  rcases read_cases p now with ⟨-, hr⟩ | ⟨why, -, -, -, hr⟩ | ⟨why, -, -, -, hr⟩ <;> rw [hr]

/-- While one failure stays pending, entries that were dropped stay so. -/
theorem purged_perform {p : Pool} (now : Nat) (op : Op) (hpending : p.pending.isSome = true)
    (hnext : (p.perform now op).1.pending.isSome = true) (hpurged : p.purged = true) :
    (p.perform now op).1.purged = true := by
  cases op with
  | close => exact hpurged
  | read =>
    rw [perform_read_of_idle (.inr hpurged)]
    exact hpurged
  | update build snapshot =>
    cases snapshot with
    | failure why =>
      rw [perform_failure_of_ne (.inr (Option.isSome_iff_ne_none.mp hpending))]
      exact hpurged
    | instances addrs =>
      rw [perform] at hnext ⊢
      cases hclosed : p.closed with
      | true =>
        rw [update_of_closed hclosed]
        exact hpurged
      | false =>
        rw [update_of_open hclosed] at hnext
        exact absurd hnext Bool.false_ne_true

end Pool

/-! ## The invariant of a crowd -/

/-- The steps so far come to the operations in `past`, one after the other, and no two times were
the entries dropped over the same failure. -/
structure InOrder (grace : Option Duration) (r : Crowd) : Prop where
  run : (empty grace).performAll r.past = (r.pool, r.events)
  clock : (r.past.map Prod.fst ++ [r.now]).Pairwise (· ≤ ·)
  saw : ∀ d ∈ r.doubts, d.saw ≤ r.failures
  /-- Entries are dropped over a failure that the reader saw, or over a later one. -/
  ahead : ∀ x ∈ r.purges, x.saw ≤ x.cause ∧ x.cause ≤ r.failures
  ascending : r.purges.Pairwise fun x y => x.cause < y.cause
  /-- If entries were dropped over the failure that is pending, the pool knows. -/
  known : ∀ x ∈ r.purges, x.cause = r.failures → r.pool.pending.isSome = true →
    r.pool.purged = true

namespace InOrder

variable {grace : Option Duration} {r : Crowd}

theorem sound (h : InOrder grace r) : Sound r.pool r.events := by
  have hsound := sound_performAll (sound_empty grace) r.past
  rw [h.run] at hsound
  exact hsound

theorem start (grace : Option Duration) : InOrder grace (Crowd.start grace) where
  run := rfl
  clock := List.pairwise_singleton ..
  saw := fun _ hd => nomatch hd
  ahead := fun _ hx => nomatch hx
  ascending := List.Pairwise.nil
  known := fun _ hx => nomatch hx

theorem wait (h : InOrder grace r) (ms : Nat) : InOrder grace { r with now := r.now + ms } := by
  obtain ⟨hpast, -, hnow⟩ := List.pairwise_append.mp h.clock
  refine { h with clock := List.pairwise_append.mpr ⟨hpast, List.pairwise_singleton .., ?_⟩ }
  intro t ht t' ht'
  rw [List.mem_singleton.mp ht']
  exact Nat.le_trans (hnow t ht r.now (List.mem_singleton_self _)) (Nat.le_add_right ..)

theorem doubt (h : InOrder grace r) (reader : Nat) :
    InOrder grace { r with doubts := ⟨reader, r.failures⟩ :: r.doubts } := by
  refine { h with saw := fun d hd => ?_ }
  rcases List.mem_cons.mp hd with rfl | hd
  · exact Nat.le_refl _
  · exact h.saw d hd

theorem did (h : InOrder grace r) (op : Op) : InOrder grace (r.did op (r.pool.perform r.now op)) := by
  have hmore : r.failures ≤ (r.did op (r.pool.perform r.now op)).failures := by
    show _ ≤ if _ then _ else _
    split
    · exact Nat.le_succ _
    · exact Nat.le_refl _
  refine { run := ?_, clock := ?_, saw := fun d hd => Nat.le_trans (h.saw d hd) hmore,
           ahead := fun x hx => ⟨(h.ahead x hx).1, Nat.le_trans (h.ahead x hx).2 hmore⟩,
           ascending := h.ascending, known := fun x hx hcause hpending => ?_ }
  · show (empty grace).performAll (r.past ++ [(r.now, op)]) = _
    rw [performAll_append, h.run, performAll_cons]
    show (_, r.events ++ (_ ++ [])) = _
    rw [List.append_nil]
    rfl
  · show ((r.past ++ [(r.now, op)]).map Prod.fst ++ [r.now]).Pairwise (· ≤ ·)
    rw [List.map_append]
    refine List.pairwise_append.mpr ⟨h.clock, List.pairwise_singleton .., fun t ht t' ht' => ?_⟩
    rw [List.mem_singleton.mp ht']
    rcases List.mem_append.mp ht with ht | ht
    · exact (List.pairwise_append.mp h.clock).2.2 t ht r.now (List.mem_singleton_self _)
    · exact Nat.le_of_eq (List.mem_singleton.mp ht)
  · -- no failure was noted just now, or else it is a later one than any over which entries went
    change x.cause = if _ then _ else _ at hcause
    change (r.pool.perform r.now op).1.pending.isSome = true at hpending
    cases hp : r.pool.pending.isSome with
    | false =>
      rw [Option.not_isSome_iff_eq_none.mp (Bool.eq_false_iff.mp hp), hpending] at hcause
      exact absurd (h.ahead x hx).2 (by rw [hcause]; exact Nat.not_succ_le_self _)
    | true =>
      rw [← Option.not_isSome, hp] at hcause
      exact purged_perform r.now op hp hpending (h.known x hx hcause hp)

/-- Whoever drops entries does so over a failure over which none were dropped. -/
theorem over_lt_of_purging (h : InOrder grace r) (hpurging : r.purging = true) :
    ∀ x ∈ r.purges, x.cause < r.failures := by
  rw [Crowd.purging, resolve_eq_read, purged_read, Bool.and_eq_true, Bool.not_eq_true',
    Bool.not_eq_true'] at hpurging
  intro x hx
  refine Nat.lt_of_le_of_ne (h.ahead x hx).2 fun hcause => ?_
  obtain ⟨why, hwhy⟩ := exists_pending_of_not_isServing hpurging.1
  have hknown := h.known x hx hcause (by rw [hwhy]; rfl)
  exact nomatch hpurging.2.symm.trans hknown

theorem settle (h : InOrder grace r) {d : Doubt} (hsaw : d.saw ≤ r.failures) {purged : Bool}
    (hpurged : purged = true → r.pool.purged = true ∧ ∀ x ∈ r.purges, x.cause < r.failures) :
    InOrder grace (r.settle d purged) := by
  cases purged with
  | false => exact { h with saw := fun d hd => h.saw d (List.mem_of_mem_filter hd) }
  | true =>
    obtain ⟨hknown, hcause⟩ := hpurged rfl
    refine { h with saw := fun d hd => h.saw d (List.mem_of_mem_filter hd), ahead := fun x hx => ?_,
                    ascending := ?_, known := fun _ _ _ _ => hknown }
    · rcases List.mem_append.mp hx with hx | hx
      · exact h.ahead x hx
      · rw [List.mem_singleton.mp hx]
        exact ⟨hsaw, Nat.le_refl _⟩
    · refine List.pairwise_append.mpr ⟨h.ascending, List.pairwise_singleton .., fun x hx y hy => ?_⟩
      rw [List.mem_singleton.mp hy]
      exact hcause x hx

theorem resolve (h : InOrder grace r) {d : Doubt} (hd : d ∈ r.doubts) :
    InOrder grace ((r.did .read ((r.pool.resolve r.now).1, (r.pool.resolve r.now).2.1)).settle d
      r.purging) := by
  have hfailures : (r.did .read ((r.pool.read r.now).1, (r.pool.read r.now).2.1)).failures
      = r.failures := by
    show (if _ then _ else _) = _
    rw [pending_read, ← Option.not_isSome, Bool.not_and_self]
    rfl
  rw [resolve_eq_read]
  refine (h.did .read).settle (Nat.le_trans (h.saw d hd) (Nat.le_of_eq hfailures.symm)) ?_
  intro hpurging
  refine ⟨?_, fun x hx => Nat.lt_of_lt_of_eq (h.over_lt_of_purging hpurging x hx) hfailures.symm⟩
  rw [Crowd.purging, resolve_eq_read, Bool.and_eq_true] at hpurging
  exact hpurging.2

theorem step (h : InOrder grace r) (s : CrowdStep) : InOrder grace (r.step s) := by
  cases s with
  | update build snapshot => exact h.did (.update build snapshot)
  | close => exact h.did .close
  | wait ms => exact h.wait ms
  | glance reader =>
    rw [Crowd.step]
    split
    · exact h
    · rename_i reading _ hglance
      have hread : r.pool.perform r.now .read = (r.pool, []) := by
        rw [perform, read_of_glance hglance]
      have hdid := h.did .read
      rw [hread] at hdid
      exact hdid
    · exact h.doubt reader
  | resolve reader =>
    rw [Crowd.step]
    split
    · exact h
    · rename_i d hd
      exact h.resolve (List.mem_of_find?_eq_some hd)

theorem after (h : InOrder grace r) (steps : List CrowdStep) : InOrder grace (r.after steps) := by
  induction steps generalizing r with
  | nil => exact h
  | cons s rest ih => exact ih (h.step s)

end InOrder

/-! ## What it comes to for readers -/

namespace Pool

/-- In an outage whose grace period is not over, a read changes nothing. -/
theorem read_amid_of_early {good : Pool} {outage : Option Outage} {t : Nat}
    (hcalm : good.pending = none)
    (hlate : ∀ o, outage = some o → o.noticed = true → o.expiry ≤ t)
    (hearly : ∀ o, outage = some o → t < o.expiry) :
    (good.amid outage).1.read t = ((good.amid outage).1, [], .ok good.served) := by
  cases outage with
  | none => exact read_of_calm hcalm
  | some o =>
    have hquiet : ¬o.noticed = true := fun hnoticed =>
      Nat.not_lt_of_ge (hlate o rfl hnoticed) (hearly o rfl)
    rw [amid, if_neg hquiet]
    exact read_failing o.why (hearly o rfl)

theorem Sound.count_freed {p : Pool} {events : List PoolEvent} (h : Sound p events) :
    ∀ e ∈ granted events, (freed events).count e = if e ∈ handlesOf p.held then 0 else 1 := by
  intro e he
  split
  · rename_i hheld
    exact List.count_eq_zero.mpr ((h.mem_handlesOf_held e).mp hheld).2
  · rename_i hheld
    have hfreed : e ∈ freed events := by
      by_contra hfreed
      exact hheld ((h.mem_handlesOf_held e).mpr ⟨he, hfreed⟩)
    exact List.count_eq_one_of_mem h.ownership.freed_nodup hfreed

end Pool

/-- What holds of a pool and its readers, however their steps are interleaved. -/
structure Serial (grace : Option Duration) (r : Crowd) : Prop where
  /-- The pool, and what was done to the outside, is what the operations make of an empty pool, one
  after the other. -/
  run : (empty grace).performAll r.past = (r.pool, r.events)
  /-- No two readers drop the entries over the same failure: who does so later does it over a later
  failure. It is the one that is pending at the second step, which decides, ... -/
  purged_once : r.purges.Pairwise fun x y => x.cause < y.cause
  /-- ... and that is the failure that the reader saw in its first step, or a later one. So two readers
  that saw the same failure may both drop entries, but only if a list came in between and was followed by
  another failure: the one drops those from before the list, the other those of the list. -/
  saw_le : ∀ x ∈ r.purges, x.saw ≤ x.cause
  /-- Every handle handed out was released exactly once, unless its entry is still there. -/
  released_once : ∀ e ∈ granted r.events,
    (freed r.events).count e = if e ∈ handlesOf r.pool.held then 0 else 1
  /-- No other handle was released. -/
  granted_of_freed : ∀ e ∈ freed r.events, e ∈ granted r.events
  /-- A reader is in doubt after its first step exactly if a failure is pending whose moment has
  come, and the entries were not dropped yet. -/
  doubt_iff : r.pool.glance r.now = none ↔ r.pool.purged = false ∧ r.pool.pending.isSome = true ∧
    ∃ d, r.pool.deadline = some d ∧ d ≤ r.now
  /-- Whichever of its steps decides, a reader gets what a read of one step would get. -/
  answer_eq : ∀ s reading, r.answer? s = some reading → reading = (r.pool.read r.now).2.2
  /-- A failure that is reported is the pending one, and its moment has come. -/
  error : ∀ s why, r.answer? s = some (.error why) →
    r.pool.pending = some why ∧ ∃ d, r.pool.deadline = some d ∧ d ≤ r.now
  /-- A list is handed out only while it may be. -/
  list : ∀ s l, r.answer? s = some (.ok l) → r.pool.isServing r.now = true ∧ l = r.pool.served
  /-- Else there is a failure to report, so no reader gets an empty list in its place. -/
  reported : r.pool.isServing r.now = false →
    ∃ why, r.pool.pending = some why ∧ (r.pool.resolve r.now).2.2 = .error why
  /-- A second step that does not drop the entries leaves everything as it is. -/
  idle : r.purging = false → (r.pool.resolve r.now).1 = r.pool ∧ (r.pool.resolve r.now).2.1 = []
  /-- A second step after a list that the pool took, without another list or the end of the pool in
  between, yields that list and touches none of its entries, unless a failure that came since counts
  by now; in that case it yields the first such failure. -/
  current : ∀ before t build addrs since,
    r.past = before ++ (t, .update build (.instances addrs)) :: since → Quiet since →
    ((empty grace).performAll before).1.closed = false →
    let good := ((empty grace).performAll (before ++ [(t, .update build (.instances addrs))])).1
    (r.pool.resolve r.now).2.2 = due good.served r.now (outage? grace since) ∧
      ((∀ o, outage? grace since = some o → r.now < o.expiry) →
        r.pool.resolve r.now = (r.pool, [], .ok good.served))
  /-- After the end of the pool there is nothing left to hand out or to release. -/
  ended : r.pool.closed = true → r.pool.held = [] ∧ r.pool.served = []

namespace InOrder

variable {grace : Option Duration} {r : Crowd}

/-- Whichever step decides, the reader gets what a read gets. -/
theorem answer_eq {s : CrowdStep} {reading : Reading} (h : r.answer? s = some reading) :
    reading = (r.pool.read r.now).2.2 := by
  cases s with
  | update build snapshot => exact nomatch h
  | close => exact nomatch h
  | wait ms => exact nomatch h
  | glance reader =>
    rw [Crowd.answer?] at h
    split at h
    · rw [read_of_glance h]
    · exact nomatch h
  | resolve reader =>
    obtain ⟨d, -, hreading⟩ := Option.map_eq_some_iff.mp h
    rw [← hreading, resolve_eq_read]

/-- The list that the pool took last decides, with the failures since. -/
theorem current (h : InOrder grace r) {before since : List (Nat × Op)} {t : Nat}
    {build : String → Build} {addrs : List String}
    (hpast : r.past = before ++ (t, .update build (.instances addrs)) :: since)
    (hquiet : Quiet since) (hopen : ((empty grace).performAll before).1.closed = false) :
    let good := ((empty grace).performAll (before ++ [(t, .update build (.instances addrs))])).1
    (r.pool.resolve r.now).2.2 = due good.served r.now (outage? grace since) ∧
      ((∀ o, outage? grace since = some o → r.now < o.expiry) →
        r.pool.resolve r.now = (r.pool, [], .ok good.served)) := by
  intro good
  have hfresh : Fresh grace good := by
    have hlist : Fresh _ (((empty grace).performAll before).1.perform t
        (.update build (.instances addrs))).1 := fresh_perform_list hopen t rfl
    rw [grace_performAll] at hlist
    show Fresh grace ((empty grace).performAll (before ++ [_])).1
    rw [performAll_append]
    exact hlist
  have hpool : r.pool = (good.amid (outage? grace since)).1 := by
    have hamid := performAll_eq_amid hfresh.pending hfresh.purged hfresh.closed hquiet
    rw [hfresh.grace] at hamid
    have hrun := h.run
    rw [hpast, List.append_cons, performAll_append] at hrun
    rw [← hamid]
    exact (congrArg Prod.fst hrun).symm
  have hlate : ∀ o, outage? grace since = some o → o.noticed = true → o.expiry ≤ r.now := by
    intro o ho hnoticed
    refine over_le_of_noticed ho (fun op hop => ?_) hnoticed
    have hmem : op ∈ r.past := by
      rw [hpast]
      exact List.mem_append_right _ (List.mem_cons_of_mem _ hop)
    exact (List.pairwise_append.mp h.clock).2.2 op.1 (List.mem_map_of_mem hmem) r.now
      (List.mem_singleton_self _)
  rw [resolve_eq_read, hpool]
  exact ⟨(read_amid hfresh.pending hfresh.purged hlate).1, fun hearly =>
    read_amid_of_early hfresh.pending hlate hearly⟩

theorem serial (h : InOrder grace r) : Serial grace r := by
  refine { run := h.run, purged_once := h.ascending, saw_le := fun x hx => (h.ahead x hx).1,
           released_once := h.sound.count_freed,
           granted_of_freed := h.sound.ownership.granted_of_freed, doubt_iff := ?_,
           answer_eq := fun s reading => answer_eq, error := fun s why hanswer => ?_,
           list := fun s l hanswer => ?_, reported := fun hserving => ?_, idle := fun hpurging => ?_,
           current := fun before t build addrs since => h.current,
           ended := fun hclosed => ?_ }
  · rw [glance_eq_none_iff, h.sound.isServing_eq_false_iff, and_comm]
  · have hreading := answer_eq hanswer
    rcases read_cases r.pool r.now with
      ⟨-, hr⟩ | ⟨why', hwhy, hserving, -, hr⟩ | ⟨why', hwhy, hserving, -, hr⟩
    · rw [hr] at hreading
      exact nomatch hreading
    all_goals
      rw [hr] at hreading
      rw [Except.error.inj hreading]
      exact ⟨hwhy, (h.sound.isServing_eq_false_iff r.now).mp hserving |>.2⟩
  · have hreading := answer_eq hanswer
    rcases read_cases r.pool r.now with ⟨hserving, hr⟩ | ⟨why, -, -, -, hr⟩ | ⟨why, -, -, -, hr⟩
    · rw [hr] at hreading
      exact ⟨hserving, Except.ok.inj hreading⟩
    all_goals
      rw [hr] at hreading
      exact nomatch hreading
  · rw [resolve_eq_read]
    rcases read_cases r.pool r.now with ⟨hyes, -⟩ | ⟨why, hwhy, -, -, hr⟩ | ⟨why, hwhy, -, -, hr⟩
    · exact nomatch hserving.symm.trans hyes
    all_goals exact ⟨why, hwhy, by rw [hr]⟩
  · rw [Crowd.purging, resolve_eq_read, purged_read] at hpurging
    rw [resolve_eq_read]
    rcases read_cases r.pool r.now with ⟨-, hr⟩ | ⟨why, -, -, -, hr⟩ | ⟨why, -, hno, hpurged, -⟩
    · exact ⟨by rw [hr], by rw [hr]⟩
    · exact ⟨by rw [hr], by rw [hr]⟩
    · rw [hno, hpurged] at hpurging
      exact nomatch hpurging
  · have hheld := h.sound.closed hclosed
    exact ⟨hheld, by rw [h.sound.served, hheld]; rfl⟩

end InOrder

/-- Two readers are in doubt over one failure. The first drops the entry of `a`; a list comes before
the second looks again, and is what it gets. -/
example :
    let r := (Crowd.start (some (.ofMillis 1))).after
      [.update (fun _ => .built true) (.instances ["a"]),
        .update (fun _ => .refused) (.failure (.transport "down")), .wait 1, .glance 7, .glance 8,
        .resolve 7, .update (fun _ => .built true) (.instances ["b"])]
    r.purges = [⟨⟨7, 1⟩, 1⟩] ∧ freed r.events = [⟨1, "a"⟩] ∧
      r.answer? (.resolve 8) = some (.ok [⟨2, "b"⟩]) := by
  refine ⟨?_, ?_, rfl⟩ <;> decide

end Switchboard
