import Mathlib.Data.List.DropRight
import Switchboard.Proofs.Pool.Ownership
/-!
# The grace window of a pool

While discovery fails, a pool serves the last good list for its grace period, counted from the
first failure after that list. From then on it reports that failure: the first read to find the
period over drops every entry, and no later one drops anything.

* `untilList`, `sinceList` — a run is cut after the last list that came.
* `Outage`, `outage?` — the first failure since, the moment from which it counts, and what happened
  after it; `Outage.noticed` — did a read find the period over?
* `performAll_of_calm`, `performAll_failing`, `performAll_of_purged` — what the passing of time
  can do to a pool without a failure, to one within its grace period or past it, and to one whose
  entries were dropped.
* `Graceful` — the law, for a read after any run.
-/

namespace Switchboard

namespace Pool

/-! ## What a run leads to -/

namespace Op

def isList : Op → Bool
  | .update _ (.instances _) => true
  | _ => false

def failure? : Op → Option DiscoveryFailure
  | .update _ (.failure why) => some why
  | _ => none

def isRead : Op → Bool
  | .read => true
  | _ => false

def isClose : Op → Bool
  | .close => true
  | _ => false

end Op

/-- A run up to the last list that came; nothing if none came. -/
def untilList (ops : List (Nat × Op)) : List (Nat × Op) := ops.rdropWhile fun o => !o.2.isList

/-- What happened after the last list. -/
def sinceList (ops : List (Nat × Op)) : List (Nat × Op) := ops.rtakeWhile fun o => !o.2.isList

/-- The first failure in a run, with its moment and what happened after it. -/
def firstFailure : List (Nat × Op) → Option (Nat × DiscoveryFailure × List (Nat × Op))
  | [] => none
  | (now, op) :: rest =>
    match op.failure? with
    | some why => some (now, why, rest)
    | none => firstFailure rest

/-- A failure that a pool does not ignore. -/
structure Outage where
  expiry : Nat
  why : DiscoveryFailure
  /-- What happened after it came. -/
  later : List (Nat × Op)

/-- The outage that a run leads to: the first failure, if failures are not ignored. -/
def outage? (grace : Option Duration) (ops : List (Nat × Op)) : Option Outage :=
  match grace, firstFailure ops with
  | some grace, some (now, why, later) => some ⟨now + grace.ticks, why, later⟩
  | _, _ => none

/-- Did a read find that the grace period was over? -/
def Outage.noticed (o : Outage) : Bool := o.later.any fun op => op.2.isRead && o.expiry ≤ op.1

/-- The pool with a failure pending that counts from a moment on. -/
def failing (p : Pool) (why : DiscoveryFailure) (expiry : Nat) : Pool :=
  { p with pending := some why, deadline := some expiry }

def dropped (p : Pool) : Pool := { p with purged := true, held := [], served := [] }

/-- What an outage leaves of a pool, with what that did to the outside: its first failure is
pending, and if a read noticed that the grace period was over, every entry is dropped. -/
def amid (p : Pool) : Option Outage → Pool × List PoolEvent
  | none => (p, [])
  | some o =>
    if o.noticed then ((p.failing o.why o.expiry).dropped, releasesOf p.held [])
    else (p.failing o.why o.expiry, [])

/-- Neither a list comes, nor is the pool closed. -/
def Quiet (ops : List (Nat × Op)) : Prop :=
  ∀ o ∈ ops, o.2.isList = false ∧ o.2.isClose = false

/-! ## The passing of time -/

theorem Quiet.cases {o : Nat × Op} {rest : List (Nat × Op)} (h : Quiet (o :: rest)) :
    (∃ build why, o.2 = .update build (.failure why)) ∨ o.2 = .read := by
  obtain ⟨hlist, hclose⟩ := h o List.mem_cons_self
  cases hop : o.2 with
  | read => exact .inr rfl
  | close => rw [hop] at hclose; exact nomatch hclose
  | update build snapshot =>
    cases snapshot with
    | failure why => exact .inl ⟨build, why, rfl⟩
    | instances addrs => rw [hop] at hlist; exact nomatch hlist

theorem Quiet.tail {o : Nat × Op} {rest : List (Nat × Op)} (h : Quiet (o :: rest)) :
    Quiet rest := fun o ho => h o (List.mem_cons_of_mem _ ho)

theorem performAll_cons (p : Pool) (o : Nat × Op) (ops : List (Nat × Op)) :
    p.performAll (o :: ops)
      = (((p.perform o.1 o.2).1.performAll ops).1,
          (p.perform o.1 o.2).2 ++ ((p.perform o.1 o.2).1.performAll ops).2) := rfl

theorem performAll_cons_of_silent {p q : Pool} {o : Nat × Op} (h : p.perform o.1 o.2 = (q, []))
    (ops : List (Nat × Op)) : p.performAll (o :: ops) = q.performAll ops := by
  rw [performAll_cons, h]
  rfl

section Idle

variable {p : Pool} {now : Nat}

/-- A failure that is ignored, or not the first, does nothing. -/
theorem perform_failure_of_ne {build : String → Build} {why : DiscoveryFailure}
    (h : p.grace = none ∨ p.pending ≠ none) :
    p.perform now (.update build (.failure why)) = (p, []) := by
  show (p.noteFailure now why, []) = (p, [])
  unfold noteFailure
  split
  · rename_i _ _ _ hgrace _ hpending
    rcases h with h | h
    · rw [h] at hgrace
      exact nomatch hgrace
    · exact absurd hpending h
  · rfl

theorem perform_failure_of_eq {build : String → Build} {why : DiscoveryFailure} {grace : Duration}
    (hgrace : p.grace = some grace) (hopen : p.closed = false) (hcalm : p.pending = none) :
    p.perform now (.update build (.failure why))
      = (p.failing why (now + grace.ticks), []) := by
  show (p.noteFailure now why, []) = _
  simp only [noteFailure, failing, hgrace, hopen, hcalm]

/-- A read while the list may be handed out, or after the entries were dropped, does nothing. -/
theorem perform_read_of_idle (h : p.isServing now = true ∨ p.purged = true) :
    p.perform now .read = (p, []) := by
  show ((p.read now).1, (p.read now).2.1) = _
  rcases read_cases p now with ⟨-, hr⟩ | ⟨why, -, -, -, hr⟩ | ⟨why, -, hserving, hpurged, -⟩
  · rw [hr]
  · rw [hr]
  · rw [hserving, hpurged] at h
    exact h.elim nofun nofun

/-- The first read past the grace period drops every entry. -/
theorem perform_read_of_over (hserving : p.isServing now = false) (hpurged : p.purged = false) :
    p.perform now .read
      = (p.dropped, releasesOf p.held []) := by
  show ((p.read now).1, (p.read now).2.1) = _
  rcases read_cases p now with ⟨h, -⟩ | ⟨why, -, -, h, -⟩ | ⟨why, -, -, -, hr⟩
  · exact nomatch hserving.symm.trans h
  · exact nomatch hpurged.symm.trans h
  · rw [hr]
    rfl

end Idle

section Phases

variable {p : Pool} {ops : List (Nat × Op)}

/-- Without a failure, or if failures are ignored, nothing happens to a pool. -/
theorem performAll_of_calm (hcalm : p.pending = none) (hquiet : Quiet ops)
    (h : p.grace = none ∨ firstFailure ops = none) : p.performAll ops = (p, []) := by
  induction ops with
  | nil => rfl
  | cons o rest ih =>
    -- each operation leaves the pool as it is, so the induction is over the same pool
    have hidle : p.perform o.1 o.2 = (p, []) ∧ (p.grace = none ∨ firstFailure rest = none) := by
      rcases hquiet.cases with ⟨build, why, hop⟩ | hop
      · have hgrace : p.grace = none := by
          refine h.resolve_right fun hnone => ?_
          simp only [firstFailure, hop, Op.failure?] at hnone
          exact nomatch hnone
        rw [hop]
        exact ⟨perform_failure_of_ne (.inl hgrace), .inl hgrace⟩
      · rw [hop]
        refine ⟨perform_read_of_idle (.inl (by simp [isServing, hcalm])), h.imp_right ?_⟩
        intro hnone
        simpa only [firstFailure, hop, Op.failure?] using hnone
    rw [performAll_cons_of_silent hidle.1, ih hquiet.tail hidle.2]

/-- Nothing happens any more to a pool whose entries were dropped. -/
theorem performAll_of_purged (hpending : p.pending ≠ none) (hpurged : p.purged = true)
    (hquiet : Quiet ops) : p.performAll ops = (p, []) := by
  induction ops with
  | nil => rfl
  | cons o rest ih =>
    have hidle : p.perform o.1 o.2 = (p, []) := by
      rcases hquiet.cases with ⟨build, why, hop⟩ | hop
      · rw [hop]
        exact perform_failure_of_ne (.inr hpending)
      · rw [hop]
        exact perform_read_of_idle (.inr hpurged)
    rw [performAll_cons_of_silent hidle, ih hquiet.tail]

/-- With a failure pending, the first read past its deadline drops every entry, and nothing else
happens. -/
theorem performAll_failing (why : DiscoveryFailure) (expiry : Nat) (hpurged : p.purged = false)
    (hquiet : Quiet ops) :
    (p.failing why expiry).performAll ops = p.amid (some ⟨expiry, why, ops⟩) := by
  induction ops with
  | nil => rfl
  | cons o rest ih =>
    have hserving : (p.failing why expiry).isServing o.1 = decide (o.1 < expiry) := rfl
    rcases hquiet.cases with ⟨build, why', hop⟩ | hop
    · have hidle : (p.failing why expiry).perform o.1 o.2 = (p.failing why expiry, []) := by
        rw [hop]
        exact perform_failure_of_ne (.inr nofun)
      have hnoticed : (⟨expiry, why, o :: rest⟩ : Outage).noticed
          = (⟨expiry, why, rest⟩ : Outage).noticed := by
        simp only [Outage.noticed, List.any_cons, hop, Op.isRead, Bool.false_and, Bool.false_or]
      rw [performAll_cons_of_silent hidle, ih hquiet.tail, amid, amid, hnoticed]
    · by_cases hover : expiry ≤ o.1
      · -- this read drops the entries, and nothing is left to happen
        have hdrop : (p.failing why expiry).perform o.1 o.2
            = ((p.failing why expiry).dropped, releasesOf p.held []) := by
          rw [hop]
          exact perform_read_of_over
            (hserving.trans (decide_eq_false (Nat.not_lt_of_ge hover))) hpurged
        have hnoticed : (⟨expiry, why, o :: rest⟩ : Outage).noticed = true := by
          simp only [Outage.noticed, List.any_cons, hop, Op.isRead, Bool.true_and,
            decide_eq_true hover, Bool.true_or]
        rw [performAll_cons, hdrop, performAll_of_purged (Option.some_ne_none why) rfl hquiet.tail,
          List.append_nil, amid, if_pos hnoticed]
      · have hidle : (p.failing why expiry).perform o.1 o.2 = (p.failing why expiry, []) := by
          rw [hop]
          exact perform_read_of_idle
            (.inl (hserving.trans (decide_eq_true (Nat.lt_of_not_ge hover))))
        have hnoticed : (⟨expiry, why, o :: rest⟩ : Outage).noticed
            = (⟨expiry, why, rest⟩ : Outage).noticed := by
          simp only [Outage.noticed, List.any_cons, hop, decide_eq_false hover, Bool.and_false,
            Bool.false_or]
        rw [performAll_cons_of_silent hidle, ih hquiet.tail, amid, amid, hnoticed]

end Phases

/-- **Only the first failure and the first read past the grace period count**: from a pool without
a failure, a run without a list leads to what the outage leaves of the pool. -/
theorem performAll_eq_amid {p : Pool} (hcalm : p.pending = none) (hpurged : p.purged = false)
    (hopen : p.closed = false) {ops : List (Nat × Op)} (hquiet : Quiet ops) :
    p.performAll ops = p.amid (outage? p.grace ops) := by
  cases hgrace : p.grace with
  | none =>
    rw [performAll_of_calm hcalm hquiet (.inl hgrace)]
    rfl
  | some grace =>
    induction ops with
    | nil => rfl
    | cons o rest ih =>
      rcases hquiet.cases with ⟨build, why, hop⟩ | hop
      · -- the first failure is noted, and its deadline governs the rest of the run
        have hnote : p.perform o.1 o.2 = (p.failing why (o.1 + grace.ticks), []) := by
          rw [hop]
          exact perform_failure_of_eq hgrace hopen hcalm
        have houtage : outage? (some grace) (o :: rest) = some ⟨o.1 + grace.ticks, why, rest⟩ := by
          simp only [outage?, firstFailure, hop, Op.failure?]
        rw [houtage, performAll_cons_of_silent hnote, performAll_failing why _ hpurged hquiet.tail]
      · have hidle : p.perform o.1 o.2 = (p, []) := by
          rw [hop]
          exact perform_read_of_idle (.inl (by simp [isServing, hcalm]))
        have houtage : outage? (some grace) (o :: rest) = outage? (some grace) rest := by
          simp only [outage?, firstFailure, hop, Op.failure?]
        rw [houtage, performAll_cons_of_silent hidle, ih hquiet.tail]

/-! ## The pool right after its last list -/

/-- A pool as a list leaves it: no failure is pending, and it is open. -/
structure Fresh (grace : Option Duration) (p : Pool) : Prop where
  grace : p.grace = grace
  pending : p.pending = none
  purged : p.purged = false
  closed : p.closed = false

theorem fresh_empty (grace : Option Duration) : Fresh grace (empty grace) := ⟨rfl, rfl, rfl, rfl⟩

theorem grace_perform (p : Pool) (now : Nat) (op : Op) : (p.perform now op).1.grace = p.grace := by
  cases op with
  | close => rfl
  | read =>
    show (p.read now).1.grace = p.grace
    rcases read_cases p now with ⟨-, h⟩ | ⟨why, -, -, -, h⟩ | ⟨why, -, -, -, h⟩ <;> rw [h]
  | update build snapshot =>
    cases snapshot with
    | failure why =>
      show (p.noteFailure now why).grace = p.grace
      unfold noteFailure
      split <;> rfl
    | instances addrs =>
      show (p.update build now (.instances addrs)).1.grace = p.grace
      cases h : p.closed with
      | true => rw [update_of_closed h]
      | false =>
        rw [update_of_open h]
        rfl

theorem grace_performAll (p : Pool) (ops : List (Nat × Op)) :
    (p.performAll ops).1.grace = p.grace := by
  induction ops generalizing p with
  | nil => rfl
  | cons o rest ih => exact (ih _).trans (grace_perform p o.1 o.2)

theorem closed_perform (p : Pool) (now : Nat) {op : Op} (h : op.isClose = false) :
    (p.perform now op).1.closed = p.closed := by
  cases op with
  | close => exact nomatch h
  | read => exact closed_read p now
  | update build snapshot => exact closed_update p build now snapshot

theorem open_performAll {p : Pool} (hopen : p.closed = false) {ops : List (Nat × Op)}
    (hops : ∀ o ∈ ops, o.2.isClose = false) :
    (p.performAll ops).1.closed = false ∧ (p.performAll ops).1.grace = p.grace := by
  induction ops generalizing p with
  | nil => exact ⟨hopen, rfl⟩
  | cons o rest ih =>
    have hstep := (closed_perform p o.1 (hops o List.mem_cons_self)).trans hopen
    obtain ⟨hclosed, hgrace⟩ := ih hstep fun o' ho' => hops o' (List.mem_cons_of_mem _ ho')
    exact ⟨hclosed, hgrace.trans (grace_perform p o.1 o.2)⟩

theorem fresh_perform_list {p : Pool} (hopen : p.closed = false) (now : Nat) {op : Op}
    (h : op.isList = true) : Fresh p.grace (p.perform now op).1 := by
  cases op with
  | close => exact nomatch h
  | read => exact nomatch h
  | update build snapshot =>
    cases snapshot with
    | failure why => exact nomatch h
    | instances addrs =>
      rw [perform, update_of_open hopen]
      exact ⟨rfl, rfl, rfl, hopen⟩

/-- The pool right after the last list of a run, or before the run if none came. -/
def lastGood (grace : Option Duration) (ops : List (Nat × Op)) : Pool :=
  ((empty grace).performAll (untilList ops)).1

section LastList

variable {ops : List (Nat × Op)}

theorem untilList_append_sinceList (ops : List (Nat × Op)) :
    untilList ops ++ sinceList ops = ops := List.rdropWhile_append_rtakeWhile

theorem mem_of_mem_untilList {o : Nat × Op} (h : o ∈ untilList ops) : o ∈ ops := by
  rw [← untilList_append_sinceList ops]
  exact List.mem_append_left _ h

theorem mem_of_mem_sinceList {o : Nat × Op} (h : o ∈ sinceList ops) : o ∈ ops := by
  rw [← untilList_append_sinceList ops]
  exact List.mem_append_right _ h

/-- After the last list of an open pool come failures and reads only. -/
theorem quiet_sinceList (hops : ∀ o ∈ ops, o.2.isClose = false) : Quiet (sinceList ops) := by
  intro o ho
  have hlist : (!o.2.isList) = true :=
    List.mem_rtakeWhile_imp (p := fun o : Nat × Op => !o.2.isList) ho
  exact ⟨(Bool.not_eq_true' _).mp hlist, hops o (mem_of_mem_sinceList ho)⟩

theorem fresh_lastGood (grace : Option Duration) (hops : ∀ o ∈ ops, o.2.isClose = false) :
    Fresh grace (lastGood grace ops) := by
  unfold lastGood
  by_cases hnil : untilList ops = []
  · rw [hnil]
    exact fresh_empty grace
  · -- the run splits before its last operation, which is the list
    obtain ⟨earlier, o, hsplit⟩ := List.eq_nil_or_concat' (untilList ops) |>.resolve_left hnil
    have hlist : o.2.isList = true := by
      have hlast := List.rdropWhile_last_not (fun o : Nat × Op => !o.2.isList) ops hnil
      have hend : (untilList ops).getLast hnil = o := by
        simp only [hsplit, List.getLast_append_singleton]
      change ¬(!((untilList ops).getLast hnil).2.isList) = true at hlast
      rw [hend] at hlast
      simpa using hlast
    have hearlier : ∀ o' ∈ earlier, o'.2.isClose = false := fun o' ho' =>
      hops o' (mem_of_mem_untilList (hsplit ▸ List.mem_append_left _ ho'))
    obtain ⟨hopen, hgrace⟩ := open_performAll (p := empty grace) rfl hearlier
    rw [hsplit, performAll_append]
    have hfresh := fresh_perform_list hopen o.1 hlist
    rw [hgrace] at hfresh
    exact hfresh

/-- A run leads to what its outage leaves of the pool right after the last list. -/
theorem performAll_eq (grace : Option Duration) (hops : ∀ o ∈ ops, o.2.isClose = false) :
    (empty grace).performAll ops
      = (((lastGood grace ops).amid (outage? grace (sinceList ops))).1,
          ((empty grace).performAll (untilList ops)).2
            ++ ((lastGood grace ops).amid (outage? grace (sinceList ops))).2) := by
  have hfresh := fresh_lastGood grace hops
  have hrun := performAll_eq_amid hfresh.pending hfresh.purged hfresh.closed (quiet_sinceList hops)
  rw [hfresh.grace] at hrun
  rw [← hrun]
  conv_lhs => rw [← untilList_append_sinceList ops, performAll_append]
  rfl

end LastList

/-! ## Reads during an outage -/

section Reads

variable {p : Pool} {t expiry : Nat} (why : DiscoveryFailure)

/-- Every entry that came with a handle has it released when all are dropped. -/
theorem releasesOf_nil (held : PoolEntries) :
    releasesOf held [] = (handlesOf held).map PoolEvent.released := by
  rw [handlesOf, List.map_map]
  rfl

theorem read_of_calm (h : p.pending = none) : p.read t = (p, [], .ok p.served) := by
  rcases read_cases p t with ⟨-, hr⟩ | ⟨why, hwhy, -⟩ | ⟨why, hwhy, -⟩
  · exact hr
  · exact nomatch h.symm.trans hwhy
  · exact nomatch h.symm.trans hwhy

/-- Within the grace period the list is served as it is. -/
theorem read_failing (h : t < expiry) :
    (p.failing why expiry).read t = (p.failing why expiry, [], .ok p.served) := by
  have hserving : (p.failing why expiry).isServing t = true := decide_eq_true h
  rcases read_cases (p.failing why expiry) t with ⟨-, hr⟩ | ⟨why', -, hno, -⟩ | ⟨why', -, hno, -⟩
  · exact hr
  · exact nomatch hserving.symm.trans hno
  · exact nomatch hserving.symm.trans hno

/-- Past it the failure is reported; a read drops the entries unless one has done so before. -/
theorem read_failing_of_over (h : expiry ≤ t) (hpurged : p.purged = false) :
    (p.failing why expiry).read t
      = ((p.failing why expiry).dropped, releasesOf p.held [], .error why) := by
  have hserving : (p.failing why expiry).isServing t = false :=
    decide_eq_false (Nat.not_lt_of_ge h)
  rcases read_cases (p.failing why expiry) t with
    ⟨hyes, -⟩ | ⟨why', -, -, hyes, -⟩ | ⟨why', hwhy, -, -, hr⟩
  · exact nomatch hserving.symm.trans hyes
  · exact nomatch hpurged.symm.trans hyes
  · obtain rfl : why = why' := Option.some.inj hwhy
    exact hr

theorem read_dropped_of_over (h : expiry ≤ t) :
    (p.failing why expiry).dropped.read t = ((p.failing why expiry).dropped, [], .error why) := by
  have hserving : (p.failing why expiry).dropped.isServing t = false :=
    decide_eq_false (Nat.not_lt_of_ge h)
  rcases read_cases (p.failing why expiry).dropped t with
    ⟨hyes, -⟩ | ⟨why', hwhy, -, -, hr⟩ | ⟨why', -, -, hno, -⟩
  · exact nomatch hserving.symm.trans hyes
  · obtain rfl : why = why' := Option.some.inj hwhy
    exact hr
  · exact nomatch hno

end Reads

/-! ## The law of the grace period -/

theorem mem_of_firstFailure {ops : List (Nat × Op)} {now : Nat} {why : DiscoveryFailure}
    {later : List (Nat × Op)} (h : firstFailure ops = some (now, why, later)) {o : Nat × Op}
    (ho : o ∈ later) : o ∈ ops := by
  induction ops with
  | nil => exact nomatch h
  | cons o' rest ih =>
    rw [firstFailure] at h
    split at h
    · obtain ⟨rfl, rfl, rfl⟩ : o'.1 = now ∧ _ = why ∧ rest = later := by
        simpa only [Option.some.injEq, Prod.mk.injEq] using h
      exact List.mem_cons_of_mem _ ho
    · exact List.mem_cons_of_mem _ (ih h)

/-- Whoever reads after a read that noticed the outage is past the grace period too. -/
theorem over_le_of_noticed {grace : Option Duration} {ops : List (Nat × Op)} {o : Outage}
    (ho : outage? grace ops = some o) {t : Nat} (hclock : ∀ op ∈ ops, op.1 ≤ t)
    (hnoticed : o.noticed = true) : o.expiry ≤ t := by
  obtain ⟨op, hop, hlate⟩ := List.any_eq_true.mp hnoticed
  have hmem : op ∈ ops := by
    unfold outage? at ho
    split at ho
    · rename_i hfirst
      obtain rfl := Option.some.inj ho
      exact mem_of_firstFailure hfirst hop
    · exact nomatch ho
  have hover : o.expiry ≤ op.1 := by
    rw [Bool.and_eq_true, decide_eq_true_eq] at hlate
    exact hlate.2
  exact Nat.le_trans hover (hclock op hmem)

/-- What a read at a moment has to come to, with the list that the pool had before the outage. -/
def due (served : List Endpoint) (t : Nat) : Option Outage → Reading
  | none => .ok served
  | some o => if t < o.expiry then .ok served else .error o.why

/-- The law of the grace period: of a pool, in an outage that began after it was as good as
`good`, and of a read at a moment. By then the pool had done `past` to the outside, and by now
`events`. -/
structure Graceful (good p : Pool) (past events : List PoolEvent) (outage : Option Outage)
    (t : Nat) : Prop where
  /-- The good list are the endpoints of the entries. -/
  listed : good.served = good.held.map fun r => r.2.endpoint
  /-- The good list is served until the grace period is over, and the first failure is
  reported from then on. -/
  reading : (p.read t).2.2 = due good.served t outage
  /-- Nothing happens to entries and list until a read notices that it is over. -/
  held_eq : p.held = if outage.any Outage.noticed then [] else good.held
  served_eq : p.served = if outage.any Outage.noticed then [] else good.served
  /-- Nothing was built since, and nothing released but every entry, once, by the first read to
  notice. -/
  events_eq : events = past ++
    if outage.any Outage.noticed then (handlesOf good.held).map .released else []
  /-- This read releases every entry if it is the first past the grace period, and else nothing. -/
  released : (p.read t).2.1 =
    if (outage.any fun o => o.expiry ≤ t) && !outage.any Outage.noticed then
      (handlesOf good.held).map .released
    else []
  /-- It leaves the entries and the list within the grace period, and none past it. -/
  left : (p.read t).1.held = (if outage.any fun o => o.expiry ≤ t then [] else good.held) ∧
    (p.read t).1.served = if outage.any fun o => o.expiry ≤ t then [] else good.served
  /-- What is released are the handles of the entries, each of them once. -/
  handles : (handlesOf good.held).Nodup
  /-- A failure that comes now leaves entries and list alone. -/
  failure : ∀ (build : String → Build) (why : DiscoveryFailure),
    (p.update build t (.failure why)).1.held = p.held ∧
      (p.update build t (.failure why)).1.served = p.served ∧
      (p.update build t (.failure why)).2 = []

theorem noteFailure_held_served (p : Pool) (now : Nat) (why : DiscoveryFailure) :
    (p.noteFailure now why).held = p.held ∧ (p.noteFailure now why).served = p.served := by
  unfold noteFailure
  split <;> exact ⟨rfl, rfl⟩

section Amid

variable {good : Pool} {outage : Option Outage} {t : Nat}

/-- An outage touches nothing until a read notices that the grace period is over. -/
theorem held_served_amid (good : Pool) (outage : Option Outage) :
    (good.amid outage).1.held = (if outage.any Outage.noticed then [] else good.held) ∧
      (good.amid outage).1.served = (if outage.any Outage.noticed then [] else good.served) ∧
      (good.amid outage).2
        = if outage.any Outage.noticed then (handlesOf good.held).map .released else [] := by
  cases outage with
  | none => exact ⟨rfl, rfl, rfl⟩
  | some o =>
    rw [Option.any_some, amid]
    by_cases hnoticed : o.noticed = true
    · simp only [if_pos hnoticed]
      exact ⟨rfl, rfl, releasesOf_nil _⟩
    · simp only [if_neg hnoticed, and_true]
      exact ⟨rfl, rfl⟩

/-- A read in an outage: the four cases are a pool without a failure, one past the grace period
whose entries are dropped already, one within it, and one that this read finds past it. -/
theorem read_amid (hcalm : good.pending = none) (hpurged : good.purged = false)
    (hlate : ∀ o, outage = some o → o.noticed = true → o.expiry ≤ t) :
    ((good.amid outage).1.read t).2.2 = due good.served t outage ∧
      ((good.amid outage).1.read t).2.1
        = (if (outage.any fun o => o.expiry ≤ t) && !outage.any Outage.noticed then
            (handlesOf good.held).map .released
          else []) ∧
      ((good.amid outage).1.read t).1.held
        = (if outage.any fun o => o.expiry ≤ t then [] else good.held) ∧
      ((good.amid outage).1.read t).1.served
        = if outage.any fun o => o.expiry ≤ t then [] else good.served := by
  cases outage with
  | none =>
    have hread : (good.amid none).1.read t = (good, [], .ok good.served) := read_of_calm hcalm
    rw [hread]
    exact ⟨rfl, rfl, rfl, rfl⟩
  | some o =>
    simp only [Option.any_some]
    by_cases hnoticed : o.noticed = true
    · -- an earlier read dropped the entries; by the clock this one is past the period as well
      have hover : o.expiry ≤ t := hlate o rfl hnoticed
      have hread := read_dropped_of_over (p := good) o.why hover
      rw [amid, if_pos hnoticed, hread, due, if_neg (Nat.not_lt_of_ge hover)]
      simp only [hnoticed, decide_eq_true hover, Bool.not_true, Bool.and_false, true_and]
      exact ⟨rfl, rfl, rfl⟩
    · rw [amid, if_neg hnoticed]
      have hquiet : o.noticed = false := Bool.eq_false_iff.mpr hnoticed
      by_cases hover : o.expiry ≤ t
      · -- this read is the first to notice
        have hread := read_failing_of_over (p := good) o.why hover hpurged
        rw [hread, due, if_neg (Nat.not_lt_of_ge hover), releasesOf_nil]
        simp only [hquiet, decide_eq_true hover, Bool.not_false, Bool.and_true,
          if_true, true_and]
        exact ⟨rfl, rfl⟩
      · have hearly : t < o.expiry := Nat.lt_of_not_ge hover
        have hread := read_failing (p := good) o.why hearly
        rw [hread, due, if_pos hearly]
        simp only [decide_eq_false hover, Bool.false_and, true_and]
        exact ⟨rfl, rfl, rfl⟩

/-- Whatever outage a pool without a failure is in, the law holds of it. -/
theorem graceful_amid {past : List PoolEvent} (hsound : Sound good past)
    (hcalm : good.pending = none) (hpurged : good.purged = false)
    (hlate : ∀ o, outage = some o → o.noticed = true → o.expiry ≤ t) :
    Graceful good (good.amid outage).1 past (past ++ (good.amid outage).2) outage t := by
  obtain ⟨hheld, hserved, hevents⟩ := held_served_amid good outage
  obtain ⟨hreading, hreleased, hleft⟩ := read_amid hcalm hpurged hlate
  have hhandles : (freed past ++ handlesOf good.held).Nodup :=
    hsound.handles.nodup_iff.mp hsound.granted_nodup
  refine { listed := hsound.served, reading := hreading, held_eq := hheld, served_eq := hserved,
           events_eq := by rw [hevents], released := hreleased, left := hleft,
           handles := (List.nodup_append.mp hhandles).2.1, failure := fun build why => ?_ }
  obtain ⟨hheld', hserved'⟩ := noteFailure_held_served (good.amid outage).1 t why
  exact ⟨hheld', hserved', rfl⟩

end Amid

/-- **The grace period is kept**: whatever happened to an open pool, in the order of time, a read
yields the list as it was right after the last list came, until the grace period that began with
the first failure since is over, and from then on that failure, however many more came. Entries are
dropped, each handle released once, by the first read past the period, and by nothing else. A pool
that ignores failures always serves the list. -/
theorem graceful_performAll (grace : Option Duration) {ops : List (Nat × Op)} {t : Nat}
    (hops : ∀ o ∈ ops, o.2.isClose = false)
    (hclock : (ops.map Prod.fst ++ [t]).Pairwise (· ≤ ·)) :
    Graceful (lastGood grace ops) ((empty grace).performAll ops).1
      ((empty grace).performAll (untilList ops)).2 ((empty grace).performAll ops).2
      (outage? grace (sinceList ops)) t := by
  have hfresh := fresh_lastGood grace hops
  have hsound : Sound (lastGood grace ops) ((empty grace).performAll (untilList ops)).2 :=
    sound_performAll (sound_empty grace) (untilList ops)
  have hbefore : ∀ op ∈ sinceList ops, op.1 ≤ t := fun op hop =>
    (List.pairwise_append.mp hclock).2.2 op.1
      (List.mem_map_of_mem (mem_of_mem_sinceList hop)) t (List.mem_singleton_self t)
  rw [performAll_eq grace hops]
  exact graceful_amid hsound hfresh.pending hfresh.purged
    fun o ho hnoticed => over_le_of_noticed ho hbefore hnoticed

/-- A list, a failure, a read within five milliseconds of it, another failure, and a read as the
five milliseconds end. -/
def downTwice : List (Nat × Op) :=
  [(0, .update (fun _ => .built true) (.instances ["b", "a"])),
    (1, .update (fun _ => .built true) (.failure (.transport "down"))), (3, .read),
    (4, .update (fun _ => .built true) (.failure (.transport "still down"))), (6, .read)]

/-- With a grace period of five milliseconds the read at its end released both handles; a later one
releases nothing, and reports the first of the two failures. -/
theorem graceful_performAll_downTwice :
    let p := ((empty (some (.ofMillis 5))).performAll downTwice).1
    (∀ o ∈ downTwice, o.2.isClose = false) ∧ (downTwice.map Prod.fst ++ [8]).Pairwise (· ≤ ·) ∧
      freed ((empty (some (.ofMillis 5))).performAll downTwice).2 = [⟨1, "a"⟩, ⟨2, "b"⟩] ∧
      (p.read 8).2 = ([], .error (.transport "down")) ∧
      Graceful (lastGood (some (.ofMillis 5)) downTwice) p
        ((empty (some (.ofMillis 5))).performAll (untilList downTwice)).2
        ((empty (some (.ofMillis 5))).performAll downTwice).2
        (outage? (some (.ofMillis 5)) (sinceList downTwice)) 8 :=
  ⟨by decide, by decide, by decide, rfl, graceful_performAll _ (by decide) (by decide)⟩

end Pool

end Switchboard
