import Switchboard.Program.Session
import Switchboard.Proofs.Pipeline.Lifecycle
import Switchboard.Proofs.Retry.Course
/-!
# What accepted settings can break

A command line and settings may be accepted that the program cannot bear: nothing keeps them from
asking for no workers, for no time between calls, or for moments that the clock of the system cannot
name. This file says what breaks a run down, and that nothing else does.

* `le_now_after`, `Pipeline.dated_after` — along every course of a pipeline time only goes on, and a
  deadline of its pool ends a grace period that began by then.
* `Calling.Kept` — what calls keep, kept by each of them (`Kept.callOnce`) and so by any number
  (`Kept.calls`).
* `opened?` — the calls of a command line before they start.
* `Sturdy` — the limits, for every accepted command line with accepted settings
  (`sturdy_of_accepted`), whoever answers and whatever the clock reads.
* `broken_of_accepted` — each of them can be reached.
-/

namespace Switchboard

/-! ## Time only goes on -/

theorem WatchRun.Moves.le_now {r r' : WatchRun} {x? : Option Exchange} (h : r.Moves x? r') :
    r.now ≤ r'.now := by
  cases h with
  | wait ms => exact Nat.le_add_right ..
  | _ => exact Nat.le_refl _

namespace Source

theorem le_now_stepLoop (s : Source) (l : LoopStep) : s.now ≤ (s.stepLoop l).now := by
  cases s with
  | watch run => exact (run.moves_stepLoop l).le_now
  | feed now f boxes =>
    cases l with
    | wait ms => exact Nat.le_add_right ..
    | _ => exact Nat.le_refl _

@[simp] theorem now_withFeed (s : Source) (f : Feed) : (s.withFeed f).now = s.now := by
  cases s <;> rfl

end Source

namespace Pipeline

variable {p : Pipeline}

theorem le_now_step (p : Pipeline) (s : Step) : p.now ≤ (p.step s).now := by
  cases s with
  | loop l => exact p.source.le_now_stepLoop l
  | apply => exact Nat.le_of_eq (now_turn p).symm
  | refit factory => exact Nat.le_refl _
  | read =>
    show _ ≤ p.read.2.now
    unfold Pipeline.read
    cases p.dropped <;> exact Nat.le_refl _
  | close =>
    show _ ≤ p.closeSupply.now
    unfold closeSupply
    cases p.dropped with
    | true => exact Nat.le_refl _
    | false => exact Nat.le_of_eq (Source.now_withFeed ..).symm
  | drop =>
    show _ ≤ p.dropSupply.now
    unfold dropSupply
    cases p.dropped with
    | true => exact Nat.le_refl _
    | false => exact Nat.le_of_eq (Source.now_withFeed ..).symm

theorem le_now_after (p : Pipeline) (steps : List Step) : p.now ≤ (p.after steps).now := by
  induction steps generalizing p with
  | nil => exact Nat.le_refl _
  | cons s rest ih => exact Nat.le_trans (p.le_now_step s) (ih (p.step s))

/-- A step does at most one thing to the pool, and does it now. -/
theorem moment_of_mem_ops {s : Step} {o : Nat × Pool.Op} (h : o ∈ p.ops (.step s)) :
    o.1 = p.now := by
  unfold ops at h
  cases s with
  | loop l | refit factory => exact nomatch h
  | apply =>
    simp only at h
    split at h
    · exact nomatch h
    · obtain ⟨snapshot, -, rfl⟩ := List.mem_map.mp h
      rfl
  | read | close | drop =>
    simp only at h
    split at h
    · exact nomatch h
    · rw [List.mem_singleton.mp h]

theorem moment_of_mem_along {steps : List Step} {o : Nat × Pool.Op}
    (h : o ∈ along ops p (steps.map .step)) : o.1 ≤ (p.after steps).now := by
  induction steps generalizing p with
  | nil => exact nomatch h
  | cons s rest ih =>
    rcases List.mem_append.mp h with hfirst | hrest
    · rw [moment_of_mem_ops hfirst]
      exact p.le_now_after (s :: rest)
    · exact ih hrest

end Pipeline

/-! ## When the end of a grace period is asked for -/

namespace Pool

/-- A deadline that is set ends a grace period that began by now. -/
def DatedBy (p : Pool) (now : Nat) : Prop :=
  ∀ d, p.deadline = some d → ∃ g t, p.grace = some g ∧ t ≤ now ∧ d = t + g.ticks

/-- The clock is asked for a moment only as a failure is noted. -/
theorem datedBy_perform {p : Pool} {now moment : Nat} (h : p.DatedBy now) (hle : moment ≤ now)
    (op : Op) : (p.perform moment op).1.DatedBy now := by
  cases op with
  | close => exact h
  | read =>
    rw [perform]
    rcases read_cases p moment with ⟨-, hr⟩ | ⟨why, -, -, -, hr⟩ | ⟨why, -, -, -, hr⟩ <;>
      (rw [hr]; exact h)
  | update build snapshot =>
    cases snapshot with
    | failure why =>
      show (p.noteFailure moment why).DatedBy now
      unfold noteFailure
      split
      · rename_i grace hgrace _ _
        intro d hd
        exact ⟨grace, moment, hgrace, hle, (Option.some.inj hd).symm⟩
      · exact h
    | instances addrs =>
      rw [perform]
      cases hclosed : p.closed with
      | true =>
        rw [update_of_closed hclosed]
        exact h
      | false =>
        rw [update_of_open hclosed]
        exact fun d hd => absurd hd (Option.some_ne_none d).symm

theorem datedBy_performAll {p : Pool} {now : Nat} (h : p.DatedBy now) {ops : List (Nat × Op)}
    (hops : ∀ o ∈ ops, o.1 ≤ now) : (p.performAll ops).1.DatedBy now := by
  induction ops generalizing p with
  | nil => exact h
  | cons o rest ih =>
    exact ih (datedBy_perform h (hops o List.mem_cons_self) o.2) fun o' ho' =>
      hops o' (List.mem_cons_of_mem _ ho')

end Pool

/-- Along every course of a pipeline, a deadline that its pool has ends a grace period that began by
then. -/
theorem Pipeline.dated_after (source : Source) (grace : Option Duration) (factory : Factory)
    (steps : List Step) {d : Nat}
    (hd : ((open_ source grace factory).after steps).supply.pool.deadline = some d) :
    ∃ g t, grace = some g ∧ t ≤ ((open_ source grace factory).after steps).now ∧
      d = t + g.ticks := by
  have hpool := (pool_allOps source grace factory (steps.map .step)).1
  rw [afterActs_map_step] at hpool
  have hdated : ((Pool.empty grace).performAll
      (allOps source grace factory (steps.map .step))).1.DatedBy
      ((open_ source grace factory).after steps).now := by
    refine Pool.datedBy_performAll (p := .empty grace)
      (fun d hd => nomatch (show none = some d from hd)) fun o ho => ?_
    rcases List.mem_cons.mp ho with rfl | ho
    · have hopen : (open_ source grace factory).now = source.now := by
        show ((source.withFeed _).withMailboxes _).now = _
        rw [Source.now_withMailboxes, Source.now_withFeed]
      exact Nat.le_trans (Nat.le_of_eq hopen.symm) (le_now_after _ steps)
    · exact moment_of_mem_along ho
  rw [hpool] at hd
  obtain ⟨g, t, hg, ht⟩ := hdated d hd
  rw [Pool.grace_performAll] at hg
  exact ⟨g, t, hg, ht⟩

/-! ## The pipeline behind calls -/

/-- A pipeline whose supply is open comes of another by steps. -/
def Pipeline.LeadsTo (p q : Pipeline) : Prop := q.IsOpen ∧ ∃ steps, q = p.after steps

theorem Pipeline.LeadsTo.trans {p q q' : Pipeline} (h : p.LeadsTo q)
    (h' : ∃ steps, q' = q.after steps ∧ q'.IsOpen) : p.LeadsTo q' := by
  obtain ⟨-, steps, rfl⟩ := h
  obtain ⟨more, rfl, hopen⟩ := h'
  exact ⟨hopen, steps ++ more, (p.after_append steps more).symm⟩

/-- An attempt does to the source what asking for the endpoints does. -/
theorem Dispatch.source_attempt {σ ε : Type} [DecidableEq ε]
    (endpoints : σ → Nat → Except DiscoveryFailure (List ε) × σ) (callee : ε → Callee)
    (d : Dispatch σ ε) (now : Nat) (request : String) :
    ((Dispatch.environment endpoints callee).attempt d now request).2.source
      = (endpoints d.source now).2 := by
  unfold Dispatch.environment Dispatch.select
  simp only
  cases (d.rotation.pick (endpoints d.source now).1).1 <;> rfl

namespace Program

/-- A clock that cannot name a moment cannot do so later. -/
theorem pastClock_mono {reading later : Nat} {d : Duration} (hle : reading ≤ later)
    (h : pastClock reading d = true) : pastClock later d = true := by
  unfold pastClock at h ⊢
  have hend := of_decide_eq_true h
  exact decide_eq_true (by omega)

theorem breakdownOfCall_eq_some_iff {reading : Nat} {timeout : Duration} {how : Breakdown} :
    breakdownOfCall reading timeout = some how ↔
      pastClock reading timeout = true ∧ how = .noDeadline := by
  unfold breakdownOfCall
  rw [Option.ite_none_right_eq_some, Option.some.injEq, eq_comm (a := how)]

theorem isSome_breakdownOfOpening {reading : Nat} {failing : Bool} {grace : Option Duration}
    {ms : Nat} {timeout : Duration} :
    (breakdownOfOpening reading failing grace ms timeout).isSome = true ↔
      (failing = true ∧ ∃ g, grace = some g ∧ pastClock reading g = true) ∨ ms = 0 ∨
        pastClock reading timeout = true := by
  unfold breakdownOfOpening breakdownOfCall
  rw [← Option.any_eq_true (p := pastClock reading), ← Bool.and_eq_true]
  cases failing && grace.any (pastClock reading) with
  | true => simp
  | false =>
    by_cases hms : ms = 0
    · simp [hms]
    · cases pastClock reading timeout <;> simp [hms]

namespace Calling

/-- What calls leave of a command that was at work. -/
structure Kept (c c' : Calling) : Prop where
  retry : c'.retry = c.retry
  uptime : c'.uptime = c.uptime
  leads : c.dispatch.source.LeadsTo c'.dispatch.source
  /-- If the command broke down, it was over the deadline of a call that was about to begin. -/
  broken : c'.broken = none ∨
    c'.broken = some .noDeadline ∧ pastClock c'.reading c.retry.timeout = true

variable {c c' c'' : Calling} {j : Nat → Jitter}

theorem leads_wait (h : c.dispatch.source.LeadsTo c'.dispatch.source) (j : Jitter) :
    c.dispatch.source.LeadsTo (c'.wait j).dispatch.source := by
  obtain ⟨first, hfirst, hopen, -⟩ := Pipeline.settle_eq_after j h.1
  exact (h.trans ⟨first, hfirst, hopen⟩).trans (Pipeline.reach_eq_after j c'.due hopen)

theorem Kept.call (h : Kept c c') (hbroken : c'.broken = none) (hcall : c'.call j = some c'') :
    Kept c c'' := by
  obtain ⟨report, hreport, rfl⟩ := Option.map_eq_some_iff.mp hcall
  have hstate : c.dispatch.source.LeadsTo report.state.source := by
    refine state_execute (P := fun d => c.dispatch.source.LeadsTo d.source)
      (fun d t req hd => ?_) h.leads hreport
    rw [environment, Dispatch.source_attempt]
    exact hd.trans (Pipeline.endpoints_eq_after (j 0) t hd.1)
  exact { retry := h.retry, uptime := h.uptime, broken := .inl hbroken,
          leads := hstate.trans (Pipeline.reach_eq_after (j 0) report.endedAt hstate.1) }

theorem Kept.callOrBreak (h : Kept c c') (hbroken : c'.broken = none)
    (hcall : c'.callOrBreak j = some c'') : Kept c c'' := by
  unfold Calling.callOrBreak at hcall
  split at hcall
  · rename_i how hbreak
    obtain rfl := Option.some.inj hcall
    obtain ⟨hpast, rfl⟩ := breakdownOfCall_eq_some_iff.mp hbreak
    rw [h.retry] at hpast
    exact { h with broken := .inr ⟨rfl, hpast⟩ }
  · exact h.call hbroken hcall

theorem callOnce_of_unbroken (h : c.broken = none) (j : Nat → Jitter) :
    c.callOnce j = (c.wait (j 0)).callOrBreak j := by
  rw [callOnce, if_neg (by rw [h]; exact nofun)]

theorem Kept.callOnce (h : Kept c c') (hcall : c'.callOnce j = some c'') : Kept c c'' := by
  cases hbroken : c'.broken with
  | some how =>
    rw [Calling.callOnce, hbroken] at hcall
    exact nomatch hcall
  | none =>
    have hwait : Kept c (c'.wait (j 0)) :=
      { retry := h.retry, uptime := h.uptime, leads := leads_wait h.leads (j 0),
        broken := .inl hbroken }
    rw [callOnce_of_unbroken hbroken] at hcall
    exact hwait.callOrBreak hbroken hcall

theorem Kept.calls (h : Kept c c') (n : Nat) : Kept c (c'.calls j n) := by
  induction n generalizing c' with
  | zero => exact h
  | succ n ih =>
    rw [Calling.calls]
    cases hcall : c'.callOnce j with
    | none => exact h
    | some c'' => exact ih (h.callOnce hcall)

end Calling

/-! ## The start -/

/-- The calls that a command line asks for, as their endpoints are opened. -/
def opened? (line : CommandLine) (settings : Settings) (s : Surroundings) : Option Calling :=
  match line.command with
  | .call a payload ms =>
    Calling.open? ((Origin.ofCommandLine line).backend a.service s.network)
      (settings.merge a.tags a.passingOnly) a.service payload ms s.peers s.uptime
  | _ => none

/-- A command that makes calls starts once its endpoints are opened, unless that breaks down. -/
theorem job_startWith_of_opened? {line : CommandLine} {settings : Settings} {s : Surroundings}
    {c : Calling} (h : opened? line settings s = some c) (j : Jitter) :
    (startWith line settings s j).job =
      match breakdownOfOpening c.reading c.pool.pending.isSome settings.grace c.interval
        settings.timeout with
      | some how => .error (.broken how)
      | none => .ok (.calling (c.start settings)) := by
  unfold opened? at h
  unfold startWith
  cases hcommand : line.command with
  | watch args | register args =>
    rw [hcommand] at h
    exact nomatch h
  | call args payload ms =>
    rw [hcommand] at h
    simp only [Calling.begin?] at h ⊢
    rw [h]
    show (match (c.start (settings.merge args.tags args.passingOnly)).broken with
      | some how => ({ log := _, job := .error (.broken how) } : Started)
      | none => _).job = _
    rw [show (c.start (settings.merge args.tags args.passingOnly)).broken
      = breakdownOfOpening c.reading c.pool.pending.isSome settings.grace c.interval
        settings.timeout from rfl]
    cases breakdownOfOpening c.reading c.pool.pending.isSome settings.grace c.interval
      settings.timeout <;> rfl

theorem job_startWith_of_unopened {line : CommandLine} {settings : Settings} {s : Surroundings}
    (h : opened? line settings s = none) (j : Jitter) :
    (∀ how, (startWith line settings s j).job ≠ .error (.broken how)) ∧
      ∀ c, (startWith line settings s j).job ≠ .ok (.calling c) := by
  unfold opened? at h
  unfold startWith
  cases hcommand : line.command with
  | register args => exact ⟨fun how => nofun, fun c => nofun⟩
  | watch args =>
    simp only
    split <;> exact ⟨fun how => nofun, fun c => nofun⟩
  | call args payload ms =>
    rw [hcommand] at h
    simp only [Calling.begin?] at h ⊢
    rw [h]
    exact ⟨fun how => nofun, fun c => nofun⟩

/-- Calls are made with the time and the grace period of the settings, on an open pipeline whose
pool has no other. -/
theorem opened_spec {line : CommandLine} {settings : Settings} {s : Surroundings} {c : Calling}
    (h : opened? line settings s = some c) :
    c.retry.timeout = settings.timeout ∧ c.uptime = s.uptime ∧ c.broken = none ∧
      ∃ source, c.dispatch.source = Pipeline.open_ source settings.grace {} := by
  unfold opened? at h
  split at h
  · obtain ⟨run, -, rfl⟩ := Option.map_eq_some_iff.mp h
    exact ⟨rfl, rfl, rfl, .watch run, rfl⟩
  · exact nomatch h

/-- A command that makes no calls has nothing to do by itself. -/
theorem proceedUntil_of_ne_calling {job : Job} (h : ∀ c, job ≠ .calling c) (j : Nat → Jitter)
    (enough : List LogLine → Bool) (n : Nat) : job.proceedUntil j enough n = job := by
  have hproceed : job.proceed j = job := by
    cases job with
    | calling c => exact absurd rfl (h c)
    | watching w | announcing a => rfl
  induction n with
  | zero => rfl
  | succ n ih =>
    rw [Job.proceedUntil]
    split
    · rfl
    · rw [hproceed, ih]

/-! ## The limits -/

/-- What calls that were opened as `c` have come to as `c'` without a breakdown. -/
structure Lasts (uptime : Nat) (grace : Option Duration) (c c' : Calling) : Prop where
  unbroken : c'.broken = none
  /-- The clock can name every end of a grace period that was set on the way: each was counted from
  a moment that had come. -/
  named : ∃ steps, c'.dispatch.source = c.dispatch.source.after steps ∧
    ∀ earlier later, steps = earlier ++ later → ∀ d,
      (c.dispatch.source.after earlier).supply.pool.deadline = some d →
      ∃ g t, grace = some g ∧ t ≤ c'.now ∧ d = t + g.ticks ∧
        pastClock (uptime + Duration.perMilli * t) g = false

/-- What a run withstands whose command line and settings were accepted. -/
structure Sturdy (args : List String) (s : Surroundings) (line : CommandLine)
    (settings : Settings) : Prop where
  /-- Only the lack of workers ends it before the start. -/
  workers : ∀ t, prepare args s = .error t ↔ line.threads = some 0 ∧ t = { exit := 101 }
  /-- Whoever makes no calls does not break down. -/
  steady : opened? line settings s = none → ∀ j,
    (∀ how, (start line s j).job ≠ .error (.broken how)) ∧
      ∀ job, (start line s j).job = .ok job → ∀ k enough n,
        (job.proceedUntil k enough n).broken = none
  /-- Whoever makes calls breaks down at the start exactly if there is no time between them, or if
  the clock cannot name the deadline of the first, or the end of the grace period where discovery
  fails already. -/
  opening : ∀ c, opened? line settings s = some c → ∀ j,
    ((∃ how, (start line s j).job = .error (.broken how)) ↔
      (c.pool.pending.isSome = true ∧
        ∃ g, settings.grace = some g ∧ pastClock c.reading g = true) ∨
      c.interval = 0 ∨ pastClock c.reading settings.timeout = true)
  /-- Later it breaks down with the first call whose deadline the clock cannot name. -/
  later : ∀ c, opened? line settings s = some c → ∀ k n,
    let c' := (c.start settings).calls k n
    c'.broken = none → pastClock (c'.wait (k 0)).reading settings.timeout = true →
      (c'.calls k 1).broken = some .noDeadline
  /-- Else it starts, and lasts for any number of calls by the end of which the clock can still name
  the deadline of a call and the end of a grace period. -/
  calling : ∀ c, opened? line settings s = some c → c.interval ≠ 0 → ∀ k n,
    let c' := (c.start settings).calls k n
    pastClock c'.reading settings.timeout = false →
    (∀ g, settings.grace = some g → pastClock c'.reading g = false) →
    (∀ j, (start line s j).job = .ok (.calling (c.start settings))) ∧
      Lasts s.uptime settings.grace c c'

section Accepted

variable {args : List String} {s : Surroundings} {line : CommandLine} {settings : Settings}
  {c : Calling}

theorem start_of_settings (h : settingsOf line s = .ok settings) (j : Jitter) :
    start line s j = startWith line settings s j := by
  rw [start, h]

theorem prepare_of_accepted {layout : LogLayout}
    (hline : CommandLine.read args s.assigned = .ok line) (hlayout : layoutOf s = .ok layout)
    (t : Transcript) :
    prepare args s = .error t ↔ line.threads = some 0 ∧ t = { exit := 101 } := by
  simp only [prepare, hline, hlayout, breakdownOfWorkers]
  by_cases hthreads : line.threads = some 0
  · simp [hthreads, eq_comm]
  · simp [hthreads]

theorem calls_of_broken {how : Breakdown} (h : c.broken = some how) (k : Nat → Jitter) (n : Nat) :
    c.calls k n = c := by
  cases n with
  | zero => rfl
  | succ n =>
    rw [Calling.calls, Calling.callOnce, h]
    rfl

/-- What a clock can name at the end of calls, it could name as they began. -/
theorem broken_start (hinterval : c.interval ≠ 0) {k : Nat → Jitter} {n : Nat}
    (htimeout : pastClock ((c.start settings).calls k n).reading settings.timeout = false)
    (hgrace : ∀ g, settings.grace = some g →
      pastClock ((c.start settings).calls k n).reading g = false) :
    (c.start settings).broken = none := by
  cases hbroken : (c.start settings).broken with
  | none => rfl
  | some how =>
    -- then no call was made, and the clock reads what it did
    rw [calls_of_broken hbroken] at htimeout hgrace
    have hopening : (breakdownOfOpening c.reading c.pool.pending.isSome settings.grace c.interval
        settings.timeout).isSome = true := by
      rw [show breakdownOfOpening .. = (c.start settings).broken from rfl, hbroken]
      rfl
    rcases isSome_breakdownOfOpening.mp hopening with ⟨-, g, hg, hpast⟩ | hzero | hpast
    · exact nomatch (hgrace g hg).symm.trans hpast
    · exact absurd hzero hinterval
    · exact nomatch htimeout.symm.trans hpast

theorem kept_calls_start (h : opened? line settings s = some c)
    (hstart : (c.start settings).broken = none) (k : Nat → Jitter) (n : Nat) :
    Calling.Kept (c.start settings) ((c.start settings).calls k n) := by
  obtain ⟨-, -, -, source, hsource⟩ := opened_spec h
  have hopen : (c.start settings).dispatch.source.IsOpen := by
    show c.dispatch.source.IsOpen
    rw [hsource]
    exact ⟨rfl, rfl⟩
  have hbegin : Calling.Kept (c.start settings) (c.start settings) :=
    { retry := rfl, uptime := rfl, leads := ⟨hopen, [], rfl⟩, broken := .inl hstart }
  exact hbegin.calls n

/-- As long as the clock can name what is asked for, calls go on. -/
theorem lasts_of_accepted (h : opened? line settings s = some c) (hinterval : c.interval ≠ 0)
    {k : Nat → Jitter} {n : Nat}
    (htimeout : pastClock ((c.start settings).calls k n).reading settings.timeout = false)
    (hgrace : ∀ g, settings.grace = some g →
      pastClock ((c.start settings).calls k n).reading g = false) :
    Lasts s.uptime settings.grace c ((c.start settings).calls k n) := by
  obtain ⟨hretry, huptime, -, source, hsource⟩ := opened_spec h
  have hkept := kept_calls_start h (broken_start hinterval htimeout hgrace) k n
  generalize (c.start settings).calls k n = c' at hkept htimeout hgrace
  obtain ⟨-, steps, hsteps⟩ := hkept.leads
  refine { unbroken := hkept.broken.resolve_right fun hlate => ?_,
           named := ⟨steps, hsteps, fun earlier later hsplit d hd => ?_⟩ }
  · have hpast := hlate.2
    rw [show (c.start settings).retry.timeout = settings.timeout from hretry] at hpast
    exact nomatch htimeout.symm.trans hpast
  · have hnow : (c.dispatch.source.after earlier).now ≤ c'.now := by
      show _ ≤ c'.dispatch.source.now
      rw [hsteps, hsplit, Pipeline.after_append]
      exact Pipeline.le_now_after _ later
    rw [hsource] at hd hnow
    obtain ⟨g, t, hg, ht, hd⟩ := Pipeline.dated_after source settings.grace {} earlier hd
    have htc : t ≤ c'.now := Nat.le_trans ht hnow
    refine ⟨g, t, hg, htc, hd, ?_⟩
    -- the clock reads no less at the end
    cases hpast : pastClock (s.uptime + Duration.perMilli * t) g with
    | false => rfl
    | true =>
      have hreading : s.uptime + Duration.perMilli * t ≤ c'.reading := by
        rw [Calling.reading, hkept.uptime, show (c.start settings).uptime = s.uptime from huptime]
        exact Nat.add_le_add_left (Nat.mul_le_mul_left _ htc) _
      exact nomatch (hgrace g hg).symm.trans (pastClock_mono hreading hpast)

/-- After calls without a breakdown, the next one is the last if its deadline is out of reach. -/
theorem broken_next (h : opened? line settings s = some c) {k : Nat → Jitter} {n : Nat}
    (hunbroken : ((c.start settings).calls k n).broken = none)
    (hpast : pastClock (((c.start settings).calls k n).wait (k 0)).reading settings.timeout = true) :
    (((c.start settings).calls k n).calls k 1).broken = some .noDeadline := by
  have hstart : (c.start settings).broken = none := by
    cases hbroken : (c.start settings).broken with
    | none => rfl
    | some how =>
      rw [calls_of_broken hbroken, hbroken] at hunbroken
      exact nomatch hunbroken
  have hkept := kept_calls_start h hstart k n
  generalize (c.start settings).calls k n = c' at hunbroken hpast hkept
  have htimeout : (c'.wait (k 0)).retry.timeout = settings.timeout := by
    rw [show (c'.wait (k 0)).retry = (c.start settings).retry from hkept.retry]
    exact (opened_spec h).1
  rw [Calling.calls, Calling.callOnce_of_unbroken hunbroken, Calling.callOrBreak, htimeout,
    breakdownOfCall_eq_some_iff.mpr ⟨hpast, rfl⟩]
  rfl

end Accepted

/-- **What accepted settings can break**, and nothing else: a run that is to have no workers breaks
down before it starts; of what starts only calls break down, and they do if there is no time between
them, or over a moment that the clock cannot name — the deadline of a call, or the end of a grace
period that begins as the endpoints are opened. As long as the clock can name them, a run goes on. -/
theorem sturdy_of_accepted {args : List String} {s : Surroundings} {line : CommandLine}
    {settings : Settings} {layout : LogLayout}
    (hline : CommandLine.read args s.assigned = .ok line) (hlayout : layoutOf s = .ok layout)
    (hsettings : settingsOf line s = .ok settings) : Sturdy args s line settings := by
  refine { workers := prepare_of_accepted hline hlayout, steady := fun h j => ?_,
           opening := fun c h j => ?_, later := fun c h k n => broken_next h,
           calling := fun c h hinterval k n htimeout hgrace => ⟨fun j => ?_, ?_⟩ }
  · rw [start_of_settings hsettings]
    obtain ⟨hbroken, hcalling⟩ := job_startWith_of_unopened h j
    refine ⟨hbroken, fun job hjob k enough n => ?_⟩
    have hjob' : ∀ c, job ≠ .calling c := fun c hc => hcalling c (hc ▸ hjob)
    rw [proceedUntil_of_ne_calling hjob']
    cases job with
    | calling c => exact absurd rfl (hjob' c)
    | watching w | announcing a => rfl
  · rw [start_of_settings hsettings, job_startWith_of_opened? h, ← isSome_breakdownOfOpening]
    cases breakdownOfOpening c.reading c.pool.pending.isSome settings.grace c.interval
      settings.timeout with
    | none => simp
    | some how => simp
  · rw [start_of_settings hsettings, job_startWith_of_opened? h]
    have hunbroken := broken_start hinterval htimeout hgrace
    rw [show breakdownOfOpening .. = (c.start settings).broken from rfl, hunbroken]
  · exact lasts_of_accepted h hinterval htimeout hgrace

/-- Calls to an in-process catalog, every 250 ms, by two workers. -/
def twoWorkers : List String :=
  ["--threads", "2", "--consul-addr", "memory://a:1", "call", "users", "--interval-ms", "250"]

/-- What is given with that. -/
def twoWorkersLine : CommandLine where
  consulAddr := "memory://a:1"
  consulToken := none
  datacenter := none
  configPath := none
  threadName := "relay-worker"
  threads := some 2
  logFilter := "info"
  command := .call { service := "users" } "ping" 250

/-- Its endpoints are opened, so what is said of calls is said of it. -/
theorem sturdy_of_accepted_twoWorkers :
    CommandLine.read twoWorkers [] = .ok twoWorkersLine ∧ layoutOf {} = .ok .standard ∧
      settingsOf twoWorkersLine {} = .ok .standard ∧
      (opened? twoWorkersLine .standard {}).isSome = true ∧
      Sturdy twoWorkers {} twoWorkersLine .standard :=
  ⟨rfl, rfl, rfl, by decide +kernel, sturdy_of_accepted rfl rfl rfl⟩

/-- How a run breaks down at the start whose arguments and settings are accepted, if it does. -/
def breakdown? (args : List String) (s : Surroundings) : Option Breakdown :=
  match prepare args s with
  | .error _ => none
  | .ok p =>
    match (start p.line s .one).job with
    | .error (.broken how) => some how
    | _ => none

/-- What a run finds if every file holds a text. -/
def reading (text : String) : Surroundings := { files := fun _ => .ok text.toUTF8 }

/-- All that is accepted and breaks a run down: no workers, no time between calls, a timeout of as
many seconds as there can be written, and a grace period as long where nobody answers. -/
theorem broken_of_accepted :
    (CommandLine.read ["--threads", "0", "watch", "users"] []).isOk = true ∧
      prepare ["--threads", "0", "watch", "users"] {} = .error { exit := 101 } ∧
      breakdown? ["call", "users", "--interval-ms", "0"] {} = some .noInterval ∧
      breakdown? ["-c", "relay.json", "call", "users"]
        (reading "\x7b\"timeout\": 18446744073709551615\x7d") = some .noDeadline ∧
      breakdown? ["-c", "relay.json", "call", "users"]
        (reading "\x7b\"invalidate_on_error\": 18446744073709551615\x7d") = some .noGraceEnd :=
  ⟨by decide +kernel, rfl, by decide +kernel, by decide +kernel, by decide +kernel⟩

end Program

end Switchboard
