import Switchboard.Pipeline
import Switchboard.Proofs.Watcher.Course
/-!
# The course of a pipeline at work

The parts of a pipeline run side by side: the watch loop takes its turns, the task of the supply
takes its own, callers read, addresses stop being dialled or can be dialled again. `Pipeline.settle`
lets all of them run until they wait. Statements about pipelines range over finer runs, in which
the parts take their turns in any order.

* `Pipeline.turn` — one turn of the supply's task.
* `Step`, `step`, `after` — what can happen to a pipeline, and runs of it.
* `drain_eq_after`, `settle_eq_after`, `advance_eq_after`, `reach_eq_after`, `endpoints_eq_after` —
  while the supply is open, what the pipeline does as a whole is a run of this kind.
* `closing_after` — a supply that was closed stays closed.
-/

namespace Switchboard

namespace Source

/-- A step of the loop, the clock or the catalog; a feed that is published on by hand has only the
clock. -/
def stepLoop : Source → LoopStep → Source
  | .feed now f boxes, .wait ms => .feed (now + ms) f boxes
  | .feed now f boxes, _ => .feed now f boxes
  | .watch run, s => .watch (run.stepLoop s)

@[simp] theorem mailboxes_withMailboxes (s : Source) (boxes : Mailboxes) :
    (s.withMailboxes boxes).mailboxes = boxes := by
  cases s <;> rfl

@[simp] theorem withMailboxes_withMailboxes (s : Source) (boxes boxes' : Mailboxes) :
    (s.withMailboxes boxes).withMailboxes boxes' = s.withMailboxes boxes' := by
  cases s <;> rfl

@[simp] theorem now_withMailboxes (s : Source) (boxes : Mailboxes) :
    (s.withMailboxes boxes).now = s.now := by
  cases s <;> rfl

/-- A source settles by steps of the loop. -/
theorem settle_eq_foldl (j : Jitter) (s : Source) :
    ∃ steps : List LoopStep, s.settle j = steps.foldl stepLoop s ∧ (s.settle j).now = s.now := by
  cases s with
  | feed now f boxes => exact ⟨[], rfl, rfl⟩
  | watch run =>
    obtain ⟨ts, hts, hnow⟩ := WatchRun.settleIn_eq_afterLoop j run.patience run
    refine ⟨ts.map (.turn j), ?_, hnow⟩
    show Source.watch (WatchRun.settleIn j run.patience run) = _
    rw [hts]
    exact (List.foldl_hom Source.watch fun _ _ => rfl).symm

/-- A source's clock is set by waiting. -/
theorem at_eq_stepLoop {s : Source} {moment : Nat} (h : s.now ≤ moment) :
    s.at_ moment = s.stepLoop (.wait (moment - s.now)) := by
  cases s with
  | feed now f boxes =>
    have h : now ≤ moment := h
    show Source.feed moment f boxes = .feed (now + (moment - now)) f boxes
    rw [Nat.add_sub_cancel' h]
  | watch run =>
    have h : run.now ≤ moment := h
    show Source.watch { run with now := moment }
      = .watch { run with now := run.now + (moment - run.now) }
    rw [Nat.add_sub_cancel' h]

end Source

namespace Pipeline

/-- One turn of the supply's task. -/
def turn (p : Pipeline) : Pipeline :=
  let (supply, waiting, events) := p.supply.turn p.factory.build p.now p.waiting
  { p with
    supply, events := p.events ++ events
    source := p.source.withMailboxes
      (p.source.mailboxes.modify Supply.mailbox fun b => { b with waiting }) }

/-- What can happen to a pipeline. -/
inductive Step
  /-- Something happens to the watch loop, the clock or the catalog. -/
  | loop (s : LoopStep)
  | apply
  | read
  /-- From now on other addresses can be dialled. -/
  | refit (factory : Factory)
  | close
  | drop

/-- The pipeline after a step. -/
def step (p : Pipeline) : Step → Pipeline
  | .loop s => { p with source := p.source.stepLoop s }
  | .apply => p.turn
  | .read => p.read.2
  | .refit factory => { p with factory }
  | .close => p.closeSupply
  | .drop => p.dropSupply

/-- The pipeline after steps. -/
def after (p : Pipeline) (steps : List Step) : Pipeline := steps.foldl step p

theorem after_append (p : Pipeline) (l m : List Step) :
    p.after (l ++ m) = (p.after l).after m := List.foldl_append

/-- Steps of the loop concern the source only. -/
theorem after_map_loop (p : Pipeline) (steps : List LoopStep) :
    p.after (steps.map .loop) = { p with source := steps.foldl Source.stepLoop p.source } := by
  induction steps generalizing p with
  | nil => rfl
  | cons s rest ih =>
    show (p.step (.loop s)).after (rest.map .loop) = _
    rw [ih]
    rfl

/-! ## The supply's task runs until it waits -/

/-- The task was not told to end, and did not. -/
def IsOpen (p : Pipeline) : Prop := p.supply.closing = false ∧ p.supply.finished = false

variable {p : Pipeline}

theorem run_eq_applyAll (h : p.IsOpen) (waiting : List Snapshot) :
    p.supply.run p.factory.build p.now waiting
      = p.supply.applyAll p.factory.build p.now waiting := by
  unfold Supply.run
  rw [h.1, h.2]
  rfl

/-- With nothing to do, a turn is all there is. -/
theorem drain_of_waiting_nil (h : p.IsOpen) (hwaiting : p.waiting = []) : p.drain = p.turn := by
  unfold drain turn
  rw [run_eq_applyAll h, hwaiting]
  unfold Supply.turn
  rw [h.1, h.2]
  rfl

/-- With something to do, a turn does the first of it. -/
theorem turn_of_waiting_cons (h : p.IsOpen) {snapshot : Snapshot} {rest : List Snapshot}
    (hwaiting : p.waiting = snapshot :: rest) :
    p.turn = { p with
      supply := (p.supply.apply p.factory.build p.now snapshot).1
      events := p.events ++ (p.supply.apply p.factory.build p.now snapshot).2
      source := p.source.withMailboxes
        (p.source.mailboxes.modify Supply.mailbox fun b => { b with waiting := rest }) } := by
  unfold turn Supply.turn
  rw [h.1, h.2, hwaiting]
  rfl

/-- A turn leaves the task open. -/
theorem isOpen_turn (h : p.IsOpen) : p.turn.IsOpen := by
  unfold turn Supply.turn
  rw [h.1, h.2]
  cases p.waiting <;> exact h

theorem waiting_turn (h : p.IsOpen) {snapshot : Snapshot} {rest : List Snapshot}
    (hwaiting : p.waiting = snapshot :: rest) : p.turn.waiting = rest := by
  rw [turn_of_waiting_cons h hwaiting]
  unfold waiting at hwaiting ⊢
  rw [Source.mailboxes_withMailboxes, Mailboxes.get?_modify]
  cases hbox : p.source.mailboxes.get? Supply.mailbox with
  | none =>
    rw [hbox] at hwaiting
    exact nomatch hwaiting
  | some box => rfl

@[simp] theorem now_turn (p : Pipeline) : p.turn.now = p.now := Source.now_withMailboxes ..

/-- After a turn, the task goes on as it would have. -/
theorem drain_turn (h : p.IsOpen) {snapshot : Snapshot} {rest : List Snapshot}
    (hwaiting : p.waiting = snapshot :: rest) : p.turn.drain = p.drain := by
  have hturn := turn_of_waiting_cons h hwaiting
  unfold drain
  rw [run_eq_applyAll h, run_eq_applyAll (isOpen_turn h), waiting_turn h hwaiting, hwaiting,
    now_turn, hturn]
  simp only [Source.mailboxes_withMailboxes, Source.withMailboxes_withMailboxes,
    Mailboxes.emptied, Mailboxes.modify_modify, Supply.applyAll, List.append_assoc]
  rfl

/-- While the task is open, letting it run is letting it take turns. -/
theorem drain_eq_after (h : p.IsOpen) : ∃ n, p.drain = p.after (List.replicate n .apply) := by
  generalize hwaiting : p.waiting = waiting
  induction waiting generalizing p with
  | nil => exact ⟨1, drain_of_waiting_nil h hwaiting⟩
  | cons snapshot rest ih =>
    obtain ⟨n, hn⟩ := ih (isOpen_turn h) (waiting_turn h hwaiting)
    refine ⟨n + 1, ?_⟩
    rw [← drain_turn h hwaiting, hn, List.replicate_succ]
    rfl

theorem applyAll_open (s : Supply) (build : String → Build) (now : Nat)
    (waiting : List Snapshot) :
    (s.applyAll build now waiting).1.closing = s.closing ∧
      (s.applyAll build now waiting).1.finished = s.finished := by
  induction waiting generalizing s with
  | nil => exact ⟨rfl, rfl⟩
  | cons snapshot rest ih => exact ih (s.apply build now snapshot).1

theorem isOpen_drain (h : p.IsOpen) : p.drain.IsOpen := by
  unfold drain
  rw [run_eq_applyAll h]
  obtain ⟨hclosing, hfinished⟩ := applyAll_open p.supply p.factory.build p.now p.waiting
  exact ⟨hclosing.trans h.1, hfinished.trans h.2⟩

@[simp] theorem now_drain (p : Pipeline) : p.drain.now = p.now := Source.now_withMailboxes ..

/-! ## The whole pipeline -/

/-- While the supply is open, a pipeline settles by a run. -/
theorem settle_eq_after (j : Jitter) (h : p.IsOpen) :
    ∃ steps, p.settle j = p.after steps ∧ (p.settle j).IsOpen ∧ (p.settle j).now = p.now := by
  obtain ⟨ls, hls, hnow⟩ := p.source.settle_eq_foldl j
  have hopen : IsOpen { p with source := p.source.settle j } := h
  obtain ⟨n, hn⟩ := drain_eq_after hopen
  refine ⟨ls.map .loop ++ List.replicate n .apply, ?_, isOpen_drain hopen, ?_⟩
  · rw [after_append, after_map_loop, ← hls]
    exact hn
  · exact (now_drain _).trans hnow

/-- While the supply is open, the clock of a pipeline goes on by a run. -/
theorem advance_eq_after (j : Jitter) (ms : Nat) (h : p.IsOpen) :
    ∃ steps, p.advance j ms = p.after steps ∧ (p.advance j ms).IsOpen := by
  obtain ⟨first, hfirst, hopen, hnow⟩ := settle_eq_after j h
  let P (q : Pipeline) : Prop := q.IsOpen ∧ ∃ steps, q = p.after steps
  have hjump : ∀ q m, P q → (clockwork j).now q ≤ m →
      P ((clockwork j).jump m q) ∧ (clockwork j).now ((clockwork j).jump m q) = m := by
    rintro q m ⟨hq, steps, rfl⟩ hm
    have hat : ({ p.after steps with source := (p.after steps).source.at_ m } : Pipeline)
        = (p.after steps).step (.loop (.wait (m - (p.after steps).now))) := by
      show _ = ({ p.after steps with source := _ } : Pipeline)
      rw [Source.at_eq_stepLoop hm]
      rfl
    have hclock : ({ p.after steps with source := (p.after steps).source.at_ m } : Pipeline).now
        = m := by
      show ((p.after steps).source.at_ m).now = m
      cases (p.after steps).source <;> rfl
    have hopen : IsOpen { p.after steps with source := (p.after steps).source.at_ m } := hq
    obtain ⟨more, hmore, hopen', hnow'⟩ := settle_eq_after j hopen
    refine ⟨⟨hopen', steps ++ .loop (.wait (m - (p.after steps).now)) :: more, ?_⟩,
      hnow'.trans hclock⟩
    rw [after_append]
    show settle j _ = ((p.after steps).step (.loop (.wait (m - (p.after steps).now)))).after more
    rw [← hat]
    exact hmore
  obtain ⟨hend, steps, hsteps⟩ : P (p.advance j ms) := by
    refine Clockwork.advanceTo_induction hjump _ ⟨hopen, first, hfirst⟩ ?_
    show (p.settle j).now ≤ p.now + ms
    omega
  exact ⟨steps, hsteps, hend⟩

/-- While the supply is open, a pipeline comes to a moment by a run. -/
theorem reach_eq_after (j : Jitter) (moment : Nat) (h : p.IsOpen) :
    ∃ steps, p.reach j moment = p.after steps ∧ (p.reach j moment).IsOpen := by
  unfold reach
  by_cases hlt : p.now < moment
  · rw [if_pos hlt]
    exact advance_eq_after j (moment - p.now) h
  · rw [if_neg hlt]
    exact ⟨[], rfl, h⟩

/-- A read leaves the task alone. -/
theorem isOpen_read (h : p.IsOpen) : p.read.2.IsOpen := by
  unfold Pipeline.read
  cases p.dropped <;> exact h

/-- While the supply is open, a read at a moment is the end of a run. -/
theorem endpoints_eq_after (j : Jitter) (moment : Nat) (h : p.IsOpen) :
    ∃ steps, (p.endpoints j moment).2 = p.after steps ∧ (p.endpoints j moment).2.IsOpen := by
  obtain ⟨steps, hsteps, hopen⟩ := reach_eq_after j moment h
  refine ⟨steps ++ [.read], ?_, isOpen_read hopen⟩
  rw [after_append, ← hsteps]
  rfl

/-- A read of a supply that is still there is a read of its pool. -/
theorem read_of_undropped (h : p.dropped = false) :
    p.read.2 = { p with
      supply := { p.supply with pool := (p.supply.pool.read p.now).1 }
      events := p.events ++ (p.supply.pool.read p.now).2.1 } := by
  unfold Pipeline.read
  rw [h]
  rfl

/-! ## Once the task was told to end -/

/-- A supply that was closed stays closed. -/
theorem closing_step (h : p.supply.closing = true) (s : Step) :
    (p.step s).supply.closing = true := by
  cases s with
  | loop s => exact h
  | refit factory => exact h
  | apply =>
    show p.turn.supply.closing = true
    unfold turn Supply.turn
    rw [h]
    cases p.supply.finished with
    | true => exact h
    | false => rfl
  | read =>
    show p.read.2.supply.closing = true
    unfold Pipeline.read
    cases p.dropped <;> exact h
  | close =>
    show p.closeSupply.supply.closing = true
    unfold closeSupply
    cases p.dropped with
    | true => exact h
    | false => rfl
  | drop =>
    show p.dropSupply.supply.closing = true
    unfold dropSupply
    cases p.dropped with
    | true => exact h
    | false => rfl

theorem closing_after (h : p.supply.closing = true) (steps : List Step) :
    (p.after steps).supply.closing = true := by
  induction steps generalizing p with
  | nil => exact h
  | cons s rest ih => exact ih (closing_step h s)

end Pipeline

end Switchboard
