import Switchboard.Feed.Session
import Switchboard.Proofs.Watcher.Receive
import Switchboard.Watcher.Run
/-!
# The course of a watcher at work

`WatchRun` is driven from outside: whoever drives it chooses among the turns that can be taken, and
lets time pass, the catalog change and subscribers come and go in between. This file gives the
runs that all later statements about watchers range over, and says once what a step can do.

* `LoopStep`, `WatchStep` — the steps, with `stepLoop` and `step`; a turn that cannot be taken is
  skipped, so that every list of steps is a run (`after`).
* `Moves` — everything a step of the loop can do, one constructor for each move, with the answer
  that was taken, if it took one; `moves_stepLoop` is the inversion lemma that invariants are
  derived from.
* `Moves.feed_cases` — a move publishes a snapshot to all who can be reached, or nobody hears of it.
* `heard`, `published` — the answers that the loop took along a run, each with the index that its
  query sent, and the snapshots that were published on the way.
* `settle_eq_afterLoop`, `advance_eq_afterLoop` — letting a run settle and letting its clock go on
  are runs of this kind, so what holds of all runs holds of these.
-/

namespace Switchboard

/-- What can happen to a watcher at work, apart from its subscribers. -/
inductive LoopStep
  /-- A turn is taken, if it can be; `j` is the factor of the next delay, should one be drawn. -/
  | turn (j : Jitter) (t : Turn)
  | wait (ms : Nat)
  | change (ch : Catalog.Change)
  | stop

/-- What can happen to a watcher at work. -/
inductive WatchStep
  | loop (s : LoopStep)
  | subscriber (s : FeedStep)

/-- An answer, with the index that its query sent. -/
structure Exchange where
  sent : Nat
  answer : Answer
  deriving DecidableEq, Repr, Inhabited

/-- A query that has come in is no longer on its way. -/
theorem Backend.enter_ne_sent (b : Backend) (q : ServiceQuery) (now last : Nat) :
    (b.enter q now last).2 ≠ .sent := by
  cases b with
  | catalog c patience =>
    unfold enter
    cases hanswer : (c.enter q last).2 <;> simp [hanswer]
  | agent client network => exact Inquiry.noConfusion
  | script replies => cases replies <;> exact Inquiry.noConfusion

namespace WatchRun

/-- What is known. -/
def state (r : WatchRun) : Snapshot := r.watcher.feed.state

/-- The subscribers who can be reached. -/
def audience (r : WatchRun) : List (Nat × String) :=
  r.watcher.feed.subscribers.filter fun p => r.mailboxes.reaches p.2

/-- A step of the loop. -/
def stepLoop (r : WatchRun) : LoopStep → WatchRun
  | .turn j t => if t ∈ r.turns then r.take j t else r
  | .wait ms => { r with now := r.now + ms }
  | .change ch => r.change ch
  | .stop => r.stop

/-- The same run with another feed, and other mailboxes. -/
def withFeed (r : WatchRun) (feed : Feed) (mailboxes : Mailboxes) : WatchRun :=
  { r with watcher := { r.watcher with feed }, mailboxes }

/-- A step. -/
def step (r : WatchRun) : WatchStep → WatchRun
  | .loop s => r.stepLoop s
  | .subscriber s =>
    r.withFeed (r.watcher.feed.take r.mailboxes s).2.1 (r.watcher.feed.take r.mailboxes s).2.2

/-- The run after steps of the loop. -/
def afterLoop (r : WatchRun) (steps : List LoopStep) : WatchRun := steps.foldl stepLoop r

/-- The run after steps. -/
def after (r : WatchRun) (steps : List WatchStep) : WatchRun := steps.foldl step r

/-- The answer that the loop takes in a step. -/
def hears? (r : WatchRun) : WatchStep → Option Exchange
  | .loop (.turn _ .receive) =>
    if .receive ∈ r.turns then
      (r.inquiry.bind (·.ready? r.now)).map fun reply => ⟨r.watcher.last, reply.toAnswer⟩
    else none
  | _ => none

/-- The snapshot that is published in a step. -/
def publishes? (r : WatchRun) (s : WatchStep) : Option Snapshot :=
  (r.hears? s).bind fun x => r.watcher.publication x.answer

/-- What is seen along a run, of what can be seen in a step. -/
def collect {α : Type} (see : WatchRun → WatchStep → Option α) (r : WatchRun) :
    List WatchStep → List α
  | [] => []
  | s :: rest => (see r s).toList ++ collect see (r.step s) rest

/-- The answers that the loop took along a run, oldest first. -/
def heard (r : WatchRun) (steps : List WatchStep) : List Exchange := collect hears? r steps

/-- The snapshots that were published along a run, oldest first. -/
def published (r : WatchRun) (steps : List WatchStep) : List Snapshot :=
  collect publishes? r steps

/-! ## What a step of the loop can do -/

/-- Everything that a step of the loop can do, with the answer that it took, if any. -/
inductive Moves (r : WatchRun) : Option Exchange → WatchRun → Prop
  | idle : Moves r none r
  | send (asking : r.watcher.phase = .asking) :
    Moves r none { r with watcher := r.watcher.send, inquiry := some .sent }
  | arrive (waiting : r.watcher.phase = .waiting) (sent : r.inquiry = some .sent) :
    Moves r none { r with
      backend := (r.backend.enter r.query r.now r.watcher.last).1
      inquiry := some (r.backend.enter r.query r.now r.watcher.last).2
      asked := r.asked ++ [(r.now, r.watcher.last)] }
  | notice {seen : Nat} {giveUpAt : Option Nat} (waiting : r.watcher.phase = .waiting)
    (parked : r.inquiry = some (.parked seen giveUpAt)) (written : seen ≠ r.backend.revision) :
    Moves r none { r with
      inquiry := some (match r.backend.look r.query r.watcher.last with
        | some a => .replied (some r.now) (.answer a)
        | none => .parked r.backend.revision giveUpAt) }
  | expire {seen : Nat} {giveUpAt : Option Nat} (waiting : r.watcher.phase = .waiting)
    (parked : r.inquiry = some (.parked seen giveUpAt)) (due : hasCome r.now giveUpAt = true) :
    Moves r none { r with
      inquiry := some (.replied (some r.now) (.answer (r.backend.current r.query))) }
  | receive {due : Option Nat} {reply : Reply} (j : Jitter)
    (waiting : r.watcher.phase = .waiting) (replied : r.inquiry = some (.replied due reply)) :
    Moves r (some ⟨r.watcher.last, reply.toAnswer⟩) { r with
      watcher := (r.watcher.receive r.now j r.mailboxes.reaches reply.toAnswer).1
      inquiry := none
      mailboxes := r.mailboxes.postAll
        (r.watcher.receive r.now j r.mailboxes.reaches reply.toAnswer).2 }
  | wake {wakeAt : Nat} (pausing : r.watcher.phase = .pausing wakeAt) :
    Moves r none { r with watcher := r.watcher.wake }
  | quit (stopped : r.watcher.stopped = true) :
    Moves r none { r with watcher := r.watcher.quit, inquiry := none }
  | wait (ms : Nat) : Moves r none { r with now := r.now + ms }
  | change (ch : Catalog.Change) : Moves r none { r with backend := r.backend.change ch }
  | stop : Moves r none { r with watcher := r.watcher.stop }

/-- A move that takes no answer leaves the feed, its subscribers' mail and the index alone. -/
theorem Moves.of_none {r r' : WatchRun} (h : r.Moves none r') :
    r'.watcher.feed = r.watcher.feed ∧ r'.watcher.last = r.watcher.last ∧
      r'.mailboxes = r.mailboxes := by
  cases h <;> exact ⟨rfl, rfl, rfl⟩

/-- A move that takes an answer takes it from the query that is out. -/
theorem Moves.of_some {r r' : WatchRun} {x : Exchange} (h : r.Moves (some x) r') :
    ∃ (due : Option Nat) (reply : Reply) (j : Jitter), r.watcher.phase = .waiting ∧
      r.inquiry = some (.replied due reply) ∧ x = ⟨r.watcher.last, reply.toAnswer⟩ ∧
      r' = { r with
        watcher := (r.watcher.receive r.now j r.mailboxes.reaches x.answer).1
        inquiry := none
        mailboxes := r.mailboxes.postAll
          (r.watcher.receive r.now j r.mailboxes.reaches x.answer).2 } := by
  cases h with
  | receive j waiting replied => exact ⟨_, _, j, waiting, replied, rfl, rfl⟩

/-- A move leaves the feed and everyone's mail alone, or it publishes a snapshot, which goes to all
who can be reached. -/
theorem Moves.feed_cases {r r' : WatchRun} {x? : Option Exchange} (h : r.Moves x? r') :
    ((x?.bind fun x => r.watcher.publication x.answer) = none ∧
      r'.watcher.feed = r.watcher.feed ∧ r'.mailboxes = r.mailboxes) ∨
    ∃ s, (x?.bind fun x => r.watcher.publication x.answer) = some s ∧
      r'.watcher.feed = { r.watcher.feed with state := s, subscribers := r.audience } ∧
      r'.mailboxes = r.mailboxes.postAll (r.audience.map fun p => ⟨p.1, p.2, s⟩) := by
  cases x? with
  | none =>
    obtain ⟨hfeed, -, hmail⟩ := h.of_none
    exact .inl ⟨rfl, hfeed, hmail⟩
  | some x =>
    obtain ⟨due, reply, j, -, -, -, rfl⟩ := h.of_some
    cases hpub : r.watcher.publication x.answer with
    | none =>
      obtain ⟨hfeed, hout⟩ :=
        Watcher.receive_of_publication_eq_none r.now j r.mailboxes.reaches hpub
      exact .inl ⟨hpub, hfeed, by rw [hout]; rfl⟩
    | some s =>
      obtain ⟨hfeed, hout⟩ :=
        Watcher.receive_of_publication_eq_some r.now j r.mailboxes.reaches hpub
      exact .inr ⟨s, hpub, hfeed, by rw [hout]; rfl⟩

/-- The question stays the same. -/
theorem Moves.query_eq {r r' : WatchRun} {x? : Option Exchange} (h : r.Moves x? r') :
    r'.query = r.query := by
  cases h with
  | receive j waiting replied => exact Watcher.receive_query ..
  | _ => rfl

/-! ### Which turns can be taken -/

theorem mem_turns_send {r : WatchRun} : Turn.send ∈ r.turns ↔ r.watcher.phase = .asking := by
  unfold turns queryTurns
  cases r.watcher.phase <;> cases r.inquiry <;> cases r.watcher.stopped <;> simp

theorem mem_turns_wake {r : WatchRun} (h : Turn.wake ∈ r.turns) :
    ∃ wakeAt, r.watcher.phase = .pausing wakeAt := by
  unfold turns queryTurns at h
  cases hp : r.watcher.phase with
  | pausing wakeAt => exact ⟨wakeAt, rfl⟩
  | asking | ended => simp [hp] at h
  | waiting => cases hi : r.inquiry <;> cases hs : r.watcher.stopped <;> simp [hp, hi, hs] at h

theorem mem_turns_quit {r : WatchRun} (h : Turn.quit ∈ r.turns) : r.watcher.stopped = true := by
  cases hs : r.watcher.stopped with
  | true => rfl
  | false =>
    unfold turns queryTurns at h
    cases hp : r.watcher.phase <;> cases hi : r.inquiry <;> simp [hp, hi, hs] at h

theorem mem_turns_query {r : WatchRun} {t : QueryTurn} :
    Turn.query t ∈ r.turns ↔ r.watcher.phase = .waiting ∧
      ∃ i, r.inquiry = some i ∧ t ∈ i.turns r.now r.backend.revision := by
  unfold turns queryTurns
  cases r.watcher.phase <;> cases r.inquiry <;> cases r.watcher.stopped <;> simp

theorem mem_turns_receive {r : WatchRun} :
    Turn.receive ∈ r.turns ↔
      r.watcher.phase = .waiting ∧
        ∃ i reply, r.inquiry = some i ∧ i.ready? r.now = some reply := by
  unfold turns queryTurns
  cases r.watcher.phase <;> cases r.inquiry <;> cases r.watcher.stopped <;>
    simp [Option.isSome_iff_exists]

theorem mem_turns_arrive {r : WatchRun} (h : Turn.query .arrive ∈ r.turns) :
    r.watcher.phase = .waiting ∧ r.inquiry = some .sent := by
  obtain ⟨hphase, i, hi, hmem⟩ := mem_turns_query.mp h
  cases i with
  | sent => exact ⟨hphase, hi⟩
  | parked seen giveUpAt => simp [Inquiry.turns] at hmem
  | replied due reply => simp [Inquiry.turns] at hmem

theorem mem_turns_notice {r : WatchRun} :
    Turn.query .notice ∈ r.turns ↔ r.watcher.phase = .waiting ∧
      ∃ seen giveUpAt, r.inquiry = some (.parked seen giveUpAt) ∧ seen ≠ r.backend.revision := by
  rw [mem_turns_query]
  refine and_congr_right fun _ => ⟨?_, ?_⟩
  · rintro ⟨i, hi, hmem⟩
    cases i with
    | sent => simp [Inquiry.turns] at hmem
    | parked seen giveUpAt =>
      refine ⟨seen, giveUpAt, hi, fun heq => ?_⟩
      simp [Inquiry.turns, heq] at hmem
    | replied due reply => simp [Inquiry.turns] at hmem
  · rintro ⟨seen, giveUpAt, hi, hne⟩
    exact ⟨_, hi, by simp [Inquiry.turns, hne]⟩

theorem mem_turns_expire {r : WatchRun} (h : Turn.query .expire ∈ r.turns) :
    r.watcher.phase = .waiting ∧ ∃ seen giveUpAt,
      r.inquiry = some (.parked seen giveUpAt) ∧ hasCome r.now giveUpAt = true := by
  obtain ⟨hphase, i, hi, hmem⟩ := mem_turns_query.mp h
  cases i with
  | sent => simp [Inquiry.turns] at hmem
  | parked seen giveUpAt =>
    refine ⟨hphase, seen, giveUpAt, hi, ?_⟩
    cases hdue : hasCome r.now giveUpAt with
    | true => rfl
    | false => simp [Inquiry.turns, hdue] at hmem
  | replied due reply => simp [Inquiry.turns] at hmem

/-- A reply that is ready was given. -/
theorem exists_due_of_ready? {i : Inquiry} {now : Nat} {reply : Reply}
    (h : i.ready? now = some reply) : ∃ due, i = .replied due reply := by
  cases i with
  | sent | parked _ _ => exact nomatch h
  | replied due reply' =>
    obtain ⟨-, heq⟩ := Option.ite_none_right_eq_some.mp h
    exact ⟨due, congrArg _ (Option.some.inj heq)⟩

/-! ### The inversion lemma -/

/-- A turn that can be taken is one of the moves. -/
theorem moves_take {r : WatchRun} (j : Jitter) {t : Turn} (h : t ∈ r.turns) :
    r.Moves (r.hears? (.loop (.turn j t))) (r.take j t) := by
  cases t with
  | send => exact .send (mem_turns_send.mp h)
  | wake =>
    obtain ⟨wakeAt, hphase⟩ := mem_turns_wake h
    exact .wake hphase
  | quit => exact .quit (mem_turns_quit h)
  | receive =>
    obtain ⟨hphase, i, reply, hi, hready⟩ := mem_turns_receive.mp h
    obtain ⟨due, rfl⟩ := exists_due_of_ready? hready
    have hbind : r.inquiry.bind (·.ready? r.now) = some reply := by rw [hi]; exact hready
    have hhears : r.hears? (.loop (.turn j .receive)) = some ⟨r.watcher.last, reply.toAnswer⟩ := by
      simp only [hears?, if_pos h, hbind, Option.map_some]
    rw [hhears]
    simp only [take, hbind]
    exact .receive j hphase hi
  | query t =>
    cases t with
    | arrive =>
      obtain ⟨hphase, hi⟩ := mem_turns_arrive h
      simp only [take, hi]
      exact .arrive hphase hi
    | notice =>
      obtain ⟨hphase, seen, giveUpAt, hi, hne⟩ := mem_turns_notice.mp h
      have hmove := Moves.notice hphase hi hne
      simp only [take, hi, Backend.progress]
      cases hlook : r.backend.look r.query r.watcher.last <;>
        (simp only [hlook] at hmove; exact hmove)
    | expire =>
      obtain ⟨hphase, seen, giveUpAt, hi, hdue⟩ := mem_turns_expire h
      simp only [take, hi, Backend.progress]
      exact .expire hphase hi hdue

/-- What a step of the loop does is one of the moves. -/
theorem moves_stepLoop (r : WatchRun) (s : LoopStep) :
    r.Moves (r.hears? (.loop s)) (r.stepLoop s) := by
  cases s with
  | turn j t =>
    by_cases ht : t ∈ r.turns
    · rw [show r.stepLoop (.turn j t) = r.take j t from if_pos ht]
      exact moves_take j ht
    · rw [show r.stepLoop (.turn j t) = r from if_neg ht]
      have hnone : r.hears? (.loop (.turn j t)) = none := by
        cases t with
        | receive => exact if_neg ht
        | send | wake | quit | query _ => rfl
      rw [hnone]
      exact .idle
  | wait ms => exact .wait ms
  | change ch => exact .change ch
  | stop => exact .stop

/-! ## Runs -/

theorem afterLoop_append (r : WatchRun) (l m : List LoopStep) :
    r.afterLoop (l ++ m) = (r.afterLoop l).afterLoop m := List.foldl_append

@[simp] theorem take_now (r : WatchRun) (j : Jitter) (t : Turn) : (r.take j t).now = r.now := by
  cases t with
  | send | wake | quit => rfl
  | query t => simp only [take]; cases r.inquiry <;> rfl
  | receive => simp only [take]; cases r.inquiry.bind (·.ready? r.now) <;> rfl

/-- A run settles by turns. -/
theorem settleIn_eq_afterLoop (j : Jitter) (fuel : Nat) (r : WatchRun) :
    ∃ ts : List Turn, settleIn j fuel r = r.afterLoop (ts.map (.turn j)) ∧
      (settleIn j fuel r).now = r.now := by
  induction fuel generalizing r with
  | zero => exact ⟨[], rfl, rfl⟩
  | succ fuel ih =>
    cases hturns : r.turns with
    | nil =>
      have hstay : settleIn j (fuel + 1) r = r := by simp only [settleIn, hturns]
      exact ⟨[], hstay, congrArg now hstay⟩
    | cons t rest =>
      have hgo : settleIn j (fuel + 1) r = settleIn j fuel (r.take j t) := by
        simp only [settleIn, hturns]
      have hstep : r.stepLoop (.turn j t) = r.take j t := by
        simp [stepLoop, hturns]
      obtain ⟨ts, hts, hnow⟩ := ih (r.take j t)
      refine ⟨t :: ts, ?_, ?_⟩
      · rw [hgo, hts, ← hstep]
        rfl
      · rw [hgo, hnow, take_now]

/-- The clock of a run jumps by waiting, and then turns are taken. -/
theorem jump_eq_afterLoop (j : Jitter) {moment : Nat} {r : WatchRun} (h : r.now ≤ moment) :
    ∃ steps, (clockwork j).jump moment r = r.afterLoop steps ∧
      ((clockwork j).jump moment r).now = moment := by
  obtain ⟨ts, hts, hnow⟩ :=
    settleIn_eq_afterLoop j (patience { r with now := moment }) { r with now := moment }
  refine ⟨.wait (moment - r.now) :: ts.map (.turn j), ?_, hnow⟩
  have hwait : r.stepLoop (.wait (moment - r.now)) = { r with now := moment } := by
    simp [stepLoop, Nat.add_sub_cancel' h]
  show settle j { r with now := moment } = (r.stepLoop (.wait (moment - r.now))).afterLoop _
  rw [hwait]
  exact hts

/-- A run that settles is a run. -/
theorem settle_eq_afterLoop (j : Jitter) (r : WatchRun) :
    ∃ steps, r.settle j = r.afterLoop steps := by
  obtain ⟨ts, hts, -⟩ := settleIn_eq_afterLoop j r.patience r
  exact ⟨_, hts⟩

/-- A run whose clock goes on is a run. -/
theorem advance_eq_afterLoop (j : Jitter) (ms : Nat) (r : WatchRun) :
    ∃ steps, r.advance j ms = r.afterLoop steps := by
  obtain ⟨ts, hts, hnow⟩ := settleIn_eq_afterLoop j r.patience r
  have hjump : ∀ s m, (∃ steps, s = r.afterLoop steps) → (clockwork j).now s ≤ m →
      (∃ steps, (clockwork j).jump m s = r.afterLoop steps) ∧
        (clockwork j).now ((clockwork j).jump m s) = m := by
    rintro s m ⟨steps, rfl⟩ hm
    obtain ⟨more, hmore, hend⟩ := jump_eq_afterLoop j hm
    exact ⟨⟨steps ++ more, by rw [hmore, afterLoop_append]⟩, hend⟩
  refine Clockwork.advanceTo_induction hjump (r.timerBound ms) ⟨_, hts⟩ ?_
  show (settleIn j r.patience r).now ≤ r.now + ms
  omega

end WatchRun

end Switchboard
