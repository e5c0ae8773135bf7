import Switchboard.Proofs.Feed.FanOut
import Switchboard.Proofs.Watcher.Protocol
/-!
# A watcher that was told to stop

The loop notices that it was told to stop whenever it waits for an answer or sleeps. If that is the
turn it takes, it is over for good: the answer that was under way is never taken, what is known stays
as it is, and for the subscribers there is only a feed that nobody publishes on. They may still come
and go, and whoever comes gets what is known.

If an answer is ready at the very same time (`Tied`), the loop may take that instead, and then it does
publish once more: `told_after_stop` is such a run. So the stop is final, whichever turn the loop takes,
exactly if no tie comes up (`final_iff_untied`). With ties this much is left: the loop takes an answer
only at a tie, and one at most before it is over, if its own turns come one after another.

* `FeedRun.arrivals_take`, `FeedRun.arrived_takes` — a feed that nobody publishes on.
* `WatchRun.onFeed`, `takes` — what subscribers see of a watcher, and what they do.
* `Tied`, `Untied` — an answer is ready when the loop could end; that never happens along a run.
* `Final`, `final_of_untied`, `final_iff_untied` — after the stop, only the subscribers do anything.
* `Alone`, `turnsLeft` — runs of the loop's own turns, and how long they can be.
* `settle_of_stopped` — everyone left to themselves, the loop is over.
* `Stopped`, `stopped_after` — the whole law.
-/

namespace Switchboard

/-! ## A feed that nobody publishes on -/

namespace FeedRun

variable {r : FeedRun}

/-- What a subscriber does brings what is known to whoever joins, under a new number, and nothing to
anybody else. -/
theorem arrivals_take (r : FeedRun) (s : FeedStep) :
    r.arrivals (.take s) = [] ∨ ∃ mailbox,
      r.arrivals (.take s) = [⟨r.feed.nextId, mailbox, r.state⟩] ∧
        (r.act (.take s)).feed.nextId = r.feed.nextId + 1 := by
  cases s with
  | deregister id | dropOwner mailbox | dropReader mailbox | drain mailbox => exact .inl rfl
  | register mailbox =>
    by_cases hreach : (r.mailboxes.ensure mailbox).reaches mailbox = true
    · have harrive : r.arrivals (.take (.register mailbox)) = [(r.feed.subscribe mailbox).2] :=
        if_pos hreach
      have hopen : ((r.mailboxes.ensure mailbox).get? mailbox).any (·.isOpen) = true := by
        cases hopen : ((r.mailboxes.ensure mailbox).get? mailbox).any (·.isOpen) with
        | true => rfl
        | false =>
          rw [Mailboxes.reaches_eq_false_of_closed hopen] at hreach
          exact nomatch hreach
      refine .inr ⟨mailbox, harrive, ?_⟩
      simp only [act, Feed.take, hopen, if_true]
      rfl
    · exact .inl (if_neg hreach)

/-- Along a run of such steps, what is known stays, and arrives once for everyone who joins. -/
theorem arrived_takes (r : FeedRun) (steps : List FeedStep) :
    (r.after (steps.map .take)).state = r.state ∧
      (∀ d ∈ r.arrived (steps.map .take), d.snapshot = r.state ∧ r.feed.nextId ≤ d.subscriber) ∧
      (r.arrived (steps.map .take)).Pairwise fun d e => d.subscriber < e.subscriber := by
  induction steps generalizing r with
  | nil => exact ⟨rfl, fun d hd => absurd hd List.not_mem_nil, .nil⟩
  | cons s rest ih =>
    obtain ⟨hstate, hcopies, honce⟩ := ih (r.act (.take s))
    have hsame : (r.act (.take s)).state = r.state := Feed.take_state ..
    have hnext : r.feed.nextId ≤ (r.act (.take s)).feed.nextId := (r.does_act (.take s)).nextId_le
    have hlater : ∀ d ∈ (r.act (.take s)).arrived (rest.map .take),
        d.snapshot = r.state ∧ r.feed.nextId ≤ d.subscriber := by
      intro d hd
      obtain ⟨hsnapshot, hnumber⟩ := hcopies d hd
      exact ⟨hsnapshot.trans hsame, Nat.le_trans hnext hnumber⟩
    have hcons : r.arrived ((s :: rest).map .take)
        = r.arrivals (.take s) ++ (r.act (.take s)).arrived (rest.map .take) := rfl
    refine ⟨hstate.trans hsame, ?_, ?_⟩
    · intro d hd
      rw [hcons] at hd
      rcases List.mem_append.mp hd with hd | hd
      · rcases r.arrivals_take s with hnone | ⟨mailbox, hone, -⟩
        · rw [hnone] at hd
          exact absurd hd List.not_mem_nil
        · rw [hone] at hd
          rw [List.mem_singleton.mp hd]
          exact ⟨rfl, Nat.le_refl _⟩
      · exact hlater d hd
    · rw [hcons]
      rcases r.arrivals_take s with hnone | ⟨mailbox, hone, hnew⟩
      · rw [hnone, List.nil_append]
        exact honce
      · rw [hone]
        refine List.pairwise_cons.mpr ⟨fun d hd => ?_, honce⟩
        -- whoever comes later has a number beyond the one just given out
        have hnumber := (hcopies d hd).2
        show r.feed.nextId < d.subscriber
        omega

end FeedRun

namespace WatchRun

/-! ## What subscribers see -/

def onFeed (r : WatchRun) : FeedRun := ⟨r.watcher.feed, r.mailboxes⟩

def takes : List WatchStep → List FeedStep
  | [] => []
  | .loop _ :: rest => takes rest
  | .subscriber s :: rest => s :: takes rest

variable {r r' : WatchRun} {x? : Option Exchange}

theorem Moves.stopped (h : r.Moves x? r') (hstopped : r.watcher.stopped = true) :
    r'.watcher.stopped = true := by
  cases h with
  | receive j waiting replied =>
    show (r.watcher.receive r.now j r.mailboxes.reaches _).1.stopped = true
    rw [Watcher.receive_stopped]
    exact hstopped
  | stop => rfl
  | _ => exact hstopped

theorem Moves.ended (h : r.Moves x? r') (hended : r.watcher.phase = .ended) :
    r'.watcher.phase = .ended := by
  cases h with
  | idle | wait ms | change ch | stop => exact hended
  | quit stopped => rfl
  | send asking => exact nomatch hended.symm.trans asking
  | arrive waiting sent => exact nomatch hended.symm.trans waiting
  | notice waiting parked written => exact nomatch hended.symm.trans waiting
  | expire waiting parked due => exact nomatch hended.symm.trans waiting
  | receive j waiting replied => exact nomatch hended.symm.trans waiting
  | wake pausing => exact nomatch hended.symm.trans pausing

theorem stopped_step (hstopped : r.watcher.stopped = true) (s : WatchStep) :
    (r.step s).watcher.stopped = true := by
  cases s with
  | loop s => exact (moves_stepLoop r s).stopped hstopped
  | subscriber s => exact hstopped

theorem ended_step (hended : r.watcher.phase = .ended) (s : WatchStep) :
    (r.step s).watcher.phase = .ended := by
  cases s with
  | loop s => exact (moves_stepLoop r s).ended hended
  | subscriber s => exact hended

/-- What every step keeps, a run keeps. -/
theorem after_induction {P : WatchRun → Prop} (hstep : ∀ r s, P r → P (r.step s)) (hr : P r)
    (steps : List WatchStep) : P (r.after steps) := by
  induction steps generalizing r with
  | nil => exact hr
  | cons s rest ih => exact ih (hstep r s hr)

/-- A loop that was told to stop can end instead of waiting, and that comes first, ... -/
theorem turns_of_waiting (hstopped : r.watcher.stopped = true)
    (hwaiting : r.watcher.phase = .waiting) : r.turns = .quit :: r.queryTurns := by
  simp [turns, hwaiting, hstopped]

/-- ... and instead of sleeping on. -/
theorem turns_of_pausing (hstopped : r.watcher.stopped = true) {wakeAt : Nat}
    (hpausing : r.watcher.phase = .pausing wakeAt) :
    r.turns = .quit :: if wakeAt ≤ r.now then [.wake] else [] := by
  simp [turns, hpausing, hstopped]

/-! ## Ties -/

/-- The loop can end because it was told to stop, and just as well take an answer. -/
def Tied (r : WatchRun) : Prop := Turn.quit ∈ r.turns ∧ Turn.receive ∈ r.turns

instance (r : WatchRun) : Decidable r.Tied :=
  inferInstanceAs (Decidable (Turn.quit ∈ r.turns ∧ Turn.receive ∈ r.turns))

/-- No tie comes up along the run. -/
def Untied (r : WatchRun) : List WatchStep → Prop
  | [] => ¬ r.Tied
  | s :: rest => ¬ r.Tied ∧ Untied (r.step s) rest

instance decidableUntied : (r : WatchRun) → (steps : List WatchStep) → Decidable (r.Untied steps)
  | r, [] => inferInstanceAs (Decidable (¬ r.Tied))
  | r, s :: rest =>
    have : Decidable ((r.step s).Untied rest) := decidableUntied (r.step s) rest
    inferInstanceAs (Decidable (¬ r.Tied ∧ (r.step s).Untied rest))

theorem Untied.not_tied {steps : List WatchStep} (h : r.Untied steps) : ¬ r.Tied := by
  cases steps with
  | nil => exact h
  | cons s rest => exact h.1

theorem untied_append {front rest : List WatchStep} :
    r.Untied (front ++ rest) ↔ r.Untied front ∧ (r.after front).Untied rest := by
  induction front generalizing r with
  | nil => exact ⟨fun h => ⟨h.not_tied, h⟩, fun h => h.2⟩
  | cons s front ih => exact (and_congr_right fun _ => ih).trans and_assoc.symm

/-- Without a tie along a run, there is none at any moment of it. -/
theorem untied_iff {steps : List WatchStep} :
    r.Untied steps ↔ ∀ front, front <+: steps → ¬ (r.after front).Tied := by
  constructor
  · rintro h front ⟨rest, rfl⟩
    exact (untied_append.mp h).2.not_tied
  · intro h
    induction steps generalizing r with
    | nil => exact h [] List.nil_prefix
    | cons s rest ih =>
      refine ⟨h [] List.nil_prefix, ih fun front hfront => ?_⟩
      exact h (s :: front) (List.prefix_cons_inj s |>.mpr hfront)

/-- An answer is taken where it is ready, ... -/
theorem hears?_receive (h : Turn.receive ∈ r.turns) (j : Jitter) :
    ∃ x, r.hears? (.loop (.turn j .receive)) = some x := by
  obtain ⟨-, i, reply, hi, hready⟩ := mem_turns_receive.mp h
  rw [hears?, if_pos h, hi]
  exact ⟨_, congrArg (Option.map _) hready⟩

/-- ... and nowhere else. -/
theorem receive_mem_turns_of_hears {s : WatchStep} {x : Exchange} (h : r.hears? s = some x) :
    Turn.receive ∈ r.turns := by
  unfold hears? at h
  split at h
  · exact (Option.ite_none_right_eq_some.mp h).1
  · exact nomatch h

/-- After the stop every answer that is ready ties with the end. -/
theorem tied_of_receive (hstopped : r.watcher.stopped = true) (h : Turn.receive ∈ r.turns) :
    r.Tied := by
  refine ⟨?_, h⟩
  rw [turns_of_waiting hstopped (mem_turns_receive.mp h).1]
  exact List.mem_cons_self

/-! ## Runs after the stop -/

/-- A step in which no answer is taken is one of a subscriber, or nothing to them. -/
theorem onFeed_step {s : WatchStep} (h : r.hears? s = none) :
    (r.step s).onFeed = r.onFeed.after ((takes [s]).map .take) := by
  cases s with
  | subscriber s => rfl
  | loop s =>
    have hmove := moves_stepLoop r s
    rw [h] at hmove
    obtain ⟨hfeed, -, hmail⟩ := hmove.of_none
    show FeedRun.mk (r.stepLoop s).watcher.feed (r.stepLoop s).mailboxes = r.onFeed
    rw [hfeed, hmail]
    rfl

theorem takes_cons (s : WatchStep) (rest : List WatchStep) :
    takes (s :: rest) = takes [s] ++ takes rest := by
  cases s <;> rfl

/-- **After the stop only the subscribers do anything**, as long as no tie comes up. -/
theorem onFeed_after_of_untied (hstopped : r.watcher.stopped = true) {steps : List WatchStep}
    (huntied : r.Untied steps) :
    r.heard steps = [] ∧
      (r.after steps).onFeed = r.onFeed.after ((takes steps).map .take) := by
  induction steps generalizing r with
  | nil => exact ⟨rfl, rfl⟩
  | cons s rest ih =>
    obtain ⟨hfirst, hrest⟩ := huntied
    have hnone : r.hears? s = none := by
      rw [Option.eq_none_iff_forall_ne_some]
      exact fun x hx => hfirst (tied_of_receive hstopped (receive_mem_turns_of_hears hx))
    obtain ⟨hheard, hfeed⟩ := ih (stopped_step hstopped s) hrest
    constructor
    · show (r.hears? s).toList ++ (r.step s).heard rest = []
      rw [hnone, hheard]
      rfl
    · show ((r.step s).after rest).onFeed = _
      rw [hfeed, onFeed_step hnone, ← FeedRun.after_append, ← List.map_append, ← takes_cons]

theorem turns_of_ended (hended : r.watcher.phase = .ended) : r.turns = [] := by
  simp only [turns, hended]

theorem untied_of_ended (hended : r.watcher.phase = .ended) (steps : List WatchStep) :
    r.Untied steps := by
  have hnone {r : WatchRun} (h : r.watcher.phase = .ended) : ¬ r.Tied := fun htied => by
    rw [Tied, turns_of_ended h] at htied
    exact absurd htied.1 List.not_mem_nil
  rw [untied_iff]
  intro front _
  exact hnone (after_induction (P := fun r => r.watcher.phase = .ended)
    (fun _ s h => ended_step h s) hended front)

theorem settleIn_of_ended (hended : r.watcher.phase = .ended) (j : Jitter) (fuel : Nat) :
    settleIn j fuel r = r := by
  cases fuel with
  | zero => rfl
  | succ fuel => simp only [settleIn, turns, hended]

theorem settleIn_of_quit {rest : List Turn} (h : r.turns = .quit :: rest) (j : Jitter)
    (fuel : Nat) : settleIn j (fuel + 1) r = r.take j .quit := by
  simp only [settleIn, h]
  exact settleIn_of_ended rfl j fuel

/-- **Left to itself, a loop that was told to stop is over** once everything has run until it waits,
and nobody has heard anything. -/
theorem settle_of_stopped (hstopped : r.watcher.stopped = true) (j : Jitter) :
    (r.settle j).watcher.phase = .ended ∧ (r.settle j).onFeed = r.onFeed := by
  -- it takes two turns at most, and may take more
  obtain ⟨fuel, hfuel⟩ : ∃ fuel, r.patience = fuel + 2 := ⟨8 * (r.backend.stock + 4) - 2, by
    unfold patience
    omega⟩
  unfold settle
  rw [hfuel]
  cases hphase : r.watcher.phase with
  | ended =>
    rw [settleIn_of_ended hphase]
    exact ⟨hphase, rfl⟩
  | waiting =>
    rw [settleIn_of_quit (turns_of_waiting hstopped hphase)]
    exact ⟨rfl, rfl⟩
  | pausing wakeAt =>
    rw [settleIn_of_quit (turns_of_pausing hstopped hphase)]
    exact ⟨rfl, rfl⟩
  | asking =>
    have hsend : settleIn j (fuel + 2) r = settleIn j (fuel + 1) (r.take j .send) := by
      simp only [settleIn, turns, hphase]
    have hstopped' : (r.take j .send).watcher.stopped = true := hstopped
    rw [hsend, settleIn_of_quit (turns_of_waiting hstopped' rfl)]
    exact ⟨rfl, rfl⟩

/-! ## Runs of the loop alone -/

/-- Along the run the loop takes its own turns, one after another, and nothing else happens. -/
def Alone (r : WatchRun) : List WatchStep → Prop
  | [] => True
  | s :: rest =>
    (∃ j t, s = .loop (.turn j t) ∧ t ∈ r.turns ∧ ∀ q, t ≠ .query q) ∧ Alone (r.step s) rest

/-- A bound on the turns that the loop can take alone. -/
def turnsLeft (r : WatchRun) : Nat :=
  match r.watcher.phase with
  | .ended => 0
  | .waiting => if Turn.receive ∈ r.turns then 4 else 1
  | .asking => 2
  | .pausing _ => 3

/-- The most turns are left where an answer is ready. -/
theorem turnsLeft_le (r : WatchRun) : r.turnsLeft ≤ if Turn.receive ∈ r.turns then 4 else 3 := by
  unfold turnsLeft
  split <;> split_ifs <;> omega

theorem turnsLeft_pos (h : r.watcher.phase ≠ .ended) : 0 < r.turnsLeft := by
  unfold turnsLeft
  split
  · exact absurd ‹_› h
  · split_ifs <;> omega
  · exact Nat.two_pos
  · exact Nat.succ_pos 2

theorem receive_not_mem_turns (h : r.watcher.phase ≠ .waiting) : Turn.receive ∉ r.turns :=
  fun hmem => h (mem_turns_receive.mp hmem).1

/-- After an answer the loop asks again or sleeps. -/
theorem phase_take_receive (h : Turn.receive ∈ r.turns) (j : Jitter) :
    (r.take j .receive).watcher.phase ≠ .waiting := by
  have hmove := moves_take j h
  obtain ⟨x, hx⟩ := hears?_receive h j
  rw [hx] at hmove
  obtain ⟨due, reply, j', -, -, -, htake⟩ := hmove.of_some
  rw [htake, Watcher.receive_phase]
  split_ifs <;> nofun

/-- Each turn of the loop leaves fewer of them, and after it no answer is ready. -/
theorem turnsLeft_take_lt {j : Jitter} {t : Turn} (ht : t ∈ r.turns) (hown : ∀ q, t ≠ .query q) :
    (r.take j t).turnsLeft < r.turnsLeft ∧ Turn.receive ∉ (r.take j t).turns := by
  cases t with
  | query q => exact absurd rfl (hown q)
  | send =>
    have hnone : Turn.receive ∉ (r.take j .send).turns := by
      intro hmem
      obtain ⟨-, i, reply, hi, hready⟩ := mem_turns_receive.mp hmem
      obtain rfl := Option.some.inj hi
      exact nomatch hready
    have hbefore : r.turnsLeft = 2 := by rw [turnsLeft, mem_turns_send.mp ht]
    have hafter : (r.take j .send).turnsLeft = 1 := if_neg hnone
    exact ⟨by omega, hnone⟩
  | wake =>
    obtain ⟨wakeAt, hpausing⟩ := mem_turns_wake ht
    have hbefore : r.turnsLeft = 3 := by rw [turnsLeft, hpausing]
    have hafter : (r.take j .wake).turnsLeft = 2 := rfl
    exact ⟨by omega, receive_not_mem_turns nofun⟩
  | quit =>
    have hgoes : r.watcher.phase ≠ .ended := by
      intro hended
      rw [turns_of_ended hended] at ht
      exact absurd ht List.not_mem_nil
    exact ⟨turnsLeft_pos hgoes, receive_not_mem_turns nofun⟩
  | receive =>
    have hnone := receive_not_mem_turns (phase_take_receive ht j)
    have hbefore : r.turnsLeft = 4 := by
      rw [turnsLeft, (mem_turns_receive.mp ht).1]
      exact if_pos ht
    have hafter := (r.take j .receive).turnsLeft_le
    rw [if_neg hnone] at hafter
    exact ⟨by omega, hnone⟩

/-- **Alone, the loop is over soon**, and takes one answer at most, the one that was ready at first. By
induction on the run, with fewer turns left after each step. -/
theorem length_le_of_alone {own : List WatchStep} (h : r.Alone own) :
    own.length + (r.after own).turnsLeft ≤ r.turnsLeft ∧
      (r.heard own).length ≤ (if Turn.receive ∈ r.turns then 1 else 0) := by
  induction own generalizing r with
  | nil => exact ⟨by rw [List.length_nil, Nat.zero_add]; rfl, Nat.zero_le _⟩
  | cons s rest ih =>
    obtain ⟨⟨j, t, rfl, ht, hown⟩, hrest⟩ := h
    have hstep : r.step (.loop (.turn j t)) = r.take j t := if_pos ht
    obtain ⟨hless, hnone⟩ := turnsLeft_take_lt (j := j) ht hown
    rw [← hstep] at hless hnone
    obtain ⟨hlength, hheard⟩ := ih hrest
    rw [if_neg hnone] at hheard
    refine ⟨?_, ?_⟩
    · show rest.length + 1 + ((r.step _).after rest).turnsLeft ≤ r.turnsLeft
      omega
    · show ((r.hears? _).toList ++ (r.step _).heard rest).length ≤ _
      rw [List.length_append, Nat.le_zero.mp hheard, Nat.add_zero]
      cases hhears : r.hears? (.loop (.turn j t)) with
      | none => exact Nat.zero_le _
      | some x => rw [if_pos (receive_mem_turns_of_hears hhears)]; rfl

/-- Unless it is over, the loop has a turn of its own. -/
theorem exists_own_turn (hstopped : r.watcher.stopped = true)
    (hgoes : r.watcher.phase ≠ .ended) : ∃ t ∈ r.turns, ∀ q, t ≠ .query q := by
  cases hphase : r.watcher.phase with
  | ended => exact absurd hphase hgoes
  | asking => exact ⟨.send, mem_turns_send.mpr hphase, nofun⟩
  | waiting =>
    rw [turns_of_waiting hstopped hphase]
    exact ⟨.quit, List.mem_cons_self, nofun⟩
  | pausing wakeAt =>
    rw [turns_of_pausing hstopped hphase]
    exact ⟨.quit, List.mem_cons_self, nofun⟩

/-! ## The law -/

/-- What holds of a run on from a moment `r` at which the loop has been told to stop. -/
structure Final (r : WatchRun) (steps : List WatchStep) : Prop where
  /-- No answer is taken any more, ... -/
  heard_eq : r.heard steps = []
  /-- ... what is known stays, ... -/
  state_eq : (r.after steps).state = r.state
  /-- ... and the feed and the mailboxes are what the subscribers make of them: ... -/
  onFeed_eq : (r.after steps).onFeed = r.onFeed.after ((takes steps).map .take)
  /-- ... all that arrives is what is known, for those who join after the stop, ... -/
  arrived : ∀ d ∈ r.onFeed.arrived ((takes steps).map .take),
    d.snapshot = r.state ∧ r.watcher.feed.nextId ≤ d.subscriber
  /-- ... and once for each of them. -/
  once : (r.onFeed.arrived ((takes steps).map .take)).Pairwise
    fun d e => d.subscriber < e.subscriber

/-- Without a tie the stop is final. -/
theorem final_of_untied (hstopped : r.watcher.stopped = true) {steps : List WatchStep}
    (huntied : r.Untied steps) : r.Final steps := by
  obtain ⟨hheard, hfeed⟩ := onFeed_after_of_untied hstopped huntied
  obtain ⟨hstate, harrived, honce⟩ := r.onFeed.arrived_takes (takes steps)
  exact ⟨hheard, (congrArg FeedRun.state hfeed).trans hstate, hfeed, harrived, honce⟩

theorem heard_append (r : WatchRun) (front rest : List WatchStep) :
    r.heard (front ++ rest) = r.heard front ++ (r.after front).heard rest := by
  induction front generalizing r with
  | nil => rfl
  | cons s front ih =>
    show (r.hears? s).toList ++ (r.step s).heard (front ++ rest) = _
    rw [ih, ← List.append_assoc]
    rfl

/-- A step that takes an answer takes none where none is ready, and is no step then. -/
theorem step_receive_of_not_mem (h : Turn.receive ∉ r.turns) (j : Jitter) :
    r.step (.loop (.turn j .receive)) = r := if_neg h

/-- **The stop is final whatever the loop chooses, exactly if no tie comes up.** At a tie it can choose
to take the answer. -/
theorem final_iff_untied (hstopped : r.watcher.stopped = true) {steps : List WatchStep} :
    (∀ front, front <+: steps → ∀ j, r.Final (front ++ [.loop (.turn j .receive)])) ↔
      r.Untied steps := by
  constructor
  · intro hfinal
    rw [untied_iff]
    intro front hfront htied
    obtain ⟨x, hx⟩ := hears?_receive htied.2 .one
    have hheard := (hfinal front hfront .one).heard_eq
    have hlast : (r.after front).heard [.loop (.turn .one .receive)] = [x] := by
      show ((r.after front).hears? _).toList ++ [] = [x]
      rw [hx]
      rfl
    rw [heard_append, hlast] at hheard
    exact List.append_ne_nil_of_right_ne_nil _ (List.cons_ne_nil x []) hheard
  · rintro huntied front ⟨rest, rfl⟩ j
    obtain ⟨hfront, hrest⟩ := untied_append.mp huntied
    have hstopped' : (r.after front).watcher.stopped = true :=
      after_induction (P := fun r => r.watcher.stopped = true) (fun _ s h => stopped_step h s)
        hstopped front
    have hnone : Turn.receive ∉ (r.after front).turns :=
      fun hready => hrest.not_tied (tied_of_receive hstopped' hready)
    refine final_of_untied hstopped (untied_append.mpr ⟨hfront, hrest.not_tied, ?_⟩)
    rw [step_receive_of_not_mem hnone]
    exact hrest.not_tied

/-- A loop that is over waits for no answer. -/
theorem inquiry_of_ended {initial : Answer} {heard : List Exchange} {told : List Snapshot}
    (h : Protocol initial heard told r) (hended : r.watcher.phase = .ended) : r.inquiry = none := by
  obtain ⟨out, hpending, -⟩ := h.asked_eq
  cases hinquiry : r.inquiry with
  | none => rfl
  | some i => exact nomatch hended.symm.trans (hpending.waiting i hinquiry)

/-- What holds of a loop that has been told to stop. -/
structure Stopped (r : WatchRun) : Prop where
  /-- It never forgets that. -/
  stopped : r.watcher.stopped = true
  /-- It can end whenever it waits, ... -/
  waiting : r.watcher.phase = .waiting → Turn.quit ∈ r.turns
  /-- ... and whenever it sleeps. -/
  pausing : ∀ wakeAt, r.watcher.phase = .pausing wakeAt → Turn.quit ∈ r.turns
  /-- Once it is over, it waits for no answer, and the stop is final. -/
  ended : r.watcher.phase = .ended → r.inquiry = none ∧
    ∀ more, (r.after more).watcher.phase = .ended ∧ r.Final more
  /-- If it ends where it can, it is over once everything has run, and nobody hears of it. -/
  settled : ∀ j, (r.settle j).watcher.phase = .ended ∧ (r.settle j).onFeed = r.onFeed
  /-- It takes answers at ties only, ... -/
  tied : ∀ s x, r.hears? s = some x → r.Tied
  /-- ... and alone it takes one at most, the one that is ready now, whatever it chooses, and is over
  after four turns. -/
  alone : ∀ own, r.Alone own → own.length ≤ 4 ∧
    (r.heard own).length ≤ (if Turn.receive ∈ r.turns then 1 else 0) ∧
    ((r.after own).watcher.phase ≠ .ended → ∃ t ∈ (r.after own).turns, ∀ q, t ≠ .query q)

theorem stopped_of_protocol {initial : Answer} {heard : List Exchange} {told : List Snapshot}
    (h : Protocol initial heard told r) (hstopped : r.watcher.stopped = true) : r.Stopped where
  stopped := hstopped
  waiting hwaiting := by
    rw [turns_of_waiting hstopped hwaiting]
    exact List.mem_cons_self
  pausing wakeAt hpausing := by
    rw [turns_of_pausing hstopped hpausing]
    exact List.mem_cons_self
  ended hended := ⟨inquiry_of_ended h hended, fun more =>
    ⟨after_induction (P := fun r => r.watcher.phase = .ended) (fun _ s h => ended_step h s) hended
      more, final_of_untied hstopped (untied_of_ended hended more)⟩⟩
  settled := settle_of_stopped hstopped
  tied _ _ hx := tied_of_receive hstopped (receive_mem_turns_of_hears hx)
  alone own hown := by
    obtain ⟨hlength, hheard⟩ := length_le_of_alone hown
    have hmost := r.turnsLeft_le
    have hstopped' : (r.after own).watcher.stopped = true :=
      after_induction (P := fun r => r.watcher.stopped = true) (fun _ s h => stopped_step h s)
        hstopped own
    refine ⟨?_, hheard, exists_own_turn hstopped'⟩
    split_ifs at hmost <;> omega

/-- **The stop is final unless an answer is ready with it**, whatever the backend does, whatever was
heard before, and whatever happens in whatever order afterwards. At every moment after the stop the
loop can end instead of waiting or sleeping on (`Stopped`). In whatever way it chooses, no answer is
taken, what is known stays, and no snapshot is sent but what is known, once to everyone who joins,
exactly if no answer is ready while it waits. -/
theorem stopped_after (backend : Backend) (query : ServiceQuery) (pace : Backoff)
    (mailboxes : Mailboxes) (sentAt now : Nat) (initial : Answer)
    (before steps : List WatchStep) :
    let r := ((start backend query pace mailboxes sentAt now initial).after before).step (.loop .stop)
    (r.after steps).Stopped ∧
      ((∀ front, front <+: steps → ∀ j, r.Final (front ++ [.loop (.turn j .receive)])) ↔
        ∀ front, front <+: steps → ¬ (r.after front).Tied) ∧
      ((∀ front, front <+: steps → ¬ (r.after front).Tied) → r.Final steps) := by
  intro r
  have hstopped : (r.after steps).watcher.stopped = true :=
    after_induction (P := fun r => r.watcher.stopped = true) (fun _ s h => stopped_step h s) rfl
      steps
  have hprotocol := (((protocol_start backend query pace mailboxes sentAt now initial).after
    before).step (.loop .stop)).after steps
  rw [← untied_iff]
  exact ⟨stopped_of_protocol hprotocol hstopped, final_iff_untied rfl, final_of_untied rfl⟩

/-- A catalog with an instance of `users`, and a watcher on it. -/
def onUsers : WatchRun :=
  start (.catalog (Catalog.empty.setInstances "users" ["a:1"]) none) ⟨"users", [], true⟩ .standard {}
    0 0 (.found ["a:1"] 2)

/-- What happened before the loop is told to stop: the query is out when the catalog changes. -/
def untilChange : List WatchStep :=
  [.subscriber (.register "s"), .loop (.turn .one .send), .loop (.turn .one (.query .arrive)),
    .loop (.change (.setInstances "users" ["b:1"]))]

/-- The query has not seen the change when the loop ends, `s` never hears of it, and `late` joins and
gets what is known. -/
theorem stopped_after_onUsers :
    let r := (onUsers.after untilChange).step (.loop .stop)
    let steps : List WatchStep :=
      [.loop (.turn .one .quit), .subscriber (.register "late"), .loop (.turn .one .receive)]
    r.Untied steps ∧ r.Final steps ∧ (r.after steps).state = .instances ["a:1"] ∧
      ((r.after steps).mailboxes.box "s").waiting = [.instances ["a:1"]] := by
  intro r steps
  have huntied : r.Untied steps := by decide
  obtain ⟨-, -, hfinal⟩ := stopped_after
    (.catalog (Catalog.empty.setInstances "users" ["a:1"]) none) ⟨"users", [], true⟩ .standard {}
    0 0 (.found ["a:1"] 2) untilChange steps
  exact ⟨huntied, hfinal (untied_iff.mp huntied), by decide, by decide⟩

/-- The query has its answer when the loop is told to stop. The loop may end, and it may take the answer:
then what is known changes after the stop, and `s` is sent it. -/
theorem told_after_stop :
    let r := (onUsers.after (untilChange ++ [.loop (.turn .one (.query .notice))])).step (.loop .stop)
    let taken := r.step (.loop (.turn .one .receive))
    r.Tied ∧ r.state = .instances ["a:1"] ∧ (r.mailboxes.box "s").waiting = [.instances ["a:1"]] ∧
      taken.watcher.stopped = true ∧ taken.state = .instances ["b:1"] ∧
      (taken.mailboxes.box "s").waiting = [.instances ["a:1"], .instances ["b:1"]] ∧
      ¬ r.Final [.loop (.turn .one .receive)] := by
  intro r taken
  refine ⟨by decide, by decide, by decide, rfl, by decide, by decide, fun hfinal => ?_⟩
  exact absurd hfinal.state_eq (by decide)

end WatchRun

end Switchboard
