import Switchboard.Retry
/-!
# The course of a call that is tried again

What one attempt of a call can lead to, and what follows for a call after any number of attempts.

* `Race`, `race_spec` — who comes first, and when.
* `Asked`, `Asked.answer?` — an attempt, and what the caller learns of it.
* `Interrupted` — the caller waits, and is called off.
* `Step`, `step_attemptOnce` — the five ways an attempt goes: all that later proofs need to know of
  `Retry.attemptOnce`.
* `Retry.stageAfter`, `stageAfter_induction` — a call after a number of attempts, over or under way;
  what each step keeps, every call keeps. No bound on the number of attempts is needed here, so
  that calls that never end are covered as well.
-/

namespace Switchboard

/-! ## Who comes first -/

/-- Who comes first from now on, and when. A cancellation comes first if it was there before or
falls strictly before the deadline; what is waited for comes first only if it is strictly before
both. -/
inductive Race (now : Nat) (cancelAt : Option Nat) (deadline : Nat) (readyAt : Option Nat) :
    Winner × Nat → Prop
  | cancelled {c : Nat} (hc : cancelAt = some c) (hbefore : c ≤ now ∨ c < deadline)
      (hlate : ∀ r, readyAt = some r → c ≤ max now r) :
      Race now cancelAt deadline readyAt (.cancelled, max now c)
  | deadline (hbefore : ∀ c, cancelAt = some c → now < c ∧ deadline ≤ max now c)
      (hlate : ∀ r, readyAt = some r → deadline ≤ max now r) :
      Race now cancelAt deadline readyAt (.deadline, max now deadline)
  | ready {r : Nat} (hr : readyAt = some r) (hdeadline : max now r < deadline)
      (hcancel : ∀ c, cancelAt = some c → max now r < c) :
      Race now cancelAt deadline readyAt (.ready, max now r)

section RaceSpec

variable {now deadline t c : Nat} {cancelAt readyAt : Option Nat}

theorem Race.of_cancelled (hc : cancelAt = some c) (ht : t = max now c)
    (hbefore : c ≤ now ∨ c < deadline) (hlate : ∀ r, readyAt = some r → c ≤ max now r) :
    Race now cancelAt deadline readyAt (.cancelled, t) := ht ▸ .cancelled hc hbefore hlate

theorem Race.of_deadline (ht : t = max now deadline)
    (hbefore : ∀ c, cancelAt = some c → now < c ∧ deadline ≤ max now c)
    (hlate : ∀ r, readyAt = some r → deadline ≤ max now r) :
    Race now cancelAt deadline readyAt (.deadline, t) := ht ▸ .deadline hbefore hlate

/-- What holds of the value of an option holds of every value that it has. -/
theorem forall_eq_some {P : Nat → Prop} {n : Nat} (h : P n) : ∀ m, some n = some m → P m :=
  fun _ hm => Option.some.inj hm ▸ h

/-- Without a cancellation only the deadline is raced. -/
theorem race_spec_none (now deadline : Nat) (readyAt : Option Nat) :
    Race now none deadline readyAt (race now none deadline readyAt) := by
  unfold race
  by_cases hpast : deadline ≤ now
  · simp only [if_pos hpast]
    exact .of_deadline (by omega) nofun fun r _ => by omega
  simp only [if_neg hpast]
  cases readyAt with
  | none => exact .of_deadline (by omega) nofun nofun
  | some r =>
    by_cases hr : deadline ≤ r
    · simp only [if_pos hr]
      exact .of_deadline (by omega) nofun (forall_eq_some (by omega))
    · simp only [if_neg hr]
      exact .ready rfl (by omega) nofun

/-- The deadline is raced, and a cancellation that is still to come. -/
theorem race_spec (now : Nat) (cancelAt : Option Nat) (deadline : Nat) (readyAt : Option Nat) :
    Race now cancelAt deadline readyAt (race now cancelAt deadline readyAt) := by
  cases cancelAt with
  | none => exact race_spec_none now deadline readyAt
  | some c =>
    -- the cases are those of the definition, in its order
    unfold race
    by_cases hgone : c ≤ now
    · simp only [if_pos hgone]
      exact .of_cancelled rfl (by omega) (.inl hgone) fun r _ => by omega
    simp only [if_neg hgone]
    by_cases hpast : deadline ≤ now
    · simp only [if_pos hpast]
      exact .of_deadline (by omega) (forall_eq_some (by omega)) fun r _ => by omega
    simp only [if_neg hpast]
    cases readyAt with
    | none =>
      by_cases hfirst : deadline ≤ c
      · rw [if_pos ⟨hfirst, rfl⟩]
        exact .of_deadline (by omega) (forall_eq_some (by omega)) nofun
      · rw [if_neg fun h => hfirst h.1]
        exact .of_cancelled rfl (by omega) (by omega) nofun
    | some r =>
      have hready : atOrBefore deadline (some r) = true ↔ deadline ≤ r := decide_eq_true_iff
      by_cases hfirst : deadline ≤ c ∧ deadline ≤ r
      · rw [if_pos ⟨hfirst.1, hready.mpr hfirst.2⟩]
        exact .of_deadline (by omega) (forall_eq_some (by omega)) (forall_eq_some (by omega))
      rw [if_neg fun h => hfirst ⟨h.1, hready.mp h.2⟩]
      by_cases hearly : c ≤ r
      · simp only [if_pos hearly]
        exact .of_cancelled rfl (by omega) (by omega) (forall_eq_some (by omega))
      · simp only [if_neg hearly]
        exact .ready rfl (by omega) (forall_eq_some (by omega))

end RaceSpec

/-! ## Attempts -/

/-- An attempt, as the balancer sees it. -/
structure Asked where
  askedAt : Nat
  request : String
  attempt : Attempt

/-- Is something at a moment still of use to a caller who waits? -/
def inTime (cancelAt : Option Nat) (deadline t : Nat) : Bool :=
  t < deadline && cancelAt.all fun c => t < c

/-- What the caller learns of an attempt, and when. A selection that fails is known at once, while
nothing is watched; an outcome that does not come in time is never known. -/
def Asked.answer? (cancelAt : Option Nat) (deadline : Nat) (a : Asked) :
    Option (Nat × Except Fault String) :=
  match a.attempt with
  | .unavailable why => some (a.askedAt, .error (.call why))
  | .invoked none _ => none
  | .invoked (some d) outcome =>
    if inTime cancelAt deadline (max a.askedAt d) then some (max a.askedAt d, outcome.toResult)
    else none

/-- The fault of an attempt, if it failed and the caller learns of it. -/
def Asked.fault? (cancelAt : Option Nat) (deadline : Nat) (a : Asked) : Option Fault :=
  match a.answer? cancelAt deadline with
  | some (_, .error f) => some f
  | _ => none

/-- A caller who waits since a moment is called off at another: why, and what that counts as. -/
inductive Interrupted (now : Nat) (cancelAt : Option Nat) (deadline : Nat) :
    CallFailure → Tally → Nat → Prop
  | cancelled {c : Nat} (hc : cancelAt = some c) (hbefore : c ≤ now ∨ c < deadline) :
      Interrupted now cancelAt deadline .cancelled { retryCancelled := 1 } (max now c)
  | deadline (hbefore : ∀ c, cancelAt = some c → now < c ∧ deadline ≤ max now c) :
      Interrupted now cancelAt deadline .deadlineExceeded { retryDeadline := 1 } (max now deadline)

section Answers

variable {cancelAt : Option Nat} {deadline t : Nat} {a : Asked}

theorem inTime_iff :
    inTime cancelAt deadline t = true ↔ t < deadline ∧ ∀ c, cancelAt = some c → t < c := by
  cases cancelAt with
  | none => simp [inTime]
  | some c => simp [inTime]

theorem Asked.answer?_of_unavailable {why : CallFailure} (h : a.attempt = .unavailable why) :
    a.answer? cancelAt deadline = some (a.askedAt, .error (.call why)) := by
  rw [answer?, h]

theorem Asked.answer?_of_ready {d : Nat} {outcome : Outcome}
    (h : a.attempt = .invoked (some d) outcome)
    (hin : inTime cancelAt deadline (max a.askedAt d) = true) :
    a.answer? cancelAt deadline = some (max a.askedAt d, outcome.toResult) := by
  rw [answer?, h]
  exact if_pos hin

theorem Asked.answer?_of_late {doneAt : Option Nat} {outcome : Outcome}
    (h : a.attempt = .invoked doneAt outcome)
    (hlate : ∀ d, doneAt = some d → inTime cancelAt deadline (max a.askedAt d) = false) :
    a.answer? cancelAt deadline = none := by
  rw [answer?, h]
  cases doneAt with
  | none => rfl
  | some d => exact if_neg (Bool.eq_false_iff.mp (hlate d rfl))

/-- All that the caller can learn: that there was no endpoint, or the outcome of one, in time. -/
theorem Asked.answer?_cases {o : Except Fault String}
    (h : a.answer? cancelAt deadline = some (t, o)) :
    (∃ why, a.attempt = .unavailable why ∧ t = a.askedAt ∧ o = .error (.call why)) ∨
      (∃ d outcome, a.attempt = .invoked (some d) outcome ∧ t = max a.askedAt d ∧
        inTime cancelAt deadline t = true ∧ o = outcome.toResult) := by
  unfold answer? at h
  split at h
  · rename_i why hattempt
    obtain ⟨rfl, rfl⟩ := Prod.mk.inj (Option.some.inj h)
    exact .inl ⟨why, hattempt, rfl, rfl⟩
  · exact nomatch h
  · rename_i d outcome hattempt
    split at h
    · rename_i hin
      obtain ⟨rfl, rfl⟩ := Prod.mk.inj (Option.some.inj h)
      exact .inr ⟨d, outcome, hattempt, rfl, hin, rfl⟩
    · exact nomatch h

/-- Nothing is known of an attempt before it was made, and of one that takes its time only what is
known before the deadline. -/
theorem Asked.of_answer? {o : Except Fault String} (h : a.answer? cancelAt deadline = some (t, o)) :
    a.askedAt ≤ t ∧ (t = a.askedAt ∧ (∃ f, o = .error f) ∨ t < deadline) := by
  rcases answer?_cases h with ⟨why, -, rfl, rfl⟩ | ⟨d, outcome, -, rfl, hin, -⟩
  · exact ⟨Nat.le_refl _, .inl ⟨rfl, _, rfl⟩⟩
  · exact ⟨Nat.le_max_left _ _, .inr (inTime_iff.mp hin).1⟩

theorem Asked.fault?_of_answer? {f : Fault}
    (h : a.answer? cancelAt deadline = some (t, .error f)) :
    a.fault? cancelAt deadline = some f := by
  rw [fault?, h]

/-- Whoever is called off is so no later than the deadline, unless it had passed before. -/
theorem Interrupted.le {now : Nat} {why : CallFailure} {outcome : Tally}
    (h : Interrupted now cancelAt deadline why outcome t) :
    now ≤ t ∧ t ≤ max now deadline ∧ (why = .deadlineExceeded → t = max now deadline) := by
  cases h with
  | cancelled hc hbefore => exact ⟨Nat.le_max_left _ _, by omega, nofun⟩
  | deadline hbefore => exact ⟨Nat.le_max_left _ _, Nat.le_refl _, fun _ => rfl⟩

end Answers

/-! ## One step -/

namespace CallState

variable {σ : Type}

/-- The attempt that is made next. -/
def asks (s : CallState σ) (env : Environment σ) (request : String) : Asked :=
  ⟨s.now, request, (env.attempt s.state s.now request).1⟩

/-- The call with this attempt made. -/
def asked (s : CallState σ) (env : Environment σ) (request : String) : CallState σ :=
  { s with
    attempts := s.attempts + 1
    tally := s.tally + { retryAttempts := 1 }
    state := (env.attempt s.state s.now request).2 }

/-- The call with a fault recorded and put to the policy. -/
def failed (s : CallState σ) (f : Fault) : CallState σ :=
  { s with record := s.record.push f, consulted := s.consulted ++ [(s.attempts, f)] }

/-- The call after a sleep that began at a moment. -/
def slept (s : CallState σ) (j : Jitter) (t : Nat) : CallState σ :=
  { s with backoff := (s.backoff.draw j).2, now := t + s.backoff.current.ticks }

end CallState

section Steps

variable {σ : Type} (r : Retry) (env : Environment σ) (request : String) (j : Jitter)
  (cancelAt : Option Nat) (deadline : Nat) (s : CallState σ)

/-- Where an attempt leads. -/
inductive Step : CallReport σ ⊕ CallState σ → Prop
  | answered {t : Nat} {text : String}
      (hanswer : (s.asks env request).answer? cancelAt deadline = some (t, .ok text)) :
      Step (.inl ((s.asked env request).finish t (.ok text) { retrySuccess := 1 }))
  | cut {why : CallFailure} {outcome : Tally} {t : Nat}
      (hanswer : (s.asks env request).answer? cancelAt deadline = none)
      (hcut : Interrupted s.now cancelAt deadline why outcome t) :
      Step (.inl ((s.asked env request).finish t (.error why) outcome))
  | gaveUp {t : Nat} {f : Fault}
      (hanswer : (s.asks env request).answer? cancelAt deadline = some (t, .error f))
      (hpolicy : (r.policy (s.attempts + 1) f).1 = false) :
      Step (.inl (((s.asked env request).failed f).finish t
        (.error (.exhausted (s.record.raw ++ [f])
          ((r.policy (s.attempts + 1) f).2.or s.record.final))) { retryExhausted := 1 }))
  | calledOff {t : Nat} {f : Fault} {why : CallFailure} {outcome : Tally} {t' : Nat}
      (hanswer : (s.asks env request).answer? cancelAt deadline = some (t, .error f))
      (hpolicy : (r.policy (s.attempts + 1) f).1 = true)
      (hcut : Interrupted t cancelAt deadline why outcome t') :
      Step (.inl (((s.asked env request).failed f).finish t' (.error why) outcome))
  | again {t : Nat} {f : Fault}
      (hanswer : (s.asks env request).answer? cancelAt deadline = some (t, .error f))
      (hpolicy : (r.policy (s.attempts + 1) f).1 = true)
      (hready : t + s.backoff.current.ticks < deadline)
      (hcancel : ∀ c, cancelAt = some c → t + s.backoff.current.ticks < c) :
      Step (.inr (((s.asked env request).failed f).slept j t))

variable {r env request j cancelAt deadline s}

/-- What follows from a failed attempt, by what the policy says. -/
theorem afterFailure_eq (t : Nat) (f : Fault) :
    r.afterFailure j cancelAt deadline s t f =
      if (r.policy s.attempts f).1 then
        match race t cancelAt deadline (some (t + s.backoff.current.ticks)) with
        | (.cancelled, t) =>
          .inl ((s.failed f).finish t (.error .cancelled) { retryCancelled := 1 })
        | (.deadline, t) =>
          .inl ((s.failed f).finish t (.error .deadlineExceeded) { retryDeadline := 1 })
        | (.ready, t) => .inr { s.failed f with backoff := (s.backoff.draw j).2, now := t }
      else
        .inl ((s.failed f).finish t (.error (.exhausted (s.record.raw ++ [f])
          ((r.policy s.attempts f).2.or s.record.final))) { retryExhausted := 1 }) := by
  unfold Retry.afterFailure
  rcases r.policy s.attempts f with ⟨_ | _, _ | replacement⟩ <;> rfl

theorem step_afterFailure {t : Nat} {f : Fault}
    (hanswer : (s.asks env request).answer? cancelAt deadline = some (t, .error f)) :
    Step r env request j cancelAt deadline s
      (r.afterFailure j cancelAt deadline (s.asked env request) t f) := by
  have hattempts : (s.asked env request).attempts = s.attempts + 1 := rfl
  have hbackoff : (s.asked env request).backoff = s.backoff := rfl
  rw [afterFailure_eq, hattempts, hbackoff]
  by_cases hpolicy : (r.policy (s.attempts + 1) f).1 = true
  · rw [if_pos hpolicy]
    have hrace := race_spec t cancelAt deadline (some (t + s.backoff.current.ticks))
    generalize race t cancelAt deadline (some (t + s.backoff.current.ticks)) = winner at hrace ⊢
    cases hrace with
    | cancelled hc hbefore hlate => exact .calledOff hanswer hpolicy (.cancelled hc hbefore)
    | deadline hbefore hlate => exact .calledOff hanswer hpolicy (.deadline hbefore)
    | ready hr hdeadline hcancel =>
      -- a sleep ends when it is due, however late it began
      obtain rfl := Option.some.inj hr
      have hmax : max t (t + s.backoff.current.ticks) = t + s.backoff.current.ticks := by omega
      rw [hmax] at hdeadline hcancel ⊢
      exact .again hanswer hpolicy hdeadline hcancel
  · rw [if_neg hpolicy]
    exact .gaveUp hanswer (Bool.eq_false_iff.mpr hpolicy)

/-- What an attempt leads to, by what became of it. -/
theorem attemptOnce_eq :
    r.attemptOnce env request j cancelAt deadline s =
      match (s.asks env request).attempt with
      | .unavailable why =>
        r.afterFailure j cancelAt deadline (s.asked env request) s.now (.call why)
      | .invoked doneAt outcome =>
        match race s.now cancelAt deadline doneAt with
        | (.cancelled, t) =>
          .inl ((s.asked env request).finish t (.error .cancelled) { retryCancelled := 1 })
        | (.deadline, t) =>
          .inl ((s.asked env request).finish t (.error .deadlineExceeded) { retryDeadline := 1 })
        | (.ready, t) =>
          match outcome.toResult with
          | .ok text => .inl ((s.asked env request).finish t (.ok text) { retrySuccess := 1 })
          | .error f => r.afterFailure j cancelAt deadline (s.asked env request) t f := rfl

/-- **An attempt goes one of five ways.** -/
theorem step_attemptOnce :
    Step r env request j cancelAt deadline s
      (r.attemptOnce env request j cancelAt deadline s) := by
  rw [attemptOnce_eq]
  cases hattempt : (s.asks env request).attempt with
  | unavailable why => exact step_afterFailure (Asked.answer?_of_unavailable hattempt)
  | invoked doneAt outcome =>
    have hrace := race_spec s.now cancelAt deadline doneAt
    simp only
    generalize race s.now cancelAt deadline doneAt = winner at hrace ⊢
    cases hrace with
    | cancelled hc hbefore hlate =>
      -- whoever loses the race is not in time, so its outcome is never known
      refine .cut (Asked.answer?_of_late hattempt fun t ht => ?_) (.cancelled hc hbefore)
      exact Bool.eq_false_iff.mpr fun hin =>
        Nat.not_lt_of_ge (hlate t ht) ((inTime_iff.mp hin).2 _ hc)
    | deadline hbefore hlate =>
      refine .cut (Asked.answer?_of_late hattempt fun t ht => ?_) (.deadline hbefore)
      exact Bool.eq_false_iff.mpr fun hin => Nat.not_lt_of_ge (hlate t ht) (inTime_iff.mp hin).1
    | ready hr hdeadline hcancel =>
      subst hr
      have hanswer := Asked.answer?_of_ready hattempt (inTime_iff.mpr ⟨hdeadline, hcancel⟩)
      cases hresult : outcome.toResult with
      | ok text =>
        rw [hresult] at hanswer
        exact .answered hanswer
      | error f =>
        rw [hresult] at hanswer
        exact step_afterFailure hanswer

end Steps

/-! ## Any number of steps -/

section Stages

variable {σ : Type} (r : Retry) (env : Environment σ) (request : String) (jitter : Nat → Jitter)
  (cancelAt : Option Nat) (deadline : Nat)

/-- A call after so many attempts, or after its end if that comes before. -/
def Retry.stageAfter : Nat → CallState σ → CallReport σ ⊕ CallState σ
  | 0, s => .inr s
  | n + 1, s =>
    match r.attemptOnce env request (jitter s.attempts) cancelAt deadline s with
    | .inl report => .inl report
    | .inr s => stageAfter n s

/-- The executor follows the stages until one of them is over. -/
theorem attemptsIn_eq (n : Nat) (s : CallState σ) :
    r.attemptsIn env request jitter cancelAt deadline n s
      = (r.stageAfter env request jitter cancelAt deadline n s).getLeft? := by
  induction n generalizing s with
  | zero => rfl
  | succ n ih =>
    rw [Retry.attemptsIn, Retry.stageAfter]
    cases r.attemptOnce env request (jitter s.attempts) cancelAt deadline s with
    | inl report => rfl
    | inr s' => exact ih s'

variable {r env request jitter cancelAt deadline}

/-- **What each step keeps, a call keeps**: `P` of a call under way, and `Q` of a call that is
over. -/
theorem stageAfter_induction {P : CallState σ → Prop} {Q : CallReport σ → Prop}
    (hstep : ∀ s o, P s → Step r env request (jitter s.attempts) cancelAt deadline s o →
      Sum.elim Q P o)
    {n : Nat} {s : CallState σ} {o : CallReport σ ⊕ CallState σ} (hs : P s)
    (ho : r.stageAfter env request jitter cancelAt deadline n s = o) : Sum.elim Q P o := by
  induction n generalizing s with
  | zero =>
    subst ho
    exact hs
  | succ n ih =>
    have hnext := hstep s _ hs step_attemptOnce
    rw [Retry.stageAfter] at ho
    generalize r.attemptOnce env request (jitter s.attempts) cancelAt deadline s = next at hnext ho
    cases next with
    | inl report =>
      subst ho
      exact hnext
    | inr s' => exact ih hnext ho

/-- **What each attempt keeps of the surroundings, a call keeps**, under way and when it is over. -/
theorem state_stageAfter {P : σ → Prop} (hattempt : ∀ st t req, P st → P (env.attempt st t req).2)
    {n : Nat} {s : CallState σ} {o : CallReport σ ⊕ CallState σ} (hs : P s.state)
    (ho : r.stageAfter env request jitter cancelAt deadline n s = o) :
    Sum.elim (fun c : CallReport σ => P c.state) (fun s : CallState σ => P s.state) o := by
  have hstep : ∀ s o, P s.state → Step r env request (jitter s.attempts) cancelAt deadline s o →
      Sum.elim (fun c : CallReport σ => P c.state) (fun s : CallState σ => P s.state) o := by
    intro s o hs hstep
    have hasked : P (s.asked env request).state := hattempt s.state s.now request hs
    cases hstep <;> exact hasked
  exact stageAfter_induction (P := fun s => P s.state) (Q := fun c => P c.state) hstep hs ho

theorem state_execute {P : σ → Prop} (hattempt : ∀ st t req, P st → P (env.attempt st t req).2)
    {now : Nat} {state : σ} (hstate : P state) {report : CallReport σ}
    (h : r.execute env jitter cancelAt now request state = some report) : P report.state := by
  rw [Retry.execute, attemptsIn_eq] at h
  exact state_stageAfter (s := r.begin now state) hattempt hstate (Sum.getLeft?_eq_some_iff.mp h)

end Stages

end Switchboard
