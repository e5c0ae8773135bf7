import Mathlib.Data.List.Basic
import Switchboard.Proofs.Retry.Deadline
/-!
# The accounts of a call

A call that is tried again leaves a trail: the attempts that were made, what the policy was asked,
the faults on record, the counters that moved. This file proves that they agree, for every balancer,
policy and backoff, after every attempt of every call.

* `Environment.logged` — the same surroundings with a log of what they were asked.
* `Environment.IsSeenAs`, `stageAfter_mapState` — surroundings with more to them than is shown, such
  as a log, in which the same call takes the same course.
* `Orderly` — what holds of the log: the caller's request, nothing after the end, and each attempt
  done with before the next.
* `Underway`, `Accounts`, `elim_step_underway` — the accounts of a call under way and of one that is
  over; a step leads from the one to the other.
* `accounts_stageAfter` — the whole law.

A policy is a function here. It is asked with another number each time, so one with a memory could
do no more within a call.
-/

namespace Switchboard

/-! ## A log of the attempts -/

section Log

variable {σ τ : Type}

/-- The same surroundings, with a log of what they were asked. -/
def Environment.logged (env : Environment σ) : Environment (σ × List Asked) where
  attempt s now request :=
    ((env.attempt s.1 now request).1, (env.attempt s.1 now request).2,
      s.2 ++ [⟨now, request, (env.attempt s.1 now request).1⟩])

def CallState.mapState (g : σ → τ) (s : CallState σ) : CallState τ :=
  ⟨s.now, s.attempts, s.record, s.backoff, s.consulted, s.tally, g s.state⟩

def CallReport.mapState (g : σ → τ) (c : CallReport σ) : CallReport τ :=
  ⟨c.result, c.endedAt, c.attempts, c.consulted, c.tally, g c.state⟩

/-- The surroundings `env'` are `env`, with more to their state than `g` shows of it. -/
def Environment.IsSeenAs (env' : Environment τ) (g : τ → σ) (env : Environment σ) : Prop :=
  ∀ state now request, env.attempt (g state) now request
    = ((env'.attempt state now request).1, g (env'.attempt state now request).2)

theorem Environment.isSeenAs_logged (env : Environment σ) : env.logged.IsSeenAs Prod.fst env :=
  fun _ _ _ => rfl

variable {r : Retry} {env : Environment σ} {env' : Environment τ} {g : τ → σ} {request : String}
  {j : Jitter} {jitter : Nat → Jitter} {cancelAt : Option Nat} {deadline : Nat}

theorem afterFailure_mapState (g : τ → σ) (s : CallState τ) (t : Nat) (f : Fault) :
    r.afterFailure j cancelAt deadline (s.mapState g) t f
      = (r.afterFailure j cancelAt deadline s t f).map (CallReport.mapState g)
          (CallState.mapState g) := by
  have hattempts : (s.mapState g).attempts = s.attempts := rfl
  have hbackoff : (s.mapState g).backoff = s.backoff := rfl
  rw [afterFailure_eq, afterFailure_eq, hattempts, hbackoff]
  by_cases hpolicy : (r.policy s.attempts f).1 = true
  · rw [if_pos hpolicy, if_pos hpolicy]
    rcases race t cancelAt deadline (some (t + s.backoff.current.ticks)) with ⟨winner, t'⟩
    cases winner <;> rfl
  · rw [if_neg hpolicy, if_neg hpolicy]
    rfl

/-- What is not shown of the surroundings changes nothing about an attempt. -/
theorem attemptOnce_mapState (hseen : env'.IsSeenAs g env) (s : CallState τ) :
    r.attemptOnce env request j cancelAt deadline (s.mapState g)
      = (r.attemptOnce env' request j cancelAt deadline s).map
          (CallReport.mapState g) (CallState.mapState g) := by
  have hsame := hseen s.state s.now request
  have hattempt : ((s.mapState g).asks env request).attempt = (s.asks env' request).attempt :=
    congrArg Prod.fst hsame
  have hasked : (s.mapState g).asked env request = (s.asked env' request).mapState g := by
    simp only [CallState.asked, CallState.mapState, hsame]
  rw [attemptOnce_eq, attemptOnce_eq, hattempt, hasked]
  cases (s.asks env' request).attempt with
  | unavailable why => exact afterFailure_mapState g _ _ _
  | invoked doneAt outcome =>
    have hnow : (s.mapState g).now = s.now := rfl
    simp only [hnow]
    rcases race s.now cancelAt deadline doneAt with ⟨winner, t⟩
    cases winner with
    | cancelled => rfl
    | deadline => rfl
    | ready =>
      cases outcome.toResult with
      | ok text => rfl
      | error f => exact afterFailure_mapState g _ _ _

/-- **The same call takes the same course**, whatever else there is to the surroundings. -/
theorem stageAfter_mapState (hseen : env'.IsSeenAs g env) (n : Nat) (s : CallState τ) :
    r.stageAfter env request jitter cancelAt deadline n (s.mapState g)
      = (r.stageAfter env' request jitter cancelAt deadline n s).map
          (CallReport.mapState g) (CallState.mapState g) := by
  induction n generalizing s with
  | zero => rfl
  | succ n ih =>
    rw [Retry.stageAfter, Retry.stageAfter, attemptOnce_mapState hseen]
    have hattempts : (s.mapState g).attempts = s.attempts := rfl
    rw [hattempts]
    cases r.attemptOnce env' request (jitter s.attempts) cancelAt deadline s with
    | inl report => rfl
    | inr s' => exact ih s'

theorem exists_of_stageAfter_mapState (hseen : env'.IsSeenAs g env) {n : Nat} {s : CallState τ}
    {c : CallReport σ}
    (h : r.stageAfter env request jitter cancelAt deadline n (s.mapState g) = .inl c) :
    ∃ c', r.stageAfter env' request jitter cancelAt deadline n s = .inl c' ∧ c'.mapState g = c := by
  rw [stageAfter_mapState hseen] at h
  cases hrun : r.stageAfter env' request jitter cancelAt deadline n s with
  | inl c' =>
    rw [hrun] at h
    exact ⟨c', rfl, Sum.inl.inj h⟩
  | inr s' =>
    rw [hrun] at h
    cases h

/-- So the executor reports what the call leads to in surroundings with more to them. -/
theorem attemptsIn_mapState (hseen : env'.IsSeenAs g env) (n : Nat) (s : CallState τ) :
    r.attemptsIn env request jitter cancelAt deadline n (s.mapState g)
      = (r.stageAfter env' request jitter cancelAt deadline n s).getLeft?.map
          (CallReport.mapState g) := by
  rw [attemptsIn_eq, stageAfter_mapState hseen]
  cases r.stageAfter env' request jitter cancelAt deadline n s <;> rfl

end Log

/-! ## What is kept account of -/

variable {σ : Type}

def numbered (fs : List Fault) : List (Nat × Fault) := fs.mapIdx fun i f => (i + 1, f)

theorem numbered_concat (fs : List Fault) (f : Fault) :
    numbered (fs ++ [f]) = numbered fs ++ [(fs.length + 1, f)] := List.mapIdx_concat

def CallResult.tally : CallResult → Tally
  | .ok _ => { retrySuccess := 1 }
  | .error (.exhausted _ _) => { retryExhausted := 1 }
  | .error .deadlineExceeded => { retryDeadline := 1 }
  | .error .cancelled => { retryCancelled := 1 }
  | .error _ => {}

/-- What holds of the attempts of a call that started at a moment, by another moment. -/
structure Orderly (request : String) (cancelAt : Option Nat) (start deadline now : Nat)
    (log : List Asked) : Prop where
  /-- Every endpoint was invoked with the caller's request. -/
  request_eq : ∀ a ∈ log, a.request = request
  start_le : ∀ a ∈ log, start ≤ a.askedAt
  le_now : ∀ a ∈ log, a.askedAt ≤ now
  /-- An attempt was done with before another was made. -/
  apart : log.Pairwise fun a b =>
    ∃ t o, a.answer? cancelAt deadline = some (t, o) ∧ t ≤ b.askedAt

/-- The accounts of a call under way, with the log of its attempts. -/
structure Underway (r : Retry) (request : String) (cancelAt : Option Nat) (start deadline : Nat)
    (s : CallState (σ × List Asked)) : Prop where
  start_le : start ≤ s.now
  orderly : Orderly request cancelAt start deadline s.now s.state.2
  /-- Every attempt failed by now, ... -/
  failed : ∀ a ∈ s.state.2, ∃ t f, a.answer? cancelAt deadline = some (t, .error f) ∧ t ≤ s.now
  /-- ... and its fault is on record, ... -/
  faults_eq : s.state.2.map (Asked.fault? cancelAt deadline) = s.record.raw.map some
  final_eq : s.record.final = none
  /-- ... and was put to the policy with the number of the attempt, which said to go on. -/
  consulted_eq : s.consulted = numbered s.record.raw
  goOn : ∀ p ∈ s.consulted, (r.policy p.1 p.2).1 = true
  attempts_eq : s.attempts = s.state.2.length
  tally_eq : s.tally = { retryAttempts := s.state.2.length }

/-- The accounts of a call that is over, with the log of its attempts. -/
structure Accounts (r : Retry) (request : String) (cancelAt : Option Nat) (start deadline : Nat)
    (c : CallReport (σ × List Asked)) : Prop where
  /-- It succeeded, was given up by the policy, ran out of time or was cancelled. -/
  result_eq : (∃ text, c.result = .ok text) ∨
    (∃ raw final, c.result = .error (.exhausted raw final)) ∨
    c.result = .error .deadlineExceeded ∨ c.result = .error .cancelled
  orderly : Orderly request cancelAt start deadline c.endedAt c.state.2
  attempts_eq : c.attempts = c.state.2.length
  /-- The attempts were counted, and the one outcome. -/
  tally_eq : c.tally = { retryAttempts := c.state.2.length } + c.result.tally
  /-- The policy was asked once for each attempt that failed, with its number and its fault. -/
  consulted_eq :
    c.consulted = numbered (c.state.2.filterMap (Asked.fault? cancelAt deadline))
  /-- All attempts failed but the last, of which more is said below. -/
  failed : ∀ a ∈ c.state.2.dropLast, (a.fault? cancelAt deadline).isSome = true
  /-- A response is that of the last attempt. -/
  answered : ∀ text, c.result = .ok text → ∃ a, c.state.2.getLast? = some a ∧
    a.answer? cancelAt deadline = some (c.endedAt, .ok text)
  /-- A record has one fault for each attempt, in their order. The policy said stop to the last one,
  and the fault that it named then, if it did, is the terminal one. -/
  exhausted : ∀ raw final, c.result = .error (.exhausted raw final) →
    c.state.2.map (Asked.fault? cancelAt deadline) = raw.map some ∧
      ∃ f, raw.getLast? = some f ∧ r.policy raw.length f = (false, final)
  /-- To all others, and without a record to all, it said to go on. -/
  goOn : ∀ p ∈ c.consulted, (r.policy p.1 p.2).1 = false →
    (∃ raw final, c.result = .error (.exhausted raw final)) ∧ c.consulted.getLast? = some p

/-! ## The accounts are kept -/

section Keeping

variable {σ : Type} {r : Retry} {env : Environment σ} {request : String} {cancelAt : Option Nat}
  {start deadline : Nat} {s : CallState (σ × List Asked)}

/-- Attempts that all failed have the faults that are on record. -/
theorem filterMap_eq_of_map_eq {α β : Type} {g : α → Option β} {l : List α} {m : List β}
    (h : l.map g = m.map some) : l.filterMap g = m := by
  calc l.filterMap g = l.filterMap (id ∘ g) := rfl
    _ = (l.map g).filterMap id := List.filterMap_map.symm
    _ = (m.map some).filterMap id := by rw [h]
    _ = m := by rw [List.filterMap_map]; exact List.filterMap_some

theorem Underway.length_raw (hs : Underway r request cancelAt start deadline s) :
    s.record.raw.length = s.attempts := by
  have hlength := congrArg List.length hs.faults_eq
  rw [List.length_map, List.length_map] at hlength
  rw [hs.attempts_eq, hlength]

theorem Underway.tally_asked (hs : Underway r request cancelAt start deadline s) (a : Asked) :
    s.tally + { retryAttempts := 1 } = { retryAttempts := (s.state.2 ++ [a]).length } := by
  rw [hs.tally_eq, List.length_append, List.length_singleton]
  rfl

theorem Underway.orderly_asked (hs : Underway r request cancelAt start deadline s) {t : Nat}
    (ht : s.now ≤ t) :
    Orderly request cancelAt start deadline t (s.state.2 ++ [s.asks env.logged request]) := by
  have hlast {a : Asked} {P : Asked → Prop} (hold : ∀ a ∈ s.state.2, P a)
      (hnew : P (s.asks env.logged request))
      (ha : a ∈ s.state.2 ++ [s.asks env.logged request]) : P a := by
    rcases List.mem_append.mp ha with ha | ha
    · exact hold a ha
    · rw [List.mem_singleton.mp ha]
      exact hnew
  refine { request_eq := fun a => hlast hs.orderly.request_eq rfl,
           start_le := fun a => hlast hs.orderly.start_le hs.start_le,
           le_now := fun a => hlast (fun b hb => Nat.le_trans (hs.orderly.le_now b hb) ht) ht,
           apart := List.pairwise_append.mpr
            ⟨hs.orderly.apart, List.pairwise_singleton _ _, fun a ha b hb => ?_⟩ }
  -- an earlier attempt failed by now, which is when the new one is made
  rw [List.mem_singleton.mp hb]
  obtain ⟨t', f, hanswer, hle⟩ := hs.failed a ha
  exact ⟨t', _, hanswer, hle⟩

/-- The fault of an attempt that failed is put to the policy with the number of the attempt. -/
theorem Underway.consulted_failed (hs : Underway r request cancelAt start deadline s) (f : Fault) :
    s.consulted ++ [(s.attempts + 1, f)] = numbered (s.record.raw ++ [f]) := by
  rw [numbered_concat, hs.consulted_eq, hs.length_raw]

/-- **A call goes on** with its accounts in order after an attempt that failed. -/
theorem Underway.again (hs : Underway r request cancelAt start deadline s) {t : Nat} {f : Fault}
    (hanswer : (s.asks env.logged request).answer? cancelAt deadline = some (t, .error f))
    (hpolicy : (r.policy (s.attempts + 1) f).1 = true) (j : Jitter) :
    Underway r request cancelAt start deadline
      (((s.asked env.logged request).failed f).slept j t) := by
  have hle : s.now ≤ t := (Asked.of_answer? hanswer).1
  have hnow : s.now ≤ t + s.backoff.current.ticks := Nat.le_trans hle (Nat.le_add_right _ _)
  refine { start_le := Nat.le_trans hs.start_le hnow, orderly := hs.orderly_asked hnow,
           failed := fun a ha => ?_, faults_eq := ?_, final_eq := hs.final_eq,
           consulted_eq := hs.consulted_failed f, goOn := fun p hp => ?_, attempts_eq := ?_,
           tally_eq := hs.tally_asked _ }
  · rcases List.mem_append.mp ha with ha | ha
    · obtain ⟨t', g, hold, hle'⟩ := hs.failed a ha
      exact ⟨t', g, hold, Nat.le_trans hle' hnow⟩
    · rw [List.mem_singleton.mp ha]
      exact ⟨t, f, hanswer, Nat.le_add_right _ _⟩
  · show (s.state.2 ++ [s.asks env.logged request]).map (Asked.fault? cancelAt deadline)
      = (s.record.raw ++ [f]).map some
    rw [List.map_append, List.map_append, hs.faults_eq, List.map_singleton, List.map_singleton,
      Asked.fault?_of_answer? hanswer]
  · rcases List.mem_append.mp hp with hp | hp
    · exact hs.goOn p hp
    · rw [List.mem_singleton.mp hp]
      exact hpolicy
  · show s.attempts + 1 = (s.state.2 ++ [s.asks env.logged request]).length
    rw [hs.attempts_eq, List.length_append, List.length_singleton]

/-- What the accounts of a call that is over say of its log, of its counters and of what the policy
was asked, if `x` is the call when its last attempt was done with. -/
theorem Underway.accounts (hs : Underway r request cancelAt start deadline s)
    {x : CallState (σ × List Asked)} {t : Nat} {result : CallResult}
    (hstate : x.state = (s.asked env.logged request).state)
    (hattempts : x.attempts = s.attempts + 1)
    (htally : x.tally = s.tally + { retryAttempts := 1 })
    (hconsulted : x.consulted = numbered (s.record.raw
      ++ ((s.asks env.logged request).fault? cancelAt deadline).toList))
    (ht : s.now ≤ t) (hresult : (∃ text, result = .ok text) ∨
      (∃ raw final, result = .error (.exhausted raw final)) ∨
      result = .error .deadlineExceeded ∨ result = .error .cancelled)
    (hanswered : ∀ text, result = .ok text →
      (s.asks env.logged request).answer? cancelAt deadline = some (t, .ok text))
    (hexhausted : ∀ raw final, result = .error (.exhausted raw final) → ∃ f,
      (s.asks env.logged request).fault? cancelAt deadline = some f ∧ raw = s.record.raw ++ [f] ∧
      r.policy (s.attempts + 1) f = (false, final))
    (hgoOn : ∀ f, (s.asks env.logged request).fault? cancelAt deadline = some f →
      (r.policy (s.attempts + 1) f).1 = false →
      ∃ raw final, result = .error (.exhausted raw final)) :
    Accounts r request cancelAt start deadline (x.finish t result result.tally) := by
  have hlog : x.state.2 = s.state.2 ++ [s.asks env.logged request] := congrArg Prod.snd hstate
  have hlength : x.state.2.length = s.attempts + 1 := by
    rw [hlog, List.length_append, List.length_singleton, hs.attempts_eq]
  refine { result_eq := hresult, orderly := ?_, attempts_eq := ?_, tally_eq := ?_,
           consulted_eq := ?_, failed := fun a ha => ?_, answered := fun text htext => ?_,
           exhausted := fun raw final hfinal => ?_, goOn := fun p hp hstop => ?_ }
  · show Orderly request cancelAt start deadline t x.state.2
    rw [hlog]
    exact hs.orderly_asked ht
  · exact hattempts.trans hlength.symm
  · show x.tally + result.tally = { retryAttempts := x.state.2.length } + result.tally
    rw [htally, hlog, hs.tally_asked]
  · show x.consulted = numbered (x.state.2.filterMap (Asked.fault? cancelAt deadline))
    rw [hconsulted, hlog, List.filterMap_append, filterMap_eq_of_map_eq hs.faults_eq]
    rfl
  · have hold : a ∈ s.state.2 := by
      have hmem : a ∈ x.state.2.dropLast := ha
      rwa [hlog, List.dropLast_concat] at hmem
    obtain ⟨t', f, hanswer, -⟩ := hs.failed a hold
    rw [Asked.fault?_of_answer? hanswer]
    rfl
  · refine ⟨s.asks env.logged request, ?_, hanswered text htext⟩
    show x.state.2.getLast? = _
    rw [hlog, List.getLast?_concat]
  · obtain ⟨f, hfault, rfl, hpolicy⟩ := hexhausted raw final hfinal
    refine ⟨?_, f, List.getLast?_concat .., ?_⟩
    · show x.state.2.map (Asked.fault? cancelAt deadline) = (s.record.raw ++ [f]).map some
      rw [hlog, List.map_append, List.map_append, hs.faults_eq, List.map_singleton,
        List.map_singleton, hfault]
    · rw [List.length_append, List.length_singleton, hs.length_raw]
      exact hpolicy
  · -- the policy said stop to one of its questions: it must have been the last
    have hmem : p ∈ x.consulted := hp
    show _ ∧ x.consulted.getLast? = some p
    cases hfault : (s.asks env.logged request).fault? cancelAt deadline with
    | none =>
      rw [hconsulted, hfault, Option.toList_none, List.append_nil, ← hs.consulted_eq] at hmem
      rw [hs.goOn p hmem] at hstop
      exact nomatch hstop
    | some f =>
      rw [hfault, Option.toList_some, numbered_concat, ← hs.consulted_eq] at hconsulted
      rw [hconsulted] at hmem ⊢
      rcases List.mem_append.mp hmem with hold | hnew
      · rw [hs.goOn p hold] at hstop
        exact nomatch hstop
      · obtain rfl := List.mem_singleton.mp hnew
        rw [hs.length_raw] at hstop
        exact ⟨hgoOn f hfault hstop, List.getLast?_concat ..⟩

/-- Whoever is called off runs out of time or is cancelled, and it counts as that. -/
theorem Interrupted.result {now t : Nat} {why : CallFailure} {outcome : Tally}
    (h : Interrupted now cancelAt deadline why outcome t) :
    (why = .deadlineExceeded ∨ why = .cancelled) ∧ outcome = CallResult.tally (.error why) := by
  cases h with
  | cancelled hc hbefore => exact ⟨.inr rfl, rfl⟩
  | deadline hbefore => exact ⟨.inl rfl, rfl⟩

theorem Underway.accounts_of_interrupted (hs : Underway r request cancelAt start deadline s)
    {x : CallState (σ × List Asked)} {since t : Nat} {why : CallFailure} {outcome : Tally}
    (hstate : x.state = (s.asked env.logged request).state)
    (hattempts : x.attempts = s.attempts + 1)
    (htally : x.tally = s.tally + { retryAttempts := 1 })
    (hconsulted : x.consulted = numbered (s.record.raw
      ++ ((s.asks env.logged request).fault? cancelAt deadline).toList))
    (hsince : s.now ≤ since) (hcut : Interrupted since cancelAt deadline why outcome t)
    (hgoOn : ∀ f, (s.asks env.logged request).fault? cancelAt deadline = some f →
      (r.policy (s.attempts + 1) f).1 = true) :
    Accounts r request cancelAt start deadline (x.finish t (.error why) outcome) := by
  obtain ⟨hwhy, rfl⟩ := hcut.result
  have ht : s.now ≤ t := Nat.le_trans hsince hcut.le.1
  have hstop : ∀ f, (s.asks env.logged request).fault? cancelAt deadline = some f →
      (r.policy (s.attempts + 1) f).1 = false →
      ∃ raw final, (.error why : CallResult) = .error (.exhausted raw final) := by
    intro f hfault hno
    rw [hgoOn f hfault] at hno
    cases hno
  rcases hwhy with rfl | rfl
  · exact hs.accounts hstate hattempts htally hconsulted ht (.inr (.inr (.inl rfl))) nofun nofun
      hstop
  · exact hs.accounts hstate hattempts htally hconsulted ht (.inr (.inr (.inr rfl))) nofun nofun
      hstop

/-- **Each step keeps the accounts.** -/
theorem elim_step_underway (hs : Underway r request cancelAt start deadline s) {j : Jitter}
    {o : CallReport (σ × List Asked) ⊕ CallState (σ × List Asked)}
    (hstep : Step r env.logged request j cancelAt deadline s o) :
    Sum.elim (Accounts r request cancelAt start deadline)
      (Underway r request cancelAt start deadline) o := by
  -- an attempt adds to what was asked iff it failed
  have hunasked (h : (s.asks env.logged request).fault? cancelAt deadline = none) :
      s.consulted = numbered (s.record.raw
        ++ ((s.asks env.logged request).fault? cancelAt deadline).toList) := by
    rw [h, Option.toList_none, List.append_nil, hs.consulted_eq]
  have hasked {f : Fault}
      (h : (s.asks env.logged request).fault? cancelAt deadline = some f) :
      s.consulted ++ [(s.attempts + 1, f)] = numbered (s.record.raw
        ++ ((s.asks env.logged request).fault? cancelAt deadline).toList) := by
    rw [h, Option.toList_some, hs.consulted_failed]
  cases hstep with
  | @answered t text hanswer =>
    have hfault : (s.asks env.logged request).fault? cancelAt deadline = none := by
      rw [Asked.fault?, hanswer]
    have hresult : ∀ text', (.ok text : CallResult) = .ok text' →
        (s.asks env.logged request).answer? cancelAt deadline = some (t, .ok text') :=
      fun text' h => Except.ok.inj h ▸ hanswer
    exact hs.accounts rfl rfl rfl (hunasked hfault) (Asked.of_answer? hanswer).1 (.inl ⟨text, rfl⟩)
      hresult (fun _ _ h => by cases h) fun f h =>
        absurd (h.symm.trans hfault) (Option.some_ne_none f)
  | @cut why outcome t hanswer hcut =>
    have hfault : (s.asks env.logged request).fault? cancelAt deadline = none := by
      rw [Asked.fault?, hanswer]
    exact hs.accounts_of_interrupted rfl rfl rfl (hunasked hfault) (Nat.le_refl _) hcut
      fun f h => absurd (h.symm.trans hfault) (Option.some_ne_none f)
  | @gaveUp t f hanswer hpolicy =>
    have hfault := Asked.fault?_of_answer? hanswer
    have hfinal : (r.policy (s.attempts + 1) f).2.or s.record.final
        = (r.policy (s.attempts + 1) f).2 := by
      rw [hs.final_eq, Option.or_none]
    rw [hfinal]
    refine hs.accounts rfl rfl rfl (hasked hfault) (Asked.of_answer? hanswer).1
      (.inr (.inl ⟨_, _, rfl⟩)) (fun _ h => by cases h) (fun raw final h => ?_)
      fun g _ _ => ⟨_, _, rfl⟩
    obtain ⟨rfl, rfl⟩ := CallFailure.exhausted.inj (Except.error.inj h)
    exact ⟨f, hfault, rfl, Prod.ext hpolicy rfl⟩
  | @calledOff t f why outcome t' hanswer hpolicy hcut =>
    have hfault := Asked.fault?_of_answer? hanswer
    refine hs.accounts_of_interrupted rfl rfl rfl (hasked hfault) (Asked.of_answer? hanswer).1 hcut
      fun g hg => ?_
    obtain rfl : f = g := Option.some.inj (hfault.symm.trans hg)
    exact hpolicy
  | again hanswer hpolicy hready hcancel => exact hs.again hanswer hpolicy j

theorem underway_begin (r : Retry) (request : String) (cancelAt : Option Nat) (now deadline : Nat)
    (state : σ) : Underway r request cancelAt now deadline (r.begin now (state, [])) :=
  { start_le := Nat.le_refl _
    orderly := ⟨fun _ h => (nomatch h), fun _ h => (nomatch h), fun _ h => (nomatch h), .nil⟩
    failed := fun _ h => (nomatch h), faults_eq := rfl, final_eq := rfl, consulted_eq := rfl,
    goOn := fun _ h => (nomatch h), attempts_eq := rfl, tally_eq := rfl }

theorem elim_stageAfter_accounts {r : Retry} {env : Environment σ} {request : String}
    {jitter : Nat → Jitter} {cancelAt : Option Nat} {now deadline : Nat} {state : σ} {n : Nat}
    {o : CallReport (σ × List Asked) ⊕ CallState (σ × List Asked)}
    (ho : r.stageAfter env.logged request jitter cancelAt deadline n (r.begin now (state, [])) = o) :
    Sum.elim (Accounts r request cancelAt now deadline)
      (Underway r request cancelAt now deadline) o :=
  stageAfter_induction (fun _ _ hs hstep => elim_step_underway hs hstep)
    (underway_begin r request cancelAt now deadline state) ho

end Keeping

/-- Surroundings in which a selection fails, then an endpoint breaks down, and all others refuse. -/
def unlucky : Environment Nat where
  attempt k now _ :=
    match k with
    | 0 => (.unavailable .noEndpoints, 1)
    | 1 => (.invoked (some (now + 5)) (.panic "boom"), 2)
    | k + 2 => (.invoked (some now) (.fault (.message "refused")), k + 3)

end Switchboard
