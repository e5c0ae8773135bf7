import Switchboard.Backoff
import Switchboard.Callee
import Switchboard.Tally
/-!
# Calls that are tried again

A call asks a balancer for an endpoint and invokes it; if the attempt fails, the policy decides
whether to try again after a delay. The whole call has a deadline, and the caller may cancel it.
Both are watched while an attempt runs and while the call sleeps: a cancellation that was there
before wins over everything, and the deadline wins over all that falls on its own millisecond.
A selection that fails is an attempt that failed at once; nothing is watched while it does.

* `Policy` — the decision after a failed attempt, and the policies in use.
* `Attempt`, `Environment` — what the balancer and the endpoints do, for any such.
* `race` — which of cancellation, deadline and readiness comes first.
* `Retry` — timeout, policy and backoff of an executor.
* `Retry.execute` — one call, and `CallReport`, all there is to know of it afterwards.
-/

namespace Switchboard

/-- The decision after the n-th attempt failed with a fault: whether to go on, and, if not, the
fault to report in place of the last one. -/
abbrev Policy := Nat → Fault → Bool × Option Fault

namespace Policy

/-- Stops once so many attempts have been made. -/
def maxAttempts (max : Nat) : Policy := fun n _ => (n < max, none)

def always : Policy := fun _ _ => (true, none)

/-- Stops at an attempt, then with a replacement. -/
def stopAt (attempt : Nat) (replacement : Option Fault) : Policy := fun n _ =>
  if attempt ≤ n then (false, replacement) else (true, none)

/-- Does a text occur in another? -/
def occursIn (part whole : List Char) : Bool :=
  match whole with
  | [] => part.isEmpty
  | _ :: rest => part.isPrefixOf whole || occursIn part rest

/-- Stops when the text of a fault contains a text, then with a replacement. -/
def stopOn (text : String) (replacement : Option Fault) : Policy := fun _ f =>
  if occursIn text.toList f.text.toList then (false, replacement) else (true, none)

/-- Stops once so many attempts have been made, and always names a replacement. -/
def replaceAlways (max : Nat) : Policy := fun n f =>
  (n < max, some (.message ("replaced " ++ toString n ++ ": " ++ f.text)))

end Policy

/-! ## Surroundings of a call -/

/-- What became of asking for an endpoint and invoking it. -/
inductive Attempt
  | unavailable (why : CallFailure)
  /-- It was invoked, and is done at a moment, or never. -/
  | invoked (doneAt : Option Nat) (outcome : Outcome)
  deriving Inhabited

/-- The balancer and the endpoints behind it, with a state of any kind: asked at a moment for an
endpoint to take a request. -/
structure Environment (σ : Type) where
  attempt : σ → (now : Nat) → (request : String) → Attempt × σ

/-- Who comes first. -/
inductive Winner
  | cancelled
  | deadline
  | ready
  deriving DecidableEq, Repr, Inhabited

/-- Is a moment before another that may never come? -/
def atOrBefore (t : Nat) : Option Nat → Bool
  | some u => t ≤ u
  | none => true

/-- Who comes first from now on, and when: the cancellation, the deadline, or what is waited for.
A cancellation that was there before comes first, then a deadline that has passed, and the
deadline comes first on its own millisecond. -/
def race (now : Nat) (cancelAt : Option Nat) (deadline : Nat) (readyAt : Option Nat) :
    Winner × Nat :=
  match cancelAt, readyAt with
  | some c, r =>
    if c ≤ now then (.cancelled, now)
    else if deadline ≤ now then (.deadline, now)
    else if deadline ≤ c ∧ atOrBefore deadline r then (.deadline, deadline)
    else
      match r with
      | some r => if c ≤ r then (.cancelled, c) else (.ready, max now r)
      | none => (.cancelled, c)
  | none, r =>
    if deadline ≤ now then (.deadline, now)
    else
      match r with
      | some r => if deadline ≤ r then (.deadline, deadline) else (.ready, max now r)
      | none => (.deadline, deadline)

/-! ## The executor -/

/-- How a call is tried again. -/
structure Retry where
  timeout : Duration
  policy : Policy
  /-- The delays between attempts; every call starts with a copy of it. -/
  backoff : Backoff

abbrev CallResult := Except CallFailure String

/-- A call that is over: its result and when it ended, how many attempts were made, what the policy was
asked in order, what the call counted as, and its surroundings afterwards. -/
structure CallReport (σ : Type) where
  result : CallResult
  endedAt : Nat
  attempts : Nat
  consulted : List (Nat × Fault)
  tally : Tally
  state : σ

/-- A call under way, between two attempts. -/
structure CallState (σ : Type) where
  now : Nat
  attempts : Nat
  record : RetryRecord
  backoff : Backoff
  consulted : List (Nat × Fault)
  tally : Tally
  state : σ

namespace CallState

/-- The call ends at a moment, and counts as something more. -/
def finish {σ : Type} (s : CallState σ) (at_ : Nat) (result : CallResult) (outcome : Tally) :
    CallReport σ :=
  ⟨result, at_, s.attempts, s.consulted, s.tally + outcome, s.state⟩

end CallState

namespace Outcome

/-- A response, or the fault that the outcome is for an attempt: a breakdown becomes one. -/
def toResult : Outcome → Except Fault String
  | .response text => .ok text
  | .fault f => .error f
  | .panic message =>
    .error (.message ("attempt task failed: " ++ Fault.panicText message))

end Outcome

namespace Retry

/-- The rest of a call once an attempt has failed at a moment: it ends, or it sleeps and is ready
for the next attempt. -/
def afterFailure {σ : Type} (r : Retry) (j : Jitter) (cancelAt : Option Nat) (deadline : Nat)
    (s : CallState σ) (at_ : Nat) (f : Fault) : CallReport σ ⊕ CallState σ :=
  let (goOn, replacement) := r.policy s.attempts f
  let s := { s with
    record := s.record.push f
    consulted := s.consulted ++ [(s.attempts, f)] }
  if goOn then
    let (delay, backoff) := s.backoff.draw j
    let s := { s with backoff }
    match race at_ cancelAt deadline (some (at_ + delay.ticks)) with
    | (.cancelled, t) => .inl (s.finish t (.error .cancelled) { retryCancelled := 1 })
    | (.deadline, t) => .inl (s.finish t (.error .deadlineExceeded) { retryDeadline := 1 })
    | (.ready, t) => .inr { s with now := t }
  else
    let record :=
      match replacement with
      | some g => s.record.conclude g
      | none => s.record
    .inl (s.finish at_ (.error record.toFailure) { retryExhausted := 1 })

/-- One attempt, and what follows from it. -/
def attemptOnce {σ : Type} (r : Retry) (env : Environment σ) (request : String) (j : Jitter)
    (cancelAt : Option Nat) (deadline : Nat) (s : CallState σ) : CallReport σ ⊕ CallState σ :=
  let (attempt, state) := env.attempt s.state s.now request
  let s := { s with attempts := s.attempts + 1, tally := s.tally + { retryAttempts := 1 }, state }
  match attempt with
  | .unavailable why => r.afterFailure j cancelAt deadline s s.now (.call why)
  | .invoked doneAt outcome =>
    match race s.now cancelAt deadline doneAt with
    | (.cancelled, t) => .inl (s.finish t (.error .cancelled) { retryCancelled := 1 })
    | (.deadline, t) => .inl (s.finish t (.error .deadlineExceeded) { retryDeadline := 1 })
    | (.ready, t) =>
      match outcome.toResult with
      | .ok text => .inl (s.finish t (.ok text) { retrySuccess := 1 })
      | .error f => r.afterFailure j cancelAt deadline s t f

/-- Attempt after attempt, at most `fuel` of them; `jitter` gives the factor of each delay. -/
def attemptsIn {σ : Type} (r : Retry) (env : Environment σ) (request : String)
    (jitter : Nat → Jitter) (cancelAt : Option Nat) (deadline : Nat) :
    Nat → CallState σ → Option (CallReport σ)
  | 0, _ => none
  | fuel + 1, s =>
    match r.attemptOnce env request (jitter s.attempts) cancelAt deadline s with
    | .inl report => some report
    | .inr s => attemptsIn r env request jitter cancelAt deadline fuel s

/-- A bound on the attempts of a call: the delays between them take at least a millisecond each,
and a call outlives its timeout by none. A schedule without delays can go on for ever, and is
followed for this many attempts. -/
def attemptBound (r : Retry) : Nat :=
  r.timeout.ticks + 2 + if r.backoff.floor.isZero then 65536 else 0

def begin {σ : Type} (r : Retry) (now : Nat) (state : σ) : CallState σ :=
  ⟨now, 0, {}, r.backoff, [], {}, state⟩

/-- A call that starts at a moment, to be cancelled at another. -/
def execute {σ : Type} (r : Retry) (env : Environment σ) (jitter : Nat → Jitter)
    (cancelAt : Option Nat) (now : Nat) (request : String) (state : σ) : Option (CallReport σ) :=
  r.attemptsIn env request jitter cancelAt (now + r.timeout.ticks) r.attemptBound
    (r.begin now state)

end Retry

end Switchboard
