import Switchboard.Duration
/-!
# Backoff schedules

The delays between attempts: the first is the floor, and each further one is twice the one
before it, scaled by a random factor from one half to one, and never above the cap. The factor
is a parameter here, so that statements can range over every choice of it.

* `Jitter` — a factor in `[1/2, 1]` as a fraction, and the exact product rounded to the nearest
  nanosecond.
* `grow` — one step of the schedule from a delay to the next.
* `Backoff` — a schedule: floor, cap, and the delay to sleep for next.
* `Backoff.draw`, `Backoff.reset` — use up a delay; go back to the floor.
* `Window` — the interval that the current delay lies in, whatever the factors were.
-/

namespace Switchboard

/-- A factor from one half to one, as a fraction. -/
structure Jitter where
  num : Nat
  den : Nat
  den_pos : 0 < den
  half_le : den ≤ 2 * num
  le_one : num ≤ den

namespace Jitter

def one : Jitter := ⟨1, 1, by decide, by decide, by decide⟩

def half : Jitter := ⟨1, 2, by decide, by decide, by decide⟩

/-- The numbers to draw factors by go from zero up to this. -/
def draws : Nat := 1000000

/-- The factor of a number that was drawn: one half for zero, and from there evenly up to one. -/
def ofDraw (k : Nat) : Jitter :=
  ⟨draws + min k draws, 2 * draws, by decide, by omega, by omega⟩

instance : Inhabited Jitter := ⟨one⟩

/-- A number times the factor, rounded to the nearest whole number; a half goes up. -/
def scale (j : Jitter) (n : Nat) : Nat := (2 * n * j.num + j.den) / (2 * j.den)

theorem scale_le (j : Jitter) (n : Nat) : j.scale n ≤ n := by
  have h := Nat.mul_le_mul_left (2 * n) j.le_one
  have hp := j.den_pos
  unfold scale
  refine Nat.le_of_lt_succ ((Nat.div_lt_iff_lt_mul (by omega)).2 ?_)
  have e : n.succ * (2 * j.den) = 2 * n * j.den + 2 * j.den := by
    rw [Nat.succ_mul, Nat.mul_left_comm, Nat.mul_assoc]
  omega

/-- No factor brings a number below its half, rounded up. -/
theorem half_le_scale (j : Jitter) (n : Nat) : (n + 1) / 2 ≤ j.scale n := by
  have hhalf : n * j.den ≤ 2 * n * j.num := by
    calc n * j.den ≤ n * (2 * j.num) := Nat.mul_le_mul_left n j.half_le
      _ = 2 * n * j.num := by rw [← Nat.mul_assoc, Nat.mul_comm n 2]
  calc (n + 1) / 2 = (n + 1) * j.den / (2 * j.den) :=
        (Nat.mul_div_mul_right (n + 1) 2 j.den_pos).symm
    _ ≤ (2 * n * j.num + j.den) / (2 * j.den) := by
        refine Nat.div_le_div_right ?_
        rw [Nat.add_mul, Nat.one_mul]
        exact Nat.add_le_add_right hhalf _

end Jitter

/-- The delay after `d`: twice `d`, scaled by the factor, and at most the cap. -/
def grow (j : Jitter) (cap d : Duration) : Duration :=
  (Duration.mk (j.scale d.double.nanos)).least cap

/-- A schedule of growing delays. -/
structure Backoff where
  floor : Duration
  cap : Duration
  /-- The delay to sleep for next. -/
  current : Duration
  deriving DecidableEq, Repr, Inhabited

namespace Backoff

/-- The floor of a schedule for which none is given: 10 ms. -/
def defaultFloor : Duration := .ofMillis 10

/-- The cap of a schedule for which none is given: 60 s. -/
def defaultCap : Duration := .ofSeconds 60

/-- A fresh schedule; a cap below the floor is raised to it. -/
def start (floor cap : Duration) : Backoff := ⟨floor, cap.greatest floor, floor⟩

/-- The schedule for which nothing is given. -/
def standard : Backoff := start defaultFloor defaultCap

/-- The delay to sleep for now, and the schedule after it. -/
def draw (b : Backoff) (j : Jitter) : Duration × Backoff :=
  (b.current, ⟨b.floor, b.cap, grow j b.cap b.current⟩)

def reset (b : Backoff) : Backoff := ⟨b.floor, b.cap, b.floor⟩

/-- The schedule after using up a delay for each factor. -/
def drawAll (b : Backoff) : List Jitter → Backoff
  | [] => b
  | j :: js => (b.draw j).2.drawAll js

@[simp] theorem draw_floor (b : Backoff) (j : Jitter) : (b.draw j).2.floor = b.floor := rfl

@[simp] theorem reset_floor (b : Backoff) : b.reset.floor = b.floor := rfl

@[simp] theorem reset_cap (b : Backoff) : b.reset.cap = b.cap := rfl

end Backoff

/-- The shortest and the longest that a delay can be. -/
structure Window where
  low : Duration
  high : Duration
  deriving DecidableEq, Repr, Inhabited

namespace Window

/-- The window of a delay that is known. -/
def point (d : Duration) : Window := ⟨d, d⟩

/-- The window of the delay after one from this window. -/
def grow (cap : Duration) (w : Window) : Window := ⟨w.low.least cap, w.high.double.least cap⟩

/-- The window after `n` more delays. -/
def growBy (cap : Duration) : Nat → Window → Window
  | 0, w => w
  | n + 1, w => growBy cap n (w.grow cap)

end Window

end Switchboard
