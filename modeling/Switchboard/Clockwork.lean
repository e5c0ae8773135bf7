/-!
# Systems with timers

Time in a system of tasks and timers: tasks run until all of them wait, which takes no time, and
then the clock jumps to the next timer. Times are whole milliseconds.

* `Clockwork` — how to read and set the clock of a system, its next timer, and how it settles.
* `Clockwork.advance` — the system after some milliseconds, every timer on the way having gone
  off in order; `advanceTo_induction` is how facts about single jumps reach it.
-/

namespace Switchboard

/-- What a system with timers has to offer: its time, the next moment at which a timer goes off, a way to
set its clock, and a way to let everything run until it waits. -/
structure Clockwork (σ : Type) where
  now : σ → Nat
  timer? : σ → Option Nat
  setClock : Nat → σ → σ
  settle : σ → σ

namespace Clockwork

variable {σ : Type}

/-- The clock goes on to a moment, and everything settles. -/
def jump (w : Clockwork σ) (moment : Nat) (s : σ) : σ := w.settle (w.setClock moment s)

/-- The clock goes on to a moment, stopping at each timer on the way; at most `fuel` of them. -/
def advanceTo (w : Clockwork σ) (moment : Nat) : Nat → σ → σ
  | 0, s => w.jump moment s
  | fuel + 1, s =>
    match w.timer? s with
    | some t =>
      if t ≤ moment then w.advanceTo moment fuel (w.jump (max (w.now s) t) s) else w.jump moment s
    | none => w.jump moment s

/-- The system after `ms` more milliseconds, which bring at most `fuel` timers. -/
def advance (w : Clockwork σ) (ms fuel : Nat) (s : σ) : σ :=
  w.advanceTo (w.now s + ms) fuel (w.settle s)

/-- What survives every jump of the clock survives its going on, if jumps end where they go. -/
theorem advanceTo_induction {w : Clockwork σ} {P : σ → Prop} {moment : Nat}
    (jump : ∀ s m, P s → w.now s ≤ m → P (w.jump m s) ∧ w.now (w.jump m s) = m) (fuel : Nat)
    {s : σ} (start : P s) (h : w.now s ≤ moment) : P (w.advanceTo moment fuel s) := by
  induction fuel generalizing s with
  | zero => exact (jump s moment start h).1
  | succ fuel ih =>
    unfold advanceTo
    cases w.timer? s with
    | none => exact (jump s moment start h).1
    | some t =>
      by_cases ht : t ≤ moment
      · obtain ⟨hP, hnow⟩ := jump s (max (w.now s) t) start (Nat.le_max_left _ _)
        have hle : w.now (w.jump (max (w.now s) t) s) ≤ moment := by omega
        simp only [if_pos ht]
        exact ih hP hle
      · simp only [if_neg ht]
        exact (jump s moment start h).1

end Clockwork

end Switchboard
