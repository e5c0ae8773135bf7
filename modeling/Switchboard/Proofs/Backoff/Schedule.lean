import Mathlib.Algebra.Group.Nat.Defs
import Mathlib.Data.List.Basic
import Switchboard.Proofs.Retry.Deadline
/-!
# The course of a backoff schedule

A schedule is drawn from and put back at its floor, in any order and any number of times. The delays
since it was last at its floor make a stretch. This file says what the delays of a stretch are, for
every floor and cap and every choice of factors: by induction on the uses of the schedule, with one
lemma for each kind of use.

* `Use`, `Stretch` — what is done with a schedule, and the delays that it handed out since it was last
  at its floor; `Stretch.course` — these, and the delay that is handed out next.
* `IsUnsaturated` — the longest duration was never in the way of doubling a delay.
* `Stretch.IsLawful` — what holds of a stretch; `isLawful_draw`, `isLawful_reset` — each use keeps it.
* `isLawful_after` — so it holds after all uses.

A delay is at most twice the one before it because factors are at most one, and at least the one
before it because they are at least one half. The second fails once doubling saturates: a factor of
one half then brings a delay down to half of the longest duration.
-/

namespace Switchboard

namespace Backoff

/-! ## Schedules in use -/

inductive Use
  | draw (j : Jitter)
  | reset

/-- A schedule, and the delays that it handed out since it was last at its floor, in order. -/
structure Stretch where
  schedule : Backoff
  delays : List Duration

namespace Stretch

/-- A fresh schedule, which handed out nothing. -/
def fresh (floor cap : Duration) : Stretch := ⟨start floor cap, []⟩

/-- The schedule used once. A reset begins a new stretch. -/
def use (s : Stretch) : Use → Stretch
  | .draw j => ⟨(s.schedule.draw j).2, s.delays ++ [(s.schedule.draw j).1]⟩
  | .reset => ⟨s.schedule.reset, []⟩

def after (s : Stretch) (uses : List Use) : Stretch := uses.foldl use s

/-- The delays of the stretch, and behind them the one that is handed out next. -/
def course (s : Stretch) : List Duration := s.delays ++ [s.schedule.current]

end Stretch

/-- None of these delays is so long that doubling it saturates. -/
def IsUnsaturated (delays : List Duration) : Prop :=
  ∀ d ∈ delays, 2 * d.nanos ≤ Duration.max.nanos

/-- What holds of a stretch of a schedule that was made with this floor and cap. -/
structure Stretch.IsLawful (floor cap : Duration) (s : Stretch) : Prop where
  floor_eq : s.schedule.floor = floor
  cap_eq : s.schedule.cap = cap.greatest floor
  /-- Put back at its floor, the schedule is as good as new. -/
  reset_eq : s.schedule.reset = start floor cap
  /-- The first delay is the floor, ... -/
  first_eq : s.course.head? = some floor
  /-- ... none is longer than the floor and the cap, ... -/
  le_greatest : ∀ d ∈ s.course, d ≤ floor.greatest cap
  /-- ... and with each delay the bound doubles. -/
  le_double : ∀ (k : Nat) (d : Duration), s.course[k]? = some d → d.nanos ≤ floor.nanos * 2 ^ k
  /-- Unless doubling saturated, no delay is shorter than the floor, ... -/
  floor_le : IsUnsaturated s.delays → ∀ d ∈ s.course, floor ≤ d
  /-- ... or than one before it, ... -/
  rising : IsUnsaturated s.delays → s.course.Pairwise (· ≤ ·)
  /-- ... and all are the floor if the cap lets none grow. -/
  constant : IsUnsaturated s.delays → cap ≤ floor → ∀ d ∈ s.course, d = floor

/-! ## One more delay -/

theorem grow_le_double (j : Jitter) (cap d : Duration) : (grow j cap d).nanos ≤ 2 * d.nanos := by
  calc (grow j cap d).nanos
      ≤ j.scale d.double.nanos := Nat.min_le_left _ _
    _ ≤ d.double.nanos := j.scale_le _
    _ ≤ 2 * d.nanos := Nat.min_le_left _ _

theorem grow_le_cap (j : Jitter) (cap d : Duration) : grow j cap d ≤ cap := Nat.min_le_right _ _

/-- A delay that can be doubled grows no shorter, up to the cap. -/
theorem le_grow_self {cap d : Duration} (j : Jitter) (hdouble : 2 * d.nanos ≤ Duration.max.nanos)
    (hcap : d ≤ cap) : d ≤ grow j cap d := by
  have hhalf : d ≤ .halfMax := by
    show d.nanos ≤ (Duration.max.nanos + 1) / 2
    omega
  exact le_grow j hhalf hcap (Nat.le_refl _)

namespace Stretch

variable {floor cap : Duration} {s : Stretch}

theorem course_draw (s : Stretch) (j : Jitter) :
    (s.use (.draw j)).course = s.course ++ [grow j s.schedule.cap s.schedule.current] := rfl

theorem current_mem_course (s : Stretch) : s.schedule.current ∈ s.course := List.mem_concat_self

theorem getElem?_length_delays (s : Stretch) :
    s.course[s.delays.length]? = some s.schedule.current := List.getElem?_concat_length

theorem isUnsaturated_delays (h : IsUnsaturated s.course) : IsUnsaturated s.delays :=
  fun d hd => h d (List.mem_append_left _ hd)

/-- What holds of the delays so far and of one more holds of all. -/
theorem forall_mem_course_draw {P : Duration → Prop} {j : Jitter} (hold : ∀ d ∈ s.course, P d)
    (hnew : P (grow j s.schedule.cap s.schedule.current)) :
    ∀ d ∈ (s.use (.draw j)).course, P d := by
  intro d hd
  rcases List.mem_append.mp hd with hd | hd
  · exact hold d hd
  · rw [List.mem_singleton.mp hd]
    exact hnew

namespace IsLawful

theorem current_le_cap (h : s.IsLawful floor cap) : s.schedule.current ≤ s.schedule.cap := by
  have hle := h.le_greatest _ s.current_mem_course
  rw [h.cap_eq]
  exact Nat.le_trans hle (Nat.le_of_eq (Nat.max_comm _ _))

/-- A delay that can be doubled is followed by one that is no shorter than any before it. -/
theorem le_next (h : s.IsLawful floor cap) (j : Jitter) (hfree : IsUnsaturated s.course) :
    ∀ d ∈ s.course, d ≤ grow j s.schedule.cap s.schedule.current := by
  have hgrow : s.schedule.current ≤ grow j s.schedule.cap s.schedule.current :=
    le_grow_self j (hfree _ s.current_mem_course) h.current_le_cap
  intro d hd
  rcases List.mem_append.mp hd with hd | hd
  · have hrising := (List.pairwise_append.mp (h.rising (isUnsaturated_delays hfree))).2.2
    exact Nat.le_trans (hrising d hd _ List.mem_cons_self) hgrow
  · rw [List.mem_singleton.mp hd]
    exact hgrow

theorem next_le_greatest (h : s.IsLawful floor cap) (j : Jitter) :
    grow j s.schedule.cap s.schedule.current ≤ floor.greatest cap := by
  refine Nat.le_trans (grow_le_cap j _ _) ?_
  rw [h.cap_eq]
  exact Nat.le_of_eq (Nat.max_comm _ _)

theorem next_le_double (h : s.IsLawful floor cap) (j : Jitter) :
    (grow j s.schedule.cap s.schedule.current).nanos ≤ floor.nanos * 2 ^ s.course.length := by
  have hlength : s.course.length = s.delays.length + 1 := List.length_append
  calc (grow j s.schedule.cap s.schedule.current).nanos
      ≤ 2 * s.schedule.current.nanos := grow_le_double j _ _
    _ ≤ 2 * (floor.nanos * 2 ^ s.delays.length) :=
        Nat.mul_le_mul_left 2 (h.le_double _ _ s.getElem?_length_delays)
    _ = floor.nanos * 2 ^ s.course.length := by
        rw [hlength, Nat.pow_succ, Nat.mul_left_comm, Nat.mul_comm 2]

/-- The delays between the floor and a cap that is not above it are the floor. -/
theorem eq_floor {d : Duration} (hcap : cap ≤ floor) (hge : floor ≤ d)
    (hle : d ≤ floor.greatest cap) : d = floor := by
  obtain ⟨n⟩ := d
  have hmax : (floor.greatest cap).nanos = floor.nanos := Nat.max_eq_left hcap
  have hle' : n ≤ (floor.greatest cap).nanos := hle
  have hge' : floor.nanos ≤ n := hge
  obtain rfl : n = floor.nanos := by omega
  rfl

end IsLawful

/-! ## Any number of uses -/

theorem isLawful_fresh (floor cap : Duration) : (fresh floor cap).IsLawful floor cap := by
  have hcourse : ∀ d ∈ (fresh floor cap).course, d = floor := fun d hd => List.mem_singleton.mp hd
  refine { floor_eq := rfl, cap_eq := rfl, reset_eq := rfl, first_eq := rfl,
           le_greatest := fun d hd => ?_, le_double := fun k d hk => ?_,
           floor_le := fun _ d hd => ?_, rising := fun _ => List.pairwise_singleton _ _,
           constant := fun _ _ => hcourse }
  · rw [hcourse d hd]
    exact Nat.le_max_left _ _
  · rw [hcourse d (List.mem_of_getElem? hk)]
    exact Nat.le_mul_of_pos_right _ (Nat.two_pow_pos k)
  · rw [hcourse d hd]
    exact Nat.le_refl _

/-- One more delay of the stretch is within the bounds for it. -/
theorem isLawful_draw (h : s.IsLawful floor cap) (j : Jitter) :
    (s.use (.draw j)).IsLawful floor cap := by
  have hgreatest := forall_mem_course_draw (P := (· ≤ floor.greatest cap)) h.le_greatest
    (h.next_le_greatest j)
  have hfloor (hfree : IsUnsaturated s.course) :
      ∀ d ∈ (s.use (.draw j)).course, floor ≤ d := by
    have hnew : floor ≤ grow j s.schedule.cap s.schedule.current :=
      Nat.le_trans (h.floor_le (isUnsaturated_delays hfree) _ s.current_mem_course)
        (h.le_next j hfree _ s.current_mem_course)
    exact forall_mem_course_draw (h.floor_le (isUnsaturated_delays hfree)) hnew
  refine { floor_eq := h.floor_eq, cap_eq := h.cap_eq, reset_eq := h.reset_eq, first_eq := ?_,
           le_greatest := hgreatest, le_double := fun k d hk => ?_, floor_le := hfloor,
           rising := fun hfree => ?_, constant := fun hfree hcap d hd => ?_ }
  · rw [course_draw, List.head?_append, h.first_eq]
    rfl
  · rw [course_draw, List.getElem?_append] at hk
    split at hk
    · exact h.le_double k d hk
    · -- only the place behind the course is left
      rw [List.getElem?_singleton] at hk
      split at hk
      · obtain rfl := Option.some_inj.mp hk
        obtain rfl : k = s.course.length := by omega
        exact h.next_le_double j
      · cases hk
  · rw [course_draw]
    refine List.pairwise_append.mpr
      ⟨h.rising (isUnsaturated_delays hfree), List.pairwise_singleton _ _, fun d hd d' hd' => ?_⟩
    rw [List.mem_singleton.mp hd']
    exact h.le_next j hfree d hd
  · exact IsLawful.eq_floor hcap (hfloor hfree d hd) (hgreatest d hd)

/-- A reset leaves nothing behind: what follows is a fresh schedule with the same floor and cap. -/
theorem isLawful_reset (h : s.IsLawful floor cap) : (s.use .reset).IsLawful floor cap := by
  have hfresh : s.use .reset = fresh floor cap := congrArg (Stretch.mk · []) h.reset_eq
  rw [hfresh]
  exact isLawful_fresh floor cap

/-- **The delays of a schedule keep within their bounds**, for every floor and cap, all uses of the
schedule in any order, and whatever the factors are. -/
theorem isLawful_after (floor cap : Duration) (uses : List Use) :
    ((fresh floor cap).after uses).IsLawful floor cap := by
  -- by induction on the uses, for any stretch that keeps within its bounds to begin with
  suffices hkeeps : ∀ s : Stretch, s.IsLawful floor cap → (s.after uses).IsLawful floor cap from
    hkeeps _ (isLawful_fresh floor cap)
  induction uses with
  | nil => exact fun s hs => hs
  | cons u rest ih =>
    intro s hs
    cases u with
    | draw j => exact ih _ (isLawful_draw hs j)
    | reset => exact ih _ (isLawful_reset hs)

/-- The longest duration cannot be doubled, and so a factor of one half brings it down. -/
example : ¬ ((fresh .max .max).after [.draw .half]).course.Pairwise (· ≤ ·) := by decide

end Stretch

end Backoff

end Switchboard
