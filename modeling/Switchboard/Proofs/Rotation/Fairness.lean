import Mathlib.Data.List.Rotate
import Mathlib.Logic.Function.Basic
import Switchboard.Dispatch
import Switchboard.Proofs.Retry.Course
/-!
# Fair shares

A selection takes two steps: the caller reads what the source hands out, and then takes its turn at
the counter, which it advances by one in one atomic operation. Between the two anything may happen
to the counter and to the source. This file proves that the turns are dealt out fairly all the same.

* `Rotation.inTurn` — what successive ticks select from one list. A window as long as the list is
  the list, rotated (`inTurn_window`), and from that come all the counts (`count_inTurn`).
* `CallerStep`, `Callers.step`, `Callers.after` — any number of callers of one balancer, their steps
  interleaved in any way, and a source that may hand out something else each time.
* `Recorded` — the invariant: each selection so far was made from what its caller had read, at the
  tick of its turn (`Recorded.step`, `recorded_after`).
* `FairShares` — what follows for the callers.
* `TriesInTurn` — what follows for one call that is tried again and has the balancer to itself,
  carried by `stageAfter_induction`.

The counter wraps around after `Rotation.size` selections. Unless that is a multiple of the length
of the list, the round in which it does so is cut short; where ticks are counted from the start of a
run, the run is therefore taken to end before that.
-/

namespace Switchboard

variable {ε : Type}

/-! ## Successive ticks on one list -/

namespace Rotation

/-- What so many ticks from a tick on select from a list. -/
def inTurn (list : List ε) (h : 0 < list.length) (c m : Nat) : List ε :=
  (List.range' c m).map fun k => list.get ⟨k % list.length, Nat.mod_lt k h⟩

section InTurn

variable (list : List ε) (h : 0 < list.length) (c : Nat)

@[simp] theorem length_inTurn (m : Nat) : (inTurn list h c m).length = m := by
  simp [inTurn]

theorem inTurn_add (m n : Nat) :
    inTurn list h c (m + n) = inTurn list h c m ++ inTurn list h (c + m) n := by
  rw [inTurn, ← List.range'_append_1, List.map_append]
  rfl

theorem inTurn_succ (m : Nat) :
    inTurn list h c (m + 1)
      = inTurn list h c m ++ [list.get ⟨(c + m) % list.length, Nat.mod_lt (c + m) h⟩] :=
  inTurn_add list h c m 1

/-- **A round is the list, rotated**: it begins where the tick says, and goes through all of it. -/
theorem inTurn_window : inTurn list h c list.length = list.rotate c := by
  refine List.ext_getElem (by simp) fun i hi hi' => ?_
  simp [inTurn, List.getElem_rotate, Nat.add_comm]

theorem take_drop_inTurn {i n m : Nat} (hm : i + n ≤ m) :
    ((inTurn list h c m).drop i).take n = inTurn list h (c + i) n := by
  obtain ⟨rest, rfl⟩ := Nat.exists_eq_add_of_le hm
  rw [inTurn_add, inTurn_add, List.append_assoc, List.drop_left' (length_inTurn list h c i),
    List.take_left' (length_inTurn list h (c + i) n)]

/-- Any round anywhere in a run of ticks selects every endpoint as often as it is listed. -/
theorem perm_window {i m : Nat} (hm : i + list.length ≤ m) :
    (((inTurn list h c m).drop i).take list.length).Perm list := by
  rw [take_drop_inTurn list h c hm, inTurn_window]
  exact List.rotate_perm list (c + i)

/-- **Whole rounds are dealt out evenly, and a round that was begun by at most one.** -/
theorem count_inTurn [DecidableEq ε] (e : ε) (m : Nat) :
    list.count e * (m / list.length) ≤ (inTurn list h c m).count e ∧
      (inTurn list h c m).count e
        ≤ list.count e * ((m + list.length - 1) / list.length) := by
  induction m using Nat.strong_induction_on generalizing c with
  | _ m ih =>
    rcases Nat.lt_or_ge m list.length with hm | hm
    · -- less than a round: part of one
      have hpart : (inTurn list h c m).count e ≤ list.count e := by
        have hsub : (inTurn list h c m).Sublist (inTurn list h c list.length) := by
          obtain ⟨rest, hrest⟩ := Nat.exists_eq_add_of_le hm.le
          rw [hrest, inTurn_add]
          exact List.sublist_append_left _ _
        rw [inTurn_window] at hsub
        exact (hsub.count_le e).trans_eq ((List.rotate_perm list c).count_eq e)
      rw [Nat.div_eq_of_lt hm]
      refine ⟨Nat.zero_le _, ?_⟩
      cases m with
      | zero => exact Nat.zero_le _
      | succ m =>
        have hone : 1 ≤ (m + 1 + list.length - 1) / list.length :=
          (Nat.one_le_div_iff h).mpr (by omega)
        exact hpart.trans (Nat.le_mul_of_pos_right _ hone)
    · -- a round, and what comes after it
      obtain ⟨rest, rfl⟩ := Nat.exists_eq_add_of_le hm
      obtain ⟨hlow, hhigh⟩ := ih rest (by omega) (c + list.length)
      have hround : (inTurn list h c list.length).count e = list.count e := by
        rw [inTurn_window]
        exact (List.rotate_perm list c).count_eq e
      have hfloor : (list.length + rest) / list.length = rest / list.length + 1 :=
        Nat.add_div_left rest h
      have hceil : (list.length + rest + list.length - 1) / list.length
          = (rest + list.length - 1) / list.length + 1 := by
        rw [show list.length + rest + list.length - 1 = list.length + (rest + list.length - 1) by
          omega]
        exact Nat.add_div_left _ h
      rw [inTurn_add, List.count_append, hround, hfloor, hceil, Nat.mul_succ, Nat.mul_succ]
      omega

end InTurn

/-- Is a number the share of one among `n` of whom `m` are dealt out: the quotient, rounded down or
up? -/
def IsShare (m n share : Nat) : Prop := share = m / n ∨ share = (m + n - 1) / n

/-- Between the two quotients there is nothing else. -/
theorem IsShare.of_le {m n share : Nat} (hn : 0 < n) (hlow : m / n ≤ share)
    (hhigh : share ≤ (m + n - 1) / n) : IsShare m n share := by
  have hnear : (m + n - 1) / n ≤ m / n + 1 := by
    rw [← Nat.add_div_right m hn]
    exact Nat.div_le_div_right (Nat.sub_le _ _)
  unfold IsShare
  omega

/-- An endpoint that is listed once gets its share. -/
theorem isShare_count [DecidableEq ε] {list : List ε} (h : 0 < list.length) (c m : Nat) {e : ε}
    (honce : list.count e = 1) : IsShare m list.length ((inTurn list h c m).count e) := by
  have hcount := count_inTurn list h c e m
  rw [honce, Nat.one_mul, Nat.one_mul] at hcount
  exact .of_le h hcount.1 hcount.2

/-- So does each place of the list, whatever endpoint it holds. -/
theorem isShare_place {n : Nat} (c m : Nat) {i : Nat} (hi : i < n) :
    IsShare m n ((List.range' c m).countP fun k => k % n = i) := by
  have hn : 0 < (List.range n).length := by
    rw [List.length_range]
    omega
  -- the places are themselves a list that the ticks go through
  have hplaces : inTurn (List.range n) hn c m = (List.range' c m).map (· % n) := by
    simp [inTurn]
  have hshare := isShare_count hn c m (e := i)
    (List.count_eq_one_of_mem List.nodup_range (List.mem_range.mpr hi))
  rw [hplaces, List.length_range, List.count, List.countP_map] at hshare
  exact hshare

/-! ## The counter -/

/-- Before the counter wraps around, it is its start and the number of selections. -/
theorem tick_iterate_next {c n : Nat} (h : c + n < size) : (next^[n] ⟨c⟩).tick = c + n := by
  induction n with
  | zero => rfl
  | succ n ih =>
    rw [Function.iterate_succ_apply', next, ih (by omega)]
    exact Nat.mod_eq_of_lt h

/-- A selection succeeds exactly if there are endpoints to select from. -/
theorem isOk_pick (r : Rotation) (source : Except DiscoveryFailure (List ε)) :
    (r.pick source).1.isOk = true ↔ ∃ endpoints, source = .ok endpoints ∧ endpoints ≠ [] := by
  cases source with
  | error why => exact ⟨nofun, nofun⟩
  | ok endpoints =>
    cases endpoints with
    | nil =>
      rw [pick_nil]
      refine ⟨nofun, ?_⟩
      rintro ⟨endpoints, hsource, hne⟩
      exact absurd (Except.ok.inj hsource).symm hne
    | cons e rest =>
      rw [pick_ok r (List.length_pos_of_ne_nil (List.cons_ne_nil e rest))]
      exact ⟨fun _ => ⟨_, rfl, nofun⟩, fun _ => rfl⟩

/-- **A selection that succeeds takes one tick, and one that fails takes none.** -/
theorem pick_snd (r : Rotation) (source : Except DiscoveryFailure (List ε)) :
    (r.pick source).2 = if (r.pick source).1.isOk then r.next else r := by
  cases source with
  | error why => rfl
  | ok endpoints =>
    cases endpoints with
    | nil => rw [pick_nil]; rfl
    | cons e rest => rw [pick_ok r (List.length_pos_of_ne_nil (List.cons_ne_nil e rest))]; rfl

/-- What is selected is in the list at the place that the tick says. -/
theorem of_pick_ok {r : Rotation} {source : Except DiscoveryFailure (List ε)} {e : ε}
    (h : (r.pick source).1 = .ok e) :
    ∃ endpoints, source = .ok endpoints ∧ ∃ hlen : 0 < endpoints.length,
      e = endpoints.get ⟨r.tick % endpoints.length, Nat.mod_lt r.tick hlen⟩ := by
  obtain ⟨endpoints, rfl, hne⟩ := (isOk_pick r source).mp (by rw [h]; rfl)
  have hlen := List.length_pos_iff.mpr hne
  rw [pick_ok r hlen] at h
  exact ⟨endpoints, rfl, hlen, (Except.ok.inj h).symm⟩

end Rotation

/-! ## Many callers -/

/-- A step of a caller. -/
inductive CallerStep (ε : Type)
  /-- It reads what the source hands out. -/
  | reads (caller : Nat) (source : Except DiscoveryFailure (List ε))
  /-- It takes its turn at the counter, with what it has read. -/
  | picks (caller : Nat)

/-- A selection that was made, or that failed. -/
structure Choice (ε : Type) where
  caller : Nat
  source : Except DiscoveryFailure (List ε)
  /-- The counter when its turn came. -/
  before : Rotation
  picked : Except CallFailure ε

/-- A balancer and its callers. -/
structure Callers (ε : Type) where
  rotation : Rotation
  held : Nat → Option (Except DiscoveryFailure (List ε)) := fun _ => none
  /-- The selections so far, oldest first. -/
  done : List (Choice ε) := []

namespace Callers

/-- A caller keeps what it has read until its turn. -/
def read (s : Callers ε) (caller : Nat) (source : Except DiscoveryFailure (List ε)) : Callers ε :=
  { s with held := Function.update s.held caller (some source) }

/-- A caller takes its turn at the counter, with what it has read. -/
def turn (s : Callers ε) (caller : Nat) (source : Except DiscoveryFailure (List ε)) : Callers ε :=
  { rotation := (s.rotation.pick source).2
    held := Function.update s.held caller none
    done := s.done ++ [⟨caller, source, s.rotation, (s.rotation.pick source).1⟩] }

/-- A step; one that its caller cannot take is skipped, so that every list of steps is a run. -/
def step (s : Callers ε) : CallerStep ε → Callers ε
  | .reads caller source => if (s.held caller).isSome then s else s.read caller source
  | .picks caller => (s.held caller).elim s (s.turn caller)

def after (s : Callers ε) (steps : List (CallerStep ε)) : Callers ε := steps.foldl step s

def selected (s : Callers ε) : List (Choice ε) := s.done.filter (·.picked.isOk)

def ticks (s : Callers ε) : List Nat := s.selected.map (·.before.tick)

def endpoints (s : Callers ε) : List ε := s.done.filterMap (·.picked.toOption)

/-- A turn adds to the successes exactly if it is one. -/
theorem selected_turn (s : Callers ε) (caller : Nat)
    (source : Except DiscoveryFailure (List ε)) :
    (s.turn caller source).selected
      = if (s.rotation.pick source).1.isOk then
          s.selected ++ [⟨caller, source, s.rotation, (s.rotation.pick source).1⟩]
        else s.selected := by
  rw [selected, turn, List.filter_append]
  split
  · rename_i hok
    rw [List.filter_singleton, hok]
    rfl
  · rename_i hok
    rw [List.filter_singleton, Bool.eq_false_iff.mpr hok]
    exact List.append_nil _

end Callers

/-- What was selected so far, and what is about to be, after these steps of callers who found the
counter at `c`. -/
structure Recorded (c : Rotation) (steps : List (CallerStep ε)) (s : Callers ε) : Prop where
  held : ∀ caller source, s.held caller = some source → .reads caller source ∈ steps
  read : ∀ p ∈ s.done, .reads p.caller p.source ∈ steps
  picked : ∀ p ∈ s.done, p.picked = (p.before.pick p.source).1
  counter : s.rotation = Rotation.next^[s.selected.length] c
  ticks : s.ticks = (List.range s.selected.length).map fun n => (Rotation.next^[n] c).tick

section Runs

variable {c : Rotation} {steps : List (CallerStep ε)} {s : Callers ε}

theorem Recorded.append (h : Recorded c steps s) (more : List (CallerStep ε)) :
    Recorded c (steps ++ more) s :=
  { h with
    held := fun caller source hheld => List.mem_append_left more (h.held caller source hheld)
    read := fun p hp => List.mem_append_left more (h.read p hp) }

theorem Recorded.readStep (h : Recorded c steps s) {caller : Nat}
    {source : Except DiscoveryFailure (List ε)} (hread : .reads caller source ∈ steps) :
    Recorded c steps (s.read caller source) := by
  refine { h with held := fun k source' hk => ?_ }
  have hk' : Function.update s.held caller (some source) k = some source' := hk
  by_cases hcaller : k = caller
  · subst hcaller
    rw [Function.update_self] at hk'
    exact Option.some.inj hk' ▸ hread
  · rw [Function.update_of_ne hcaller] at hk'
    exact h.held k source' hk'

theorem Recorded.turn (h : Recorded c steps s) {caller : Nat}
    {source : Except DiscoveryFailure (List ε)} (hread : .reads caller source ∈ steps) :
    Recorded c steps (s.turn caller source) where
  held k source' hk := by
    have hk' : Function.update s.held caller none k = some source' := hk
    by_cases hcaller : k = caller
    · subst hcaller
      rw [Function.update_self] at hk'
      exact nomatch hk'
    · rw [Function.update_of_ne hcaller] at hk'
      exact h.held k source' hk'
  read p hp := by
    rcases List.mem_append.mp hp with hp | hp
    · exact h.read p hp
    · rw [List.mem_singleton.mp hp]
      exact hread
  picked p hp := by
    rcases List.mem_append.mp hp with hp | hp
    · exact h.picked p hp
    · rw [List.mem_singleton.mp hp]
  -- the counter moves exactly if the successes become one more
  counter := by
    show (s.rotation.pick source).2 = _
    rw [Rotation.pick_snd, Callers.selected_turn]
    split
    · rw [List.length_append, List.length_singleton, Function.iterate_succ_apply', ← h.counter]
    · exact h.counter
  ticks := by
    rw [Callers.ticks, Callers.selected_turn]
    split
    · rw [List.map_append, List.length_append, List.length_singleton, List.range_succ,
        List.map_append, List.map_singleton, List.map_singleton, ← h.counter, ← h.ticks]
      rfl
    · exact h.ticks

theorem Recorded.step (h : Recorded c steps s) (a : CallerStep ε) :
    Recorded c (steps ++ [a]) (s.step a) := by
  cases a with
  | reads caller source =>
    rw [Callers.step]
    split
    · exact h.append _
    · exact (h.append _).readStep (List.mem_append_right _ (List.mem_singleton_self _))
  | picks caller =>
    rw [Callers.step]
    cases hheld : s.held caller with
    | none => exact h.append _
    | some source => exact (h.append _).turn (List.mem_append_left _ (h.held caller source hheld))

/-- **Every run keeps the record.** -/
theorem recorded_after (c : Rotation) (steps : List (CallerStep ε)) :
    Recorded c steps ((Callers.mk c (fun _ => none) []).after steps) := by
  induction steps using List.reverseRecOn with
  | nil => exact ⟨nofun, nofun, nofun, rfl, rfl⟩
  | append_singleton steps a ih =>
    rw [Callers.after, List.foldl_append]
    exact ih.step a

end Runs

/-! ## What follows for the callers -/

/-- The source never hands out another list of endpoints than this one; at times it may have none,
or fail. -/
def OnlyEver (list : List ε) (steps : List (CallerStep ε)) : Prop :=
  ∀ caller endpoints, .reads caller (.ok endpoints) ∈ steps → endpoints ≠ [] → endpoints = list

/-- What holds of callers who found the counter at `c`, after these steps. -/
structure FairShares [DecidableEq ε] (c : Nat) (steps : List (CallerStep ε)) (s : Callers ε) :
    Prop where
  /-- A selection is made from what its caller had read. -/
  read : ∀ p ∈ s.done, .reads p.caller p.source ∈ steps
  /-- It succeeds exactly if there were endpoints. -/
  succeeds : ∀ p ∈ s.done,
    p.picked.isOk = true ↔ ∃ endpoints, p.source = .ok endpoints ∧ endpoints ≠ []
  /-- It then comes to the endpoint at the place of its tick, in the list that was read. -/
  inRange : ∀ p ∈ s.done, ∀ e, p.picked = .ok e → ∃ endpoints, p.source = .ok endpoints ∧
    ∃ h : p.before.tick % endpoints.length < endpoints.length,
      e = endpoints[p.before.tick % endpoints.length]
  /-- The counter has moved by the selections that succeeded, and by no other. -/
  counter : s.rotation = Rotation.next^[s.selected.length] ⟨c⟩
  /-- They took the ticks from `c` on, each of them once. -/
  ticks : c + s.selected.length ≤ Rotation.size → s.ticks = List.range' c s.selected.length
  /-- On a fixed list every place of it gets its share, and so does every endpoint. -/
  shares : ∀ (list : List ε) (h : 0 < list.length), OnlyEver list steps →
    c + s.selected.length ≤ Rotation.size →
      s.endpoints = Rotation.inTurn list h c s.selected.length ∧
      (∀ i < list.length, Rotation.IsShare s.selected.length list.length
        (s.ticks.countP fun k => k % list.length = i)) ∧
      ∀ e, list.count e = 1 →
        Rotation.IsShare s.selected.length list.length (s.endpoints.count e)

/-- If successes come to what a function says, the endpoints are what it says of them. -/
theorem filterMap_toOption_picked {f : Choice ε → ε} {l : List (Choice ε)}
    (h : ∀ p ∈ l, ∀ e, p.picked = .ok e → e = f p) :
    l.filterMap (·.picked.toOption) = (l.filter (·.picked.isOk)).map f := by
  induction l with
  | nil => rfl
  | cons p rest ih =>
    have hrest := ih fun q hq => h q (List.mem_cons_of_mem p hq)
    cases hp : p.picked with
    | error why =>
      rw [List.filterMap_cons_none (by rw [hp]; rfl), List.filter_cons_of_neg (by rw [hp]; nofun)]
      exact hrest
    | ok e =>
      rw [List.filterMap_cons_some (by rw [hp]; rfl), List.filter_cons_of_pos (by rw [hp]; rfl),
        List.map_cons, ← h p (List.mem_cons_self ..) e hp, hrest]

section Shares

variable {c : Nat} {steps : List (CallerStep ε)} {s : Callers ε}

/-- Before the counter wraps around, the ticks are its successive values. -/
theorem Recorded.ticks_eq (h : Recorded ⟨c⟩ steps s)
    (hsize : c + s.selected.length ≤ Rotation.size) :
    s.ticks = List.range' c s.selected.length := by
  rw [h.ticks, List.range'_eq_map_range]
  refine List.map_congr_left fun n hn => ?_
  have hlt := List.mem_range.mp hn
  exact Rotation.tick_iterate_next (by omega)

theorem Recorded.endpoints_eq (h : Recorded ⟨c⟩ steps s) {list : List ε}
    (hlist : 0 < list.length) (honly : OnlyEver list steps)
    (hsize : c + s.selected.length ≤ Rotation.size) :
    s.endpoints = Rotation.inTurn list hlist c s.selected.length := by
  have hpicked : ∀ p ∈ s.done, ∀ e, p.picked = .ok e →
      e = list.get ⟨p.before.tick % list.length, Nat.mod_lt p.before.tick hlist⟩ := by
    intro p hp e he
    rw [h.picked p hp] at he
    obtain ⟨endpoints, hsource, hlen, rfl⟩ := Rotation.of_pick_ok he
    have hread := h.read p hp
    rw [hsource] at hread
    obtain rfl := honly p.caller endpoints hread (List.ne_nil_of_length_pos hlen)
    rfl
  calc s.endpoints
      = s.selected.map fun p =>
          list.get ⟨p.before.tick % list.length, Nat.mod_lt p.before.tick hlist⟩ :=
        filterMap_toOption_picked hpicked
    _ = s.ticks.map fun k => list.get ⟨k % list.length, Nat.mod_lt k hlist⟩ := by
        rw [Callers.ticks, List.map_map]
        rfl
    _ = Rotation.inTurn list hlist c s.selected.length := by
        rw [h.ticks_eq hsize]
        rfl

theorem Recorded.fairShares [DecidableEq ε] (h : Recorded ⟨c⟩ steps s) :
    FairShares c steps s where
  read := h.read
  succeeds p hp := by
    rw [h.picked p hp]
    exact Rotation.isOk_pick p.before p.source
  inRange p hp e he := by
    rw [h.picked p hp] at he
    obtain ⟨endpoints, hsource, hlen, hget⟩ := Rotation.of_pick_ok he
    exact ⟨endpoints, hsource, Nat.mod_lt p.before.tick hlen, hget⟩
  counter := h.counter
  ticks := h.ticks_eq
  shares list hlist honly hsize := by
    have hendpoints := h.endpoints_eq hlist honly hsize
    refine ⟨hendpoints, fun i hi => ?_, fun e he => ?_⟩
    · rw [h.ticks_eq hsize]
      exact Rotation.isShare_place c s.selected.length hi
    · rw [hendpoints]
      exact Rotation.isShare_count hlist c s.selected.length he

end Shares

/-! ## One call that is tried again -/

section Calls

variable {σ : Type}

/-- What a call has done to the endpoints and their counter, since it found them, in so many
attempts on a fixed list. -/
structure TriesInTurn (list : List ε) (h : 0 < list.length) (d d' : Dispatch σ ε)
    (attempts : Nat) : Prop where
  /-- Each attempt took one tick. -/
  counter : d'.rotation = Rotation.next^[attempts] d.rotation
  /-- Each attempt invoked one endpoint, and nothing else was invoked. -/
  calls : ∃ made : List (CallEntry ε), d'.log = d.log ++ made ∧ made.length = attempts ∧
    (d.rotation.tick + attempts ≤ Rotation.size →
      -- endpoint after endpoint, in the order of the list
      made.map (·.endpoint) = Rotation.inTurn list h d.rotation.tick attempts ∧
      -- so that each round of attempts, wherever it begins, reaches all of the list
      ∀ i, i + list.length ≤ attempts →
        (((made.map (·.endpoint)).drop i).take list.length).Perm list)

/-- A source hands out one list, whenever it is asked and however often. -/
def HandsOutOnly (endpoints : σ → Nat → Except DiscoveryFailure (List ε) × σ) (list : List ε)
    (st : σ) : Prop :=
  ∀ (asked : List Nat) (t : Nat),
    (endpoints (asked.foldl (fun st t => (endpoints st t).2) st) t).1 = .ok list

variable {list : List ε} {hlist : 0 < list.length} {d d' : Dispatch σ ε} {n : Nat}
  {endpoints : σ → Nat → Except DiscoveryFailure (List ε) × σ}

theorem HandsOutOnly.next {st : σ} (h : HandsOutOnly endpoints list st) (t : Nat) :
    HandsOutOnly endpoints list (endpoints st t).2 := fun asked => h (t :: asked)

theorem handsOutOnly_fixedSource (list : List ε) : HandsOutOnly fixedSource list list := by
  intro asked t
  induction asked with
  | nil => rfl
  | cons _ rest ih => exact ih

variable [DecidableEq ε] (callee : ε → Callee)

/-- An attempt on a fixed list invokes the endpoint at the place of the tick. -/
theorem attempt_fixed (hlist : 0 < list.length) (d : Dispatch σ ε) (now : Nat) (request : String)
    (hfixed : (endpoints d.source now).1 = .ok list) :
    ∃ call : CallEntry ε,
      call.endpoint = list.get ⟨d.rotation.tick % list.length, Nat.mod_lt d.rotation.tick hlist⟩ ∧
      ((Dispatch.environment endpoints callee).attempt d now request).2
        = ⟨(endpoints d.source now).2, d.rotation.next, d.log ++ [call]⟩ := by
  refine ⟨⟨now, _, request⟩, rfl, ?_⟩
  simp [Dispatch.environment, Dispatch.select, Dispatch.invoke, hfixed,
    Rotation.pick_ok d.rotation hlist]

theorem TriesInTurn.step (h : TriesInTurn list hlist d d' n) {now : Nat} (request : String)
    (hfixed : (endpoints d'.source now).1 = .ok list) :
    TriesInTurn list hlist d
      ((Dispatch.environment endpoints callee).attempt d' now request).2 (n + 1) := by
  obtain ⟨call, hcall, hnext⟩ := attempt_fixed callee hlist d' now request hfixed
  rw [hnext]
  obtain ⟨made, hmade, hlen, hturn⟩ := h.calls
  refine ⟨?_, made ++ [call], ?_, ?_, fun hsize => ?_⟩
  · rw [h.counter, Function.iterate_succ_apply']
  · rw [hmade, List.append_assoc]
  · rw [List.length_append, hlen, List.length_singleton]
  · -- the tick has moved by the attempts before this one
    have htick : d'.rotation.tick = d.rotation.tick + n := by
      have hlt : d.rotation.tick + n < Rotation.size := by omega
      rw [h.counter]
      exact Rotation.tick_iterate_next hlt
    have hall : (made ++ [call]).map (·.endpoint)
        = Rotation.inTurn list hlist d.rotation.tick (n + 1) := by
      rw [List.map_append, (hturn (by omega)).1, Rotation.inTurn_succ, List.map_singleton, hcall]
      simp only [htick]
    refine ⟨hall, fun i hi => ?_⟩
    rw [hall]
    exact Rotation.perm_window list hlist d.rotation.tick hi

/-- **A call tries endpoint after endpoint**, whether it is over or still under way. -/
theorem triesInTurn_stageAfter (hlist : 0 < list.length)
    (hfixed : HandsOutOnly endpoints list d.source) (r : Retry) (request : String)
    (jitter : Nat → Jitter) (cancelAt : Option Nat) (deadline now n : Nat) :
    Sum.elim (fun report => TriesInTurn list hlist d report.state report.attempts)
      (fun s => HandsOutOnly endpoints list s.state.source ∧
        TriesInTurn list hlist d s.state s.attempts)
      (r.stageAfter (Dispatch.environment endpoints callee) request jitter cancelAt deadline n
        (r.begin now d)) := by
  refine stageAfter_induction (Q := fun report =>
    TriesInTurn list hlist d report.state report.attempts) (fun s o hs hstep => ?_) ⟨hfixed, ?_⟩ rfl
  · -- whichever way the attempt went, it was one attempt
    obtain ⟨hsource, hsofar⟩ := hs
    have hasked := hsofar.step callee request (hsource [] s.now)
    obtain ⟨call, -, hnext⟩ :=
      attempt_fixed callee hlist s.state s.now request (hsource [] s.now)
    cases hstep with
    | again hanswer hpolicy hready hcancel =>
      refine ⟨?_, hasked⟩
      show HandsOutOnly endpoints list
        ((Dispatch.environment endpoints callee).attempt s.state s.now request).2.source
      rw [hnext]
      exact hsource.next s.now
    | _ => exact hasked
  · refine ⟨rfl, [], (List.append_nil _).symm, rfl, fun _ => ⟨rfl, fun i hi => ?_⟩⟩
    have hnone : (r.begin now d).attempts = 0 := rfl
    omega

end Calls

/-! ## The whole law -/

/-- **Round robin is fair.** Callers in any number, who select in any order from a source that may
change and may fail, are dealt the successive ticks of the counter, each the endpoint at its place
in the list that it read; and on a fixed list every endpoint gets its share. A call that is tried
again on such a list and has it to itself goes through the list endpoint after endpoint. -/
theorem round_robin_fair [DecidableEq ε] {σ : Type} (c : Nat) (steps : List (CallerStep ε))
    {list : List ε} (hlist : 0 < list.length)
    {endpoints : σ → Nat → Except DiscoveryFailure (List ε) × σ} {d : Dispatch σ ε}
    (hfixed : HandsOutOnly endpoints list d.source) (callee : ε → Callee) (r : Retry)
    (request : String) (jitter : Nat → Jitter) (cancelAt : Option Nat) (now : Nat) :
    FairShares c steps ((Callers.mk ⟨c⟩ (fun _ => none) []).after steps) ∧
    (∀ report, r.execute (Dispatch.environment endpoints callee) jitter cancelAt now request d
        = some report → TriesInTurn list hlist d report.state report.attempts) ∧
    ∀ n s, r.stageAfter (Dispatch.environment endpoints callee) request jitter cancelAt
        (now + r.timeout.ticks) n (r.begin now d) = .inr s →
      TriesInTurn list hlist d s.state s.attempts := by
  have hcall := triesInTurn_stageAfter callee hlist hfixed r request jitter cancelAt
    (now + r.timeout.ticks) now
  refine ⟨(recorded_after ⟨c⟩ steps).fairShares, fun report hreport => ?_, fun n s hs => ?_⟩
  · rw [Retry.execute, attemptsIn_eq] at hreport
    have hover := hcall r.attemptBound
    rw [Sum.getLeft?_eq_some_iff.mp hreport] at hover
    exact hover
  · have hunderway := hcall n
    rw [hs] at hunderway
    exact hunderway.2

/-- Three callers in each other's way, at a counter that is about to wrap around: the second finds no
endpoints, the others take a tick each. And a call that fails over and over tries two endpoints in
turn. -/
theorem round_robin_fair_of_two :
    let steps : List (CallerStep String) :=
      [.reads 1 (.ok ["a", "b"]), .reads 2 (.ok []), .reads 3 (.ok ["a", "b"]), .picks 3, .picks 2,
        .picks 1]
    let s := (Callers.mk ⟨Rotation.size - 2⟩ (fun _ => none) []).after steps
    let r : Retry := ⟨.ofSeconds 1, .maxAttempts 3, .standard⟩
    FairShares (Rotation.size - 2) steps s ∧ s.selected.length = 2 ∧ s.endpoints = ["a", "b"] ∧
      ∃ report made, r.execute (Dispatch.environment fixedSource fun _ _ =>
          Callee.constant (.fault (.message "down")) 0) (fun _ => .one) none 0 "q"
            (Dispatch.start ["a", "b"]) = some report ∧
        report.state.log = made ∧ report.attempts = 3 ∧
          made.map (·.endpoint) = ["a", "b", "a"] := by
  intro steps s r
  obtain ⟨hrun, hcall, -⟩ := round_robin_fair (Rotation.size - 2) steps
    (show 0 < ["a", "b"].length by decide) (d := Dispatch.start ["a", "b"])
    (handsOutOnly_fixedSource ["a", "b"])
    (fun _ _ => Callee.constant (.fault (.message "down")) 0) r "q" (fun _ => .one) none 0
  have hover : (r.execute (Dispatch.environment fixedSource fun _ _ =>
      Callee.constant (.fault (.message "down")) 0) (fun _ => .one) none 0 "q"
        (Dispatch.start ["a", "b"])).map (·.attempts) = some 3 := by decide +kernel
  obtain ⟨report, hreport, hattempts⟩ := Option.map_eq_some_iff.mp hover
  obtain ⟨made, hmade, -, hturn⟩ := (hcall report hreport).calls
  rw [hattempts] at hturn
  exact ⟨hrun, rfl, rfl, report, made, hreport, hmade, hattempts, (hturn (by decide)).1⟩

end Switchboard
