import Mathlib.Algebra.Group.Nat.Defs
import Switchboard.Proofs.Retry.Deadline
import Switchboard.Proofs.Watcher.Stopping
/-!
# The pace of the watch loop

After an accepted answer the loop asks again at once. After any other it sleeps first, and the longer
the more answers in a row were of no use, whatever was wrong with each of them. So a backend that
fails, or that keeps answering with the same index, is not asked in a hot loop.

* `Beat`, `WatchRun.beats` — what sets the pace along a run: queries that come in, and answers that
  the loop takes.
* `Tempo`, `tempo` — read off the beats so far: when the next query is due, and the delays in the
  current streak of answers that were not accepted.
* `InSchedule` — what the next delay of a streak may be; `InSchedule.grow` is one draw.
* `OnBeat`, `OnBeat.step` — the invariant: the loop stands where the beats put it.
* `Urgent` — runs in which time passes only while nothing can be done, and up to the next timer.
* `Pacing` — the whole law. No query comes early in any run, and in an urgent run none comes late.
-/

namespace Switchboard

/-! ## Beats -/

inductive Beat
  | query (moment : Nat)
  /-- The loop takes an answer, with this delay next in its schedule. -/
  | answer (moment : Nat) (x : Exchange) (delay : Duration)
  deriving DecidableEq, Repr

namespace Beat

def moment : Beat → Nat
  | .query moment => moment
  | .answer moment _ _ => moment

def query? : Beat → Option Nat
  | .query moment => some moment
  | .answer .. => none

def answer? : Beat → Option Exchange
  | .query _ => none
  | .answer _ x _ => some x

end Beat

/-- What the beats so far come to. -/
structure Tempo where
  /-- When the next query is due. -/
  due : Nat
  /-- The delays after the answers that were not accepted, since the last one that was. -/
  streak : List Duration
  out : Bool
  deriving DecidableEq, Repr

namespace Tempo

/-- The next query is due at once after an accepted answer, and after any other when the delay is
over. -/
def next (t : Tempo) : Beat → Tempo
  | .query _ => { t with out := true }
  | .answer moment x delay =>
    if x.isAccepted then ⟨moment, [], false⟩
    else ⟨moment + delay.ticks, t.streak ++ [delay], false⟩

def hear (t : Tempo) : Option Beat → Tempo
  | none => t
  | some b => t.next b

end Tempo

/-- The tempo of a loop whose initial query was answered at a moment. -/
def tempo (start : Nat) (beats : List Beat) : Tempo := beats.foldl Tempo.next ⟨start, [], false⟩

/-! ## Delays in a row -/

/-- No delay of a streak is too long to be doubled. -/
def Doubles (streak : List Duration) : Prop := ∀ e ∈ streak, 2 * e.nanos ≤ Duration.max.nanos

/-- A delay that may come next in a streak, under a floor and a cap. -/
structure InSchedule (floor cap : Duration) (streak : List Duration) (delay : Duration) :
    Prop where
  /-- The first is the floor, ... -/
  first : streak = [] → delay = floor
  /-- ... each is bounded by the cap and by as many doublings as there were delays before it, ... -/
  le_cap : delay ≤ cap.greatest floor
  le_double : delay.nanos ≤ floor.nanos * 2 ^ streak.length
  /-- ... and unless doubling saturates none falls below the floor, or below the one before. -/
  floor_le : Doubles streak → floor ≤ delay
  mono : Doubles streak → ∀ e, streak.getLast? = some e → e ≤ delay

namespace InSchedule

variable {floor cap delay : Duration} {streak : List Duration}

theorem nil (floor cap : Duration) : InSchedule floor cap [] floor where
  first _ := rfl
  le_cap := Nat.le_max_right _ _
  le_double := by simp
  floor_le _ := Nat.le_refl _
  mono _ _ h := nomatch h

theorem grow (h : InSchedule floor cap streak delay) (j : Jitter) :
    InSchedule floor cap (streak ++ [delay]) (grow j (cap.greatest floor) delay) := by
  have hgrown : Doubles (streak ++ [delay]) →
      delay ≤ Switchboard.grow j (cap.greatest floor) delay := by
    intro hdoubles
    have hdelay : 2 * delay.nanos ≤ Duration.max.nanos := hdoubles delay (by simp)
    have hhalf : delay ≤ .halfMax := by
      show delay.nanos ≤ (Duration.max.nanos + 1) / 2
      omega
    exact le_grow j hhalf h.le_cap (Nat.le_refl _)
  refine { first := fun hnil => ?_, le_cap := Nat.min_le_right _ _, le_double := ?_,
           floor_le := fun hdoubles => ?_, mono := fun hdoubles e he => ?_ }
  · exact absurd hnil (List.append_ne_nil_of_right_ne_nil streak (List.cons_ne_nil delay []))
  · calc (Switchboard.grow j (cap.greatest floor) delay).nanos
        ≤ j.scale delay.double.nanos := Nat.min_le_left _ _
      _ ≤ delay.double.nanos := j.scale_le _
      _ ≤ 2 * delay.nanos := Nat.min_le_left _ _
      _ ≤ 2 * (floor.nanos * 2 ^ streak.length) := Nat.mul_le_mul_left 2 h.le_double
      _ = floor.nanos * 2 ^ (streak ++ [delay]).length := by
          rw [List.length_append, List.length_singleton, Nat.pow_succ, Nat.mul_comm 2,
            Nat.mul_assoc]
  · have hfloor : floor ≤ delay :=
      h.floor_le fun e he => hdoubles e (List.mem_append_left _ he)
    exact Nat.le_trans hfloor (hgrown hdoubles)
  · rw [List.getLast?_concat] at he
    exact Option.some.inj he ▸ hgrown hdoubles

end InSchedule

/-- An accepted answer puts the schedule back at its floor, any other draws from it. -/
theorem Watcher.receive_pace (w : Watcher) (now : Nat) (j : Jitter) (reachable : String → Bool)
    (a : Answer) :
    (w.receive now j reachable a).1.pace
      = if a.isAccepted w.last then w.pace.reset else (w.pace.draw j).2 := by
  have haccepted : Verdict.on w.last a = .accepted ↔ a.isAccepted w.last = true :=
    Verdict.on_eq_accepted_iff
  unfold receive
  cases hv : Verdict.on w.last a with
  | accepted => rw [if_pos (haccepted.mp hv)]
  | failed | unindexed | regressed | unchanged =>
    rw [if_neg (fun h => by rw [haccepted.mpr h] at hv; exact nomatch hv)]

namespace WatchRun

/-! ## Beats along a run -/

/-- The beat of a step, if it has one. -/
def beat? (r : WatchRun) : WatchStep → Option Beat
  | .loop (.turn _ (.query .arrive)) =>
    if .query .arrive ∈ r.turns then some (.query r.now) else none
  | s => (r.hears? s).map fun x => .answer r.now x r.watcher.pace.current

def beats (r : WatchRun) (steps : List WatchStep) : List Beat := collect beat? r steps

/-- Time passes in a step only if nothing can be done, and no further than to the next timer. -/
def IsUrgent (r : WatchRun) : WatchStep → Prop
  | .loop (.wait ms) =>
    r.turns = [] ∧ (r.timer?.all fun timer => decide (r.now + ms ≤ timer)) = true
  | _ => True

/-- The same, along a run. -/
def Urgent (r : WatchRun) : List WatchStep → Prop
  | [] => True
  | s :: rest => r.IsUrgent s ∧ Urgent (r.step s) rest

instance decidableIsUrgent (r : WatchRun) : (s : WatchStep) → Decidable (r.IsUrgent s)
  | .loop (.wait _) => inferInstanceAs (Decidable (_ ∧ _))
  | .loop (.turn _ _) => isTrue trivial
  | .loop (.change _) => isTrue trivial
  | .loop .stop => isTrue trivial
  | .subscriber _ => isTrue trivial

instance decidableUrgent : (r : WatchRun) → (steps : List WatchStep) → Decidable (r.Urgent steps)
  | _, [] => isTrue trivial
  | r, s :: rest =>
    have : Decidable ((r.step s).Urgent rest) := decidableUrgent (r.step s) rest
    inferInstanceAs (Decidable (r.IsUrgent s ∧ _))

/-- The loop wakes up only when its sleep is over. -/
theorem le_now_of_mem_turns_wake {r : WatchRun} {wakeAt : Nat}
    (hpausing : r.watcher.phase = .pausing wakeAt) (h : Turn.wake ∈ r.turns) : wakeAt ≤ r.now := by
  unfold turns at h
  rw [hpausing] at h
  by_cases hdue : wakeAt ≤ r.now
  · exact hdue
  · cases hs : r.watcher.stopped <;> simp [hs, hdue] at h

/-! ## The loop stands where the beats put it -/

/-- Where a loop stands, by its tempo. If it is `exact`, no time was wasted. -/
structure OnBeat (floor cap : Duration) (exact : Prop) (t : Tempo) (r : WatchRun) : Prop where
  /-- About to ask, or with a query on its way, the loop has waited for as long as it had to. -/
  asking : r.watcher.phase = .asking → t.out = false ∧ t.due ≤ r.now ∧ (exact → r.now = t.due)
  sent : r.watcher.phase = .waiting → r.inquiry = some .sent →
    t.out = false ∧ t.due ≤ r.now ∧ (exact → r.now = t.due)
  pausing : ∀ wakeAt, r.watcher.phase = .pausing wakeAt →
    t.out = false ∧ t.due = wakeAt ∧ (exact → r.now ≤ wakeAt)
  waiting : r.watcher.phase = .waiting → r.inquiry ≠ some .sent → t.out = true
  /-- Its schedule has the floor and the cap that it was made with, and is in its streak. -/
  floor_eq : r.watcher.pace.floor = floor
  cap_eq : r.watcher.pace.cap = cap.greatest floor
  inSchedule : InSchedule floor cap t.streak r.watcher.pace.current

/-- What a beat is like that keeps to the tempo. -/
structure Admits (floor cap : Duration) (exact : Prop) (t : Tempo) (b : Beat) : Prop where
  /-- A query comes when none is out, and not before it is due. -/
  query : ∀ moment, b = .query moment →
    t.out = false ∧ t.due ≤ moment ∧ (exact → moment = t.due)
  /-- An answer comes to a query that is out, with the next delay of the streak. -/
  answer : ∀ moment x delay, b = .answer moment x delay →
    t.out = true ∧ InSchedule floor cap t.streak delay

section Steps

variable {floor cap : Duration} {exact : Prop} {t : Tempo} {r r' : WatchRun}

theorem OnBeat.congr (h : OnBeat floor cap exact t r) (hphase : r'.watcher.phase = r.watcher.phase)
    (hinquiry : r'.inquiry = r.inquiry) (hnow : r'.now = r.now)
    (hpace : r'.watcher.pace = r.watcher.pace) : OnBeat floor cap exact t r' where
  asking hp := by rw [hnow]; exact h.asking (hphase ▸ hp)
  sent hp hi := by rw [hnow]; exact h.sent (hphase ▸ hp) (hinquiry ▸ hi)
  pausing wakeAt hp := by rw [hnow]; exact h.pausing wakeAt (hphase ▸ hp)
  waiting hp hi := h.waiting (hphase ▸ hp) (hinquiry ▸ hi)
  floor_eq := by rw [hpace]; exact h.floor_eq
  cap_eq := by rw [hpace]; exact h.cap_eq
  inSchedule := by rw [hpace]; exact h.inSchedule

/-- Time that passes in a hurry keeps the loop on the beat. -/
theorem OnBeat.wait (h : OnBeat floor cap exact t r) {ms : Nat}
    (hurgent : exact → r.IsUrgent (.loop (.wait ms))) :
    OnBeat floor cap exact t { r with now := r.now + ms } := by
  refine { h with
    asking := fun hp => ?_, sent := fun hp hi => ?_, pausing := fun wakeAt hp => ?_ }
  · obtain ⟨hout, hdue, -⟩ := h.asking hp
    refine ⟨hout, Nat.le_add_right_of_le hdue, fun hexact => ?_⟩
    -- there is a turn to take
    have hrest := (hurgent hexact).1
    have hmem : Turn.send ∈ r.turns := mem_turns_send.mpr hp
    rw [hrest] at hmem
    exact absurd hmem List.not_mem_nil
  · obtain ⟨hout, hdue, -⟩ := h.sent hp hi
    refine ⟨hout, Nat.le_add_right_of_le hdue, fun hexact => ?_⟩
    have hrest := (hurgent hexact).1
    have hmem : Turn.query .arrive ∈ r.turns :=
      mem_turns_query.mpr ⟨hp, .sent, hi, List.mem_singleton_self _⟩
    rw [hrest] at hmem
    exact absurd hmem List.not_mem_nil
  · obtain ⟨hout, hdue, -⟩ := h.pausing wakeAt hp
    refine ⟨hout, hdue, fun hexact => ?_⟩
    have hbefore := (hurgent hexact).2
    have htimer : r.timer? = some wakeAt := by
      have hp' : r.watcher.phase = .pausing wakeAt := hp
      rw [timer?, hp']
    rw [htimer] at hbefore
    exact of_decide_eq_true hbefore

theorem OnBeat.receive (h : OnBeat floor cap exact t r) (j : Jitter)
    (hwaiting : r.watcher.phase = .waiting) {due : Option Nat} {reply : Reply}
    (hreplied : r.inquiry = some (.replied due reply)) (mailboxes : Mailboxes) :
    Admits floor cap exact t
        (.answer r.now ⟨r.watcher.last, reply.toAnswer⟩ r.watcher.pace.current) ∧
      OnBeat floor cap exact
        (t.next (.answer r.now ⟨r.watcher.last, reply.toAnswer⟩ r.watcher.pace.current))
        { r with
          watcher := (r.watcher.receive r.now j r.mailboxes.reaches reply.toAnswer).1
          inquiry := none
          mailboxes } := by
  have hout : t.out = true := h.waiting hwaiting (by rw [hreplied]; nofun)
  refine ⟨⟨nofun, fun moment x delay hb => ?_⟩, ?_⟩
  · obtain ⟨-, -, rfl⟩ := Beat.answer.inj hb
    exact ⟨hout, h.inSchedule⟩
  · have hphase := r.watcher.receive_phase r.now j r.mailboxes.reaches reply.toAnswer
    have hpace := r.watcher.receive_pace r.now j r.mailboxes.reaches reply.toAnswer
    by_cases haccepted : reply.toAnswer.isAccepted r.watcher.last = true
    · rw [if_pos haccepted] at hphase hpace
      have hnext : t.next (.answer r.now ⟨r.watcher.last, reply.toAnswer⟩ r.watcher.pace.current)
          = ⟨r.now, [], false⟩ := if_pos haccepted
      rw [hnext]
      refine { asking := fun _ => ⟨rfl, Nat.le_refl _, fun _ => rfl⟩,
               sent := fun _ hi => (nomatch hi),
               pausing := fun wakeAt hp => (nomatch hphase.symm.trans hp),
               waiting := fun hp => (nomatch hphase.symm.trans hp),
               floor_eq := ?_, cap_eq := ?_, inSchedule := ?_ }
      · exact (congrArg Backoff.floor hpace).trans h.floor_eq
      · exact (congrArg Backoff.cap hpace).trans h.cap_eq
      · have hcurrent : (r.watcher.receive r.now j r.mailboxes.reaches
            reply.toAnswer).1.pace.current = floor :=
          (congrArg Backoff.current hpace).trans h.floor_eq
        simp only [hcurrent]
        exact .nil floor cap
    · rw [if_neg haccepted] at hphase hpace
      have hnext : t.next (.answer r.now ⟨r.watcher.last, reply.toAnswer⟩ r.watcher.pace.current)
          = ⟨r.now + r.watcher.pace.current.ticks, t.streak ++ [r.watcher.pace.current], false⟩ :=
        if_neg haccepted
      rw [hnext]
      refine { asking := fun hp => (nomatch hphase.symm.trans hp),
               sent := fun _ hi => (nomatch hi),
               pausing := fun wakeAt hp => ?_,
               waiting := fun hp => (nomatch hphase.symm.trans hp),
               floor_eq := ?_, cap_eq := ?_, inSchedule := ?_ }
      · obtain rfl := Phase.pausing.inj (hphase.symm.trans hp)
        exact ⟨rfl, rfl, fun _ => Nat.le_add_right _ _⟩
      · exact (congrArg Backoff.floor hpace).trans h.floor_eq
      · exact (congrArg Backoff.cap hpace).trans h.cap_eq
      · have hcurrent : (r.watcher.receive r.now j r.mailboxes.reaches
            reply.toAnswer).1.pace.current
              = grow j (cap.greatest floor) r.watcher.pace.current := by
          rw [← h.cap_eq]
          exact congrArg Backoff.current hpace
        simp only [hcurrent]
        exact h.inSchedule.grow j

theorem OnBeat.queryTurn (h : OnBeat floor cap exact t r) (j : Jitter) {q : QueryTurn}
    (hq : Turn.query q ∈ r.turns) :
    (∀ b, r.beat? (.loop (.turn j (.query q))) = some b → Admits floor cap exact t b) ∧
      OnBeat floor cap exact (t.hear (r.beat? (.loop (.turn j (.query q)))))
        (r.take j (.query q)) := by
  obtain ⟨hwaiting, i, hi, hmem⟩ := mem_turns_query.mp hq
  -- whatever becomes of the query, the loop waits on, and the query has come in
  have hwait : ∀ (t' : Tempo) (backend : Backend) (i' : Inquiry) (asked : List (Nat × Nat)),
      i' ≠ .sent → t'.out = true → t'.streak = t.streak →
      OnBeat floor cap exact t' { r with backend, inquiry := some i', asked } := by
    intro t' backend i' asked hne hout hstreak
    exact
      { asking := fun hp => by cases hwaiting.symm.trans hp
        sent := fun _ hi' => absurd (Option.some.inj hi') hne
        pausing := fun wakeAt hp => by cases hwaiting.symm.trans hp
        waiting := fun _ _ => hout
        floor_eq := h.floor_eq
        cap_eq := h.cap_eq
        inSchedule := hstreak ▸ h.inSchedule }
  cases q with
  | arrive =>
    obtain ⟨-, hsent⟩ := mem_turns_arrive hq
    have hbeat : r.beat? (.loop (.turn j (.query .arrive))) = some (.query r.now) := if_pos hq
    rw [hbeat]
    refine ⟨fun b hb => ?_, ?_⟩
    · obtain rfl := Option.some.inj hb
      refine ⟨fun moment hm => ?_, fun _ _ _ hb => by cases hb⟩
      obtain rfl := Beat.query.inj hm
      exact h.sent hwaiting hsent
    · simp only [take, hsent]
      exact hwait _ _ _ _ (Backend.enter_ne_sent _ _ _ _) rfl rfl
  | notice =>
    obtain ⟨-, seen, giveUpAt, hparked, -⟩ := mem_turns_notice.mp hq
    have hout : t.out = true := h.waiting hwaiting (by rw [hparked]; rintro ⟨⟩)
    refine ⟨fun _ hb => (Option.some_ne_none _ hb.symm).elim, ?_⟩
    simp only [take, hparked, Backend.progress]
    cases r.backend.look r.query r.watcher.last <;> exact hwait t _ _ _ (by rintro ⟨⟩) hout rfl
  | expire =>
    obtain ⟨-, seen, giveUpAt, hparked, -⟩ := mem_turns_expire hq
    have hout : t.out = true := h.waiting hwaiting (by rw [hparked]; rintro ⟨⟩)
    refine ⟨fun _ hb => (Option.some_ne_none _ hb.symm).elim, ?_⟩
    simp only [take, hparked, Backend.progress]
    exact hwait t _ _ _ (by rintro ⟨⟩) hout rfl

theorem OnBeat.turn (h : OnBeat floor cap exact t r) (j : Jitter) {tn : Turn}
    (htn : tn ∈ r.turns) :
    (∀ b, r.beat? (.loop (.turn j tn)) = some b → Admits floor cap exact t b) ∧
      OnBeat floor cap exact (t.hear (r.beat? (.loop (.turn j tn)))) (r.take j tn) := by
  cases tn with
  | query q => exact h.queryTurn j htn
  | send =>
    have hnext := h.asking (mem_turns_send.mp htn)
    exact ⟨nofun,
      { asking := nofun
        sent := fun _ _ => hnext
        pausing := nofun
        waiting := fun _ hi => absurd rfl hi
        floor_eq := h.floor_eq
        cap_eq := h.cap_eq
        inSchedule := h.inSchedule }⟩
  | wake =>
    obtain ⟨wakeAt, hpausing⟩ := mem_turns_wake htn
    obtain ⟨hout, hdue, hnow⟩ := h.pausing wakeAt hpausing
    have hover : wakeAt ≤ r.now := le_now_of_mem_turns_wake hpausing htn
    refine ⟨nofun,
      { asking := fun _ => ⟨hout, hdue ▸ hover, fun hexact => ?_⟩
        sent := nofun
        pausing := nofun
        waiting := nofun
        floor_eq := h.floor_eq
        cap_eq := h.cap_eq
        inSchedule := h.inSchedule }⟩
    exact hdue ▸ Nat.le_antisymm (hnow hexact) hover
  | quit =>
    exact ⟨nofun,
      { asking := nofun
        sent := nofun
        pausing := nofun
        waiting := nofun
        floor_eq := h.floor_eq
        cap_eq := h.cap_eq
        inSchedule := h.inSchedule }⟩
  | receive =>
    obtain ⟨hwaiting, i, reply, hi, hready⟩ := mem_turns_receive.mp htn
    obtain ⟨due, rfl⟩ := exists_due_of_ready? hready
    have hbind : r.inquiry.bind (·.ready? r.now) = some reply := by rw [hi]; exact hready
    have hbeat : r.beat? (.loop (.turn j .receive))
        = some (.answer r.now ⟨r.watcher.last, reply.toAnswer⟩ r.watcher.pace.current) := by
      simp only [beat?, hears?, if_pos htn, hbind, Option.map_some]
    obtain ⟨hadmits, hnext⟩ := h.receive j hwaiting hi
      (r.mailboxes.postAll (r.watcher.receive r.now j r.mailboxes.reaches reply.toAnswer).2)
    rw [hbeat]
    refine ⟨fun b hb => Option.some.inj hb ▸ hadmits, ?_⟩
    simp only [take, hbind]
    exact hnext

/-- **Each step keeps the loop on the beat**, and each beat to the tempo. -/
theorem OnBeat.step (h : OnBeat floor cap exact t r) (s : WatchStep)
    (hurgent : exact → r.IsUrgent s) :
    (∀ b, r.beat? s = some b → Admits floor cap exact t b) ∧
      OnBeat floor cap exact (t.hear (r.beat? s)) (r.step s) := by
  cases s with
  | subscriber s => exact ⟨nofun, h.congr rfl rfl rfl rfl⟩
  | loop s =>
    cases s with
    | wait ms => exact ⟨nofun, h.wait hurgent⟩
    | change ch => exact ⟨nofun, h.congr rfl rfl rfl rfl⟩
    | stop => exact ⟨nofun, h.congr rfl rfl rfl rfl⟩
    | turn j tn =>
      by_cases htn : tn ∈ r.turns
      · have hstep : r.step (.loop (.turn j tn)) = r.take j tn := if_pos htn
        rw [hstep]
        exact h.turn j htn
      · have hstep : r.step (.loop (.turn j tn)) = r := if_neg htn
        have hbeat : r.beat? (.loop (.turn j tn)) = none := by
          cases tn with
          | receive => simp only [beat?, hears?, if_neg htn, Option.map_none]
          | query q =>
            cases q with
            | arrive => exact if_neg htn
            | notice | expire => rfl
          | send | wake | quit => rfl
        rw [hstep, hbeat]
        exact ⟨fun _ hb => (Option.some_ne_none _ hb.symm).elim, h⟩

end Steps

/-! ## Whole runs -/

/-- **Along a run every beat keeps to the tempo** of those before it. -/
theorem admits_beats {floor cap : Duration} {exact : Prop} {t : Tempo} {r : WatchRun}
    (h : OnBeat floor cap exact t r) {steps : List WatchStep} (hurgent : exact → r.Urgent steps)
    {before rest : List Beat} {b : Beat} (hbeats : r.beats steps = before ++ b :: rest) :
    Admits floor cap exact (before.foldl Tempo.next t) b := by
  induction steps generalizing r t before with
  | nil => exact absurd hbeats (List.append_ne_nil_of_right_ne_nil _ (List.cons_ne_nil _ _)).symm
  | cons s steps ih =>
    obtain ⟨hadmits, hnext⟩ := h.step s fun hexact => (hurgent hexact).1
    have hrest : exact → (r.step s).Urgent steps := fun hexact => (hurgent hexact).2
    have hcons : r.beats (s :: steps) = (r.beat? s).toList ++ (r.step s).beats steps := rfl
    rw [hcons] at hbeats
    cases hb : r.beat? s with
    | none =>
      rw [hb] at hbeats hnext
      exact ih hnext hrest hbeats
    | some b' =>
      rw [hb] at hbeats hnext hadmits
      cases before with
      | nil =>
        obtain ⟨rfl, -⟩ := List.cons.inj hbeats
        exact hadmits _ rfl
      | cons first before =>
        obtain ⟨rfl, htail⟩ := List.cons.inj hbeats
        exact ih hnext hrest htail

theorem now_le_step (r : WatchRun) (s : WatchStep) : r.now ≤ (r.step s).now := by
  cases s with
  | subscriber s => exact Nat.le_refl _
  | loop s =>
    have hmove := moves_stepLoop r s
    show r.now ≤ (r.stepLoop s).now
    generalize r.hears? (.loop s) = x? at hmove
    generalize r.stepLoop s = r' at hmove ⊢
    cases hmove with
    | wait ms => exact Nat.le_add_right _ _
    | _ => exact Nat.le_refl _

theorem moment_of_beat? {r : WatchRun} {s : WatchStep} {b : Beat} (h : r.beat? s = some b) :
    b.moment = r.now := by
  unfold beat? at h
  split at h
  · obtain ⟨-, hb⟩ := Option.ite_none_right_eq_some.mp h
    exact Option.some.inj hb ▸ rfl
  · obtain ⟨x, -, rfl⟩ := Option.map_eq_some_iff.mp h
    rfl

/-- Beats come in the order of time. -/
theorem pairwise_beats (r : WatchRun) (steps : List WatchStep) :
    (∀ b ∈ r.beats steps, r.now ≤ b.moment) ∧
      (r.beats steps).Pairwise fun b c => b.moment ≤ c.moment := by
  induction steps generalizing r with
  | nil => exact ⟨fun b hb => absurd hb List.not_mem_nil, .nil⟩
  | cons s steps ih =>
    obtain ⟨hlater, horder⟩ := ih (r.step s)
    have hpast : ∀ b ∈ (r.step s).beats steps, r.now ≤ b.moment := fun b hb =>
      Nat.le_trans (now_le_step r s) (hlater b hb)
    have hcons : r.beats (s :: steps) = (r.beat? s).toList ++ (r.step s).beats steps := rfl
    rw [hcons]
    cases hb : r.beat? s with
    | none => exact ⟨hpast, horder⟩
    | some b =>
      have hmoment := moment_of_beat? hb
      refine ⟨fun c hc => ?_, List.pairwise_cons.mpr ⟨fun c hc => ?_, horder⟩⟩
      · rcases List.mem_cons.mp hc with rfl | hc
        · exact Nat.le_of_eq hmoment.symm
        · exact hpast c hc
      · rw [hmoment]
        exact hpast c hc

/-- The beats of a step are the query that comes in and the answer that is taken. -/
theorem beat?_spec (r : WatchRun) (s : WatchStep) :
    (r.step s).asked.map Prod.fst
        = r.asked.map Prod.fst ++ (r.beat? s).toList.filterMap Beat.query? ∧
      (r.beat? s).toList.filterMap Beat.answer? = (r.hears? s).toList := by
  have hquiet : ∀ s, (r.step s).asked = r.asked →
      r.beat? s = (r.hears? s).map (fun x => .answer r.now x r.watcher.pace.current) →
      (r.step s).asked.map Prod.fst
          = r.asked.map Prod.fst ++ (r.beat? s).toList.filterMap Beat.query? ∧
        (r.beat? s).toList.filterMap Beat.answer? = (r.hears? s).toList := by
    intro s hasked hbeat
    rw [hasked, hbeat]
    cases r.hears? s <;> exact ⟨(List.append_nil _).symm, rfl⟩
  cases s with
  | subscriber s => exact hquiet _ rfl rfl
  | loop s =>
    cases s with
    | wait ms | change ch | stop => exact hquiet _ rfl rfl
    | turn j tn =>
      by_cases htn : tn ∈ r.turns
      · have hstep : r.step (.loop (.turn j tn)) = r.take j tn := if_pos htn
        cases tn with
        | send | wake | quit => exact hquiet _ ((congrArg asked hstep).trans rfl) rfl
        | receive =>
          obtain ⟨-, i, reply, hi, hready⟩ := mem_turns_receive.mp htn
          refine hquiet _ ((congrArg asked hstep).trans ?_) rfl
          simp [take, hi, hready]
        | query q =>
          obtain ⟨-, i, hi, -⟩ := mem_turns_query.mp htn
          cases q with
          | notice | expire =>
            refine hquiet _ ((congrArg asked hstep).trans ?_) rfl
            simp [take, hi]
          | arrive =>
            have hbeat : r.beat? (.loop (.turn j (.query .arrive))) = some (.query r.now) :=
              if_pos htn
            rw [hstep, hbeat]
            refine ⟨?_, rfl⟩
            simp [take, hi, Beat.query?]
      · have hstep : r.step (.loop (.turn j tn)) = r := if_neg htn
        refine hquiet _ (congrArg asked hstep) ?_
        cases tn with
        | query q =>
          cases q with
          | arrive => exact if_neg htn
          | notice | expire => rfl
        | send | wake | quit | receive => rfl

/-- The beats of a run are the queries that came in and the answers that were taken. -/
theorem beats_spec (r : WatchRun) (steps : List WatchStep) :
    (r.after steps).asked.map Prod.fst
        = r.asked.map Prod.fst ++ (r.beats steps).filterMap Beat.query? ∧
      (r.beats steps).filterMap Beat.answer? = r.heard steps := by
  induction steps generalizing r with
  | nil => exact ⟨(List.append_nil _).symm, rfl⟩
  | cons s steps ih =>
    obtain ⟨hasked, hheard⟩ := beat?_spec r s
    obtain ⟨hasked', hheard'⟩ := ih (r.step s)
    have hcons : r.beats (s :: steps) = (r.beat? s).toList ++ (r.step s).beats steps := rfl
    have hheard'' : r.heard (s :: steps) = (r.hears? s).toList ++ (r.step s).heard steps := rfl
    rw [hcons, hheard'', List.filterMap_append, List.filterMap_append, hheard, hheard',
      ← List.append_assoc, ← hasked]
    exact ⟨hasked', rfl⟩

/-! ## The whole law -/

/-- The pace of a loop with a floor and a cap, whose initial query was answered at a moment. -/
structure Pacing (floor cap : Duration) (start : Nat) (beats : List Beat) : Prop where
  /-- No query comes in while another is out, or before it is due: at once at the start and after an
  accepted answer, and after any other answer when the delay is over. -/
  query : ∀ before moment rest, beats = before ++ .query moment :: rest →
    (tempo start before).out = false ∧ (tempo start before).due ≤ moment
  /-- An answer comes to the query that is out, and the delay after it is the next one for as many
  answers in a row as were not accepted. -/
  answer : ∀ before moment x delay rest, beats = before ++ .answer moment x delay :: rest →
    (tempo start before).out = true ∧ InSchedule floor cap (tempo start before).streak delay
  /-- So nobody asks again within one floor of an answer that was not accepted. -/
  apart : ∀ before moment x delay between moment' rest,
    beats = before ++ .answer moment x delay :: (between ++ .query moment' :: rest) →
    x.isAccepted = false → Doubles (tempo start before).streak →
    moment + floor.ticks ≤ moment'

theorem tempo_snoc (start : Nat) (before : List Beat) (b : Beat) :
    tempo start (before ++ [b]) = (tempo start before).next b := by
  rw [tempo, List.foldl_append]
  rfl

/-- The third clause of the law follows from the others. -/
theorem apart_of_beats {floor cap : Duration} {start : Nat} {beats : List Beat}
    (hquery : ∀ before moment rest, beats = before ++ .query moment :: rest →
      (tempo start before).out = false ∧ (tempo start before).due ≤ moment)
    (hanswer : ∀ before moment x delay rest, beats = before ++ .answer moment x delay :: rest →
      (tempo start before).out = true ∧ InSchedule floor cap (tempo start before).streak delay)
    (horder : beats.Pairwise fun b c => b.moment ≤ c.moment)
    {before between rest : List Beat} {moment moment' : Nat} {x : Exchange} {delay : Duration}
    (hbeats : beats = before ++ .answer moment x delay :: (between ++ .query moment' :: rest))
    (hx : x.isAccepted = false) (hdoubles : Doubles (tempo start before).streak) :
    moment + floor.ticks ≤ moment' := by
  have hfloor : floor.ticks ≤ delay.ticks :=
    Duration.ticks_mono ((hanswer _ _ _ _ _ hbeats).2.floor_le hdoubles)
  have htempo : tempo start (before ++ [.answer moment x delay])
      = ⟨moment + delay.ticks, (tempo start before).streak ++ [delay], false⟩ := by
    rw [tempo_snoc]
    exact if_neg (Bool.eq_false_iff.mp hx)
  have hsnoc : ∀ l, before ++ Beat.answer moment x delay :: l
      = (before ++ [.answer moment x delay]) ++ l := fun l => by simp
  rw [hsnoc] at hbeats
  cases between with
  | nil =>
    have hdue := (hquery _ _ _ hbeats).2
    rw [htempo] at hdue
    exact Nat.le_trans (Nat.add_le_add_left hfloor _) hdue
  | cons b between =>
    cases b with
    | answer moment'' y delay' =>
      -- two answers in a row would need a query between them
      have hout := (hanswer _ _ _ _ _ hbeats).1
      rw [htempo] at hout
      exact nomatch hout
    | query moment'' =>
      have hdue := (hquery _ _ _ hbeats).2
      rw [htempo] at hdue
      have hlater : moment'' ≤ moment' := by
        rw [hbeats] at horder
        have htail := (List.pairwise_append.mp horder).2.1
        exact (List.pairwise_cons.mp htail).1 (.query moment') (by simp)
      have hsum : moment + floor.ticks ≤ moment + delay.ticks := Nat.add_le_add_left hfloor _
      exact Nat.le_trans hsum (Nat.le_trans hdue hlater)

theorem onBeat_start (floor cap : Duration) (exact : Prop) (backend : Backend)
    (query : ServiceQuery) (mailboxes : Mailboxes) (sentAt now : Nat) (initial : Answer) :
    OnBeat floor cap exact (tempo now [])
      (start backend query (.start floor cap) mailboxes sentAt now initial) where
  asking _ := ⟨rfl, Nat.le_refl _, fun _ => rfl⟩
  sent hp := nomatch hp
  pausing _ hp := nomatch hp
  waiting hp := nomatch hp
  floor_eq := rfl
  cap_eq := rfl
  inSchedule := .nil floor cap

/-- **The loop keeps its pace**, whatever the backend answers, whoever listens and whatever the
factors of the delays are. In any run no query comes early; in a run that wastes no time each comes
on the millisecond. -/
theorem pacing_after (floor cap : Duration) (backend : Backend) (query : ServiceQuery)
    (mailboxes : Mailboxes) (sentAt now : Nat) (initial : Answer) (steps : List WatchStep) :
    let r := start backend query (.start floor cap) mailboxes sentAt now initial
    Pacing floor cap now (r.beats steps) ∧
      (r.Urgent steps → ∀ before moment rest, r.beats steps = before ++ .query moment :: rest →
        moment = (tempo now before).due) ∧
      (r.after steps).asked.map Prod.fst = sentAt :: (r.beats steps).filterMap Beat.query? ∧
      (r.beats steps).filterMap Beat.answer? = r.heard steps := by
  intro r
  have hadmits : ∀ before b rest, r.beats steps = before ++ b :: rest →
      Admits floor cap (r.Urgent steps) (tempo now before) b := fun before b rest hbeats =>
    admits_beats (onBeat_start floor cap (r.Urgent steps) backend query mailboxes sentAt now initial)
      id hbeats
  have hquery : ∀ before moment rest, r.beats steps = before ++ .query moment :: rest →
      (tempo now before).out = false ∧ (tempo now before).due ≤ moment := by
    intro before moment rest hbeats
    obtain ⟨hout, hdue, -⟩ := (hadmits before _ rest hbeats).query moment rfl
    exact ⟨hout, hdue⟩
  have hanswer : ∀ before moment x delay rest,
      r.beats steps = before ++ .answer moment x delay :: rest →
      (tempo now before).out = true ∧ InSchedule floor cap (tempo now before).streak delay :=
    fun before moment x delay rest hbeats =>
      (hadmits before _ rest hbeats).answer moment x delay rfl
  refine ⟨⟨hquery, hanswer, ?_⟩, ?_, beats_spec r steps⟩
  · intro before moment x delay between moment' rest hbeats hx hdoubles
    exact apart_of_beats hquery hanswer (pairwise_beats r steps).2 hbeats hx hdoubles
  · intro hurgent before moment rest hbeats
    exact ((hadmits before _ rest hbeats).query moment rfl).2.2 hurgent

/-- A watcher that gets a list, a breakdown, an answer without an index, and a list again. -/
def onScript : WatchRun :=
  start (.script [⟨5, .answer (.found ["a:1"] 6)⟩, ⟨0, .panic "no memory"⟩,
    ⟨0, .answer (.found ["a:1"] 0)⟩, ⟨0, .answer (.found ["a:1"] 7)⟩]) ⟨"users", [], true⟩
    (.start (.ofMillis 10) (.ofMillis 15)) {} 0 0 (.found ["a:1"] 5)

/-- The breakdown and the answer without an index make up one streak: the delays after them are the
floor, and then the cap. The lists are followed up at once. -/
theorem pacing_after_onScript :
    let ask : List WatchStep :=
      [.loop (.turn .one .send), .loop (.turn .one (.query .arrive))]
    let steps : List WatchStep := ask ++ [.loop (.wait 5), .loop (.turn .one .receive)] ++
      ask ++ [.loop (.turn .one .receive), .loop (.wait 10), .loop (.turn .one .wake)] ++
      ask ++ [.loop (.turn .one .receive), .loop (.wait 15), .loop (.turn .one .wake)] ++
      ask ++ [.loop (.turn .one .receive)] ++ ask
    onScript.Urgent steps ∧ Pacing (.ofMillis 10) (.ofMillis 15) 0 (onScript.beats steps) ∧
      (onScript.beats steps).filterMap Beat.query? = [0, 5, 15, 30, 30] ∧
      (∀ before moment rest, onScript.beats steps = before ++ .query moment :: rest →
        moment = (tempo 0 before).due) := by
  intro ask steps
  have hurgent : onScript.Urgent steps := by decide
  obtain ⟨hpacing, hexact, -⟩ := pacing_after (.ofMillis 10) (.ofMillis 15)
    (.script [⟨5, .answer (.found ["a:1"] 6)⟩, ⟨0, .panic "no memory"⟩,
      ⟨0, .answer (.found ["a:1"] 0)⟩, ⟨0, .answer (.found ["a:1"] 7)⟩]) ⟨"users", [], true⟩
    {} 0 0 (.found ["a:1"] 5) steps
  exact ⟨hurgent, hpacing, by decide, hexact hurgent⟩

end WatchRun

end Switchboard
