import Switchboard.Watcher
/-!
# What taking an answer does

`Watcher.receive` decides by a verdict on the answer's index. Here the verdict is put into the
terms in which the watch loop is described — an answer is accepted, or it is a setback, or
neither — and `receive` is taken apart once, so that later files never open it:

* `Answer.isAccepted`, `Answer.isSetback` — the terms; `receive_last` and `receive_phase` say what
  they do to the index for the next query and to the loop;
* `Watcher.publication` — the snapshot that an answer makes the feed publish, if any, with one
  lemma for each kind of answer;
* `receive_of_publication_eq_none`, `receive_of_publication_eq_some` — nothing happens to the feed
  and its subscribers without a publication, and with one everyone who can be reached gets it.
-/

namespace Switchboard

/-! ## Answers seen from the index that was sent -/

namespace Answer

/-- Addresses whose index is above the one that was sent. -/
def isAccepted (sent : Nat) : Answer → Bool
  | .found _ index => sent < index
  | .failed _ => false

/-- A failure, or an index that fell below the one that was sent. -/
def isSetback (sent : Nat) : Answer → Bool
  | .found _ index => index ≠ noIndex && index < sent
  | .failed _ => true

@[simp] theorem snapshot_normal (a : Answer) : a.snapshot.normal = a.snapshot := by
  cases a with
  | found instances index =>
    exact congrArg Snapshot.instances (ascending_of_pairwise (pairwise_ascending instances))
  | failed why => rfl

theorem isFailure_snapshot_of_isAccepted {sent : Nat} {a : Answer}
    (h : a.isAccepted sent = true) : a.snapshot.isFailure = false := by
  cases a with
  | found instances index => rfl
  | failed why => exact nomatch h

end Answer

namespace Verdict

theorem on_eq_accepted_iff {sent : Nat} {a : Answer} :
    Verdict.on sent a = .accepted ↔ a.isAccepted sent = true := by
  cases a with
  | failed why => exact ⟨fun h => (nomatch h), fun h => (nomatch h)⟩
  | found instances index =>
    show (if index = noIndex then Verdict.unindexed else if index < sent then .regressed
      else if index = sent then .unchanged else .accepted) = .accepted
        ↔ decide (sent < index) = true
    rw [decide_eq_true_iff]
    by_cases hzero : index = noIndex
    · rw [if_pos hzero]
      exact ⟨fun h => (nomatch h), fun hlt => absurd hlt (hzero ▸ Nat.not_lt_zero sent)⟩
    · rw [if_neg hzero]
      rcases Nat.lt_trichotomy index sent with hlt | heq | hgt
      · rw [if_pos hlt]
        exact ⟨fun h => (nomatch h), fun h => absurd h (Nat.lt_asymm hlt)⟩
      · rw [if_neg (Nat.not_lt_of_ge (Nat.le_of_eq heq.symm)), if_pos heq]
        exact ⟨fun h => (nomatch h), fun h => absurd heq (Nat.ne_of_gt h)⟩
      · rw [if_neg (Nat.lt_asymm hgt), if_neg (Nat.ne_of_gt hgt)]
        exact ⟨fun _ => hgt, fun _ => rfl⟩

/-- The index to send next: that of an accepted answer, none after a setback, else the same. -/
theorem nextIndex_on (sent : Nat) (a : Answer) :
    (Verdict.on sent a).nextIndex sent a.index
      = if a.isAccepted sent then a.index
        else if a.isSetback sent then noIndex else sent := by
  cases a with
  | failed why => rfl
  | found instances index =>
    by_cases hzero : index = noIndex
    · simp [Verdict.on, nextIndex, Answer.isAccepted, Answer.isSetback, hzero, noIndex]
    · rcases Nat.lt_trichotomy index sent with hlt | heq | hgt
      · have hnot : ¬ sent < index := by omega
        simp [Verdict.on, nextIndex, Answer.isAccepted, Answer.isSetback, hzero, hlt, hnot]
      · subst heq
        simp [Verdict.on, nextIndex, Answer.isAccepted, Answer.isSetback, hzero]
      · have hnot : ¬ index < sent := by omega
        have hne : index ≠ sent := by omega
        simp [Verdict.on, nextIndex, Answer.isAccepted, Answer.index, hzero, hnot, hne, hgt]

end Verdict

namespace Watcher

variable (w : Watcher) (now : Nat) (j : Jitter) (reachable : String → Bool) (a : Answer)

/-! ## The loop after an answer -/

/-- What `receive` does to the feed, and what it sends out. -/
theorem receive_out :
    ((w.receive now j reachable a).1.feed, (w.receive now j reachable a).2)
      = match w.published a with
        | some s => w.feed.publish reachable s
        | none => (w.feed, []) := by
  unfold receive
  cases Verdict.on w.last a <;> cases w.published a <;> rfl

theorem receive_last :
    (w.receive now j reachable a).1.last
      = if a.isAccepted w.last then a.index
        else if a.isSetback w.last then noIndex else w.last := by
  rw [← Verdict.nextIndex_on]
  unfold receive
  cases Verdict.on w.last a <;> rfl

/-- After an accepted answer the loop asks again at once, after any other it pauses. -/
theorem receive_phase :
    (w.receive now j reachable a).1.phase
      = if a.isAccepted w.last then .asking else .pausing (now + w.pace.current.ticks) := by
  have haccepted : Verdict.on w.last a = .accepted ↔ a.isAccepted w.last = true :=
    Verdict.on_eq_accepted_iff
  unfold receive
  cases hv : Verdict.on w.last a with
  | accepted => rw [if_pos (haccepted.mp hv)]
  | failed | unindexed | regressed | unchanged =>
    rw [if_neg (fun h => by rw [haccepted.mpr h] at hv; exact nomatch hv)]
    rfl

@[simp] theorem receive_query : (w.receive now j reachable a).1.query = w.query := by
  unfold receive
  cases Verdict.on w.last a <;> rfl

@[simp] theorem receive_stopped : (w.receive now j reachable a).1.stopped = w.stopped := by
  unfold receive
  cases Verdict.on w.last a <;> rfl

/-! ## What an answer makes the feed publish -/

/-- The snapshot that an answer makes the feed publish: it has to be due, and to be news. -/
def publication (w : Watcher) (a : Answer) : Option Snapshot :=
  ((w.published a).filter fun s => w.feed.isNews s).map Snapshot.normal

variable {w a}

/-- An accepted answer is published unless it says what is known. -/
theorem publication_of_isAccepted (h : a.isAccepted w.last = true) :
    w.publication a = if w.feed.state = a.snapshot then none else some a.snapshot := by
  unfold publication published
  rw [Verdict.on_eq_accepted_iff.mpr h]
  show ((some a.snapshot).filter fun s => w.feed.isNews s).map Snapshot.normal = _
  rw [Option.filter_some]
  by_cases hstate : w.feed.state = a.snapshot
  · have hnews : w.feed.isNews a.snapshot = false := by simp [Feed.isNews, hstate]
    rw [hnews, if_pos hstate]
    rfl
  · have hnews : w.feed.isNews a.snapshot = true := by simp [Feed.isNews, hstate]
    rw [hnews, if_neg hstate]
    exact congrArg some a.snapshot_normal

/-- Addresses that are not accepted are not published. -/
theorem publication_of_found {instances : List String} {index : Nat}
    (h : (Answer.found instances index).isAccepted w.last = false) :
    w.publication (.found instances index) = none := by
  unfold publication published
  cases hv : Verdict.on w.last (.found instances index) with
  | accepted => rw [Verdict.on_eq_accepted_iff.mp hv] at h; exact nomatch h
  | failed =>
    unfold Verdict.on at hv
    grind
  | unindexed | regressed | unchanged => rfl

/-- A failure is published unless one is known. -/
theorem publication_failed (w : Watcher) (why : DiscoveryFailure) :
    w.publication (.failed why)
      = if w.feed.state.isFailure then none else some (.failure why) := by
  unfold publication published
  show ((if w.feed.state.isFailure then none else some (Snapshot.failure why)).filter
    fun s => w.feed.isNews s).map Snapshot.normal = _
  cases hstate : w.feed.state with
  | failure _ => rfl
  | instances addrs =>
    have hnews : w.feed.isNews (.failure why) = true := by
      simp [Feed.isNews, hstate, Snapshot.normal]
    show ((some (Snapshot.failure why)).filter fun s => w.feed.isNews s).map Snapshot.normal = _
    rw [Option.filter_some, hnews]
    rfl

/-- What is published differs from what was known. -/
theorem ne_of_publication_eq_some {s : Snapshot} (h : w.publication a = some s) :
    w.feed.state ≠ s := by
  obtain ⟨t, ht, rfl⟩ := Option.map_eq_some_iff.mp h
  exact of_decide_eq_true (Option.filter_eq_some_iff.mp ht).2

/-- A failure is published only when none is known. -/
theorem isFailure_state_of_publication {s : Snapshot} (h : w.publication a = some s)
    (hs : s.isFailure = true) :
    w.feed.state.isFailure = false := by
  cases a with
  | failed why =>
    rw [publication_failed] at h
    exact Bool.eq_false_iff.mpr fun hf => by simp [hf] at h
  | found instances index =>
    cases haccepted : (Answer.found instances index).isAccepted w.last with
    | false => rw [publication_of_found haccepted] at h; exact nomatch h
    | true =>
      rw [publication_of_isAccepted haccepted] at h
      obtain ⟨-, heq⟩ := Option.ite_none_left_eq_some.mp h
      rw [← Option.some.inj heq] at hs
      exact nomatch hs

/-- Without a publication nothing happens to the feed, and nobody hears anything. -/
theorem receive_of_publication_eq_none (h : w.publication a = none) :
    (w.receive now j reachable a).1.feed = w.feed ∧ (w.receive now j reachable a).2 = [] := by
  have hout := receive_out w now j reachable a
  cases hp : w.published a with
  | none =>
    rw [hp] at hout
    exact Prod.mk.inj hout
  | some s =>
    have hnews : w.feed.isNews s = false := by simpa [publication, hp] using h
    rw [hp] at hout
    simp only [Feed.publish, hnews, Bool.false_eq_true, if_false] at hout
    exact Prod.mk.inj hout

/-- A publication becomes the state of the feed, and goes to every subscriber who can be reached;
the others are forgotten. -/
theorem receive_of_publication_eq_some {s : Snapshot} (h : w.publication a = some s) :
    (w.receive now j reachable a).1.feed
        = { w.feed with
            state := s, subscribers := w.feed.subscribers.filter fun p => reachable p.2 } ∧
      (w.receive now j reachable a).2
        = (w.feed.subscribers.filter fun p => reachable p.2).map fun p => ⟨p.1, p.2, s⟩ := by
  obtain ⟨t, ht, rfl⟩ := Option.map_eq_some_iff.mp h
  obtain ⟨hp, hnews⟩ := Option.filter_eq_some_iff.mp ht
  have hout := receive_out w now j reachable a
  rw [hp] at hout
  simp only [Feed.publish, hnews, if_true] at hout
  exact Prod.mk.inj hout

/-- What is known after an answer is what it made the loop publish, or what was known before. -/
theorem receive_state_eq (w : Watcher) (a : Answer) :
    (w.receive now j reachable a).1.feed.state = (w.publication a).getD w.feed.state := by
  cases hpub : w.publication a with
  | none => rw [(receive_of_publication_eq_none now j reachable hpub).1]; rfl
  | some s => rw [(receive_of_publication_eq_some now j reachable hpub).1]; rfl

/-- After an accepted answer the feed has the set of its addresses. -/
theorem receive_state_of_isAccepted (h : a.isAccepted w.last = true) :
    (w.receive now j reachable a).1.feed.state = a.snapshot := by
  have hpub := publication_of_isAccepted h
  by_cases hstate : w.feed.state = a.snapshot
  · rw [if_pos hstate] at hpub
    rw [(receive_of_publication_eq_none now j reachable hpub).1, hstate]
  · rw [if_neg hstate] at hpub
    rw [(receive_of_publication_eq_some now j reachable hpub).1]

/-- Addresses that are not accepted leave the feed alone. -/
theorem receive_feed_of_found {instances : List String} {index : Nat}
    (h : (Answer.found instances index).isAccepted w.last = false) :
    (w.receive now j reachable (.found instances index)).1.feed = w.feed :=
  (receive_of_publication_eq_none now j reachable (publication_of_found h)).1

/-- After a failure the feed has a failure: the one it had, or else this one. -/
theorem receive_state_failed (w : Watcher) (why : DiscoveryFailure) :
    (w.receive now j reachable (.failed why)).1.feed.state
      = if w.feed.state.isFailure then w.feed.state else .failure why := by
  have hpub := publication_failed w why
  cases hf : w.feed.state.isFailure with
  | true =>
    rw [hf, if_pos rfl] at hpub
    rw [(receive_of_publication_eq_none now j reachable hpub).1, if_pos rfl]
  | false =>
    rw [hf, if_neg Bool.false_ne_true] at hpub
    rw [(receive_of_publication_eq_some now j reachable hpub).1, if_neg Bool.false_ne_true]

/-- A loop that was just set up knows what its initial answer says. -/
@[simp] theorem begin_state (query : ServiceQuery) (pace : Backoff) (initial : Answer) :
    (begin query pace initial).feed.state = initial.snapshot := by
  show (Feed.empty.publish (fun _ => false) initial.snapshot).1.state = initial.snapshot
  unfold Feed.publish
  by_cases hnews : Feed.empty.isNews initial.snapshot = true
  · rw [if_pos hnews]
    exact initial.snapshot_normal
  · rw [if_neg hnews]
    have heq : Feed.empty.state = initial.snapshot.normal := by simpa [Feed.isNews] using hnews
    rw [heq, Answer.snapshot_normal]

end Watcher

end Switchboard
