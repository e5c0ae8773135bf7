import Mathlib.Data.List.Chain
import Switchboard.Proofs.Watcher.Course
/-!
# The protocol of the watch loop

A watcher that was set up with some initial answer takes answers one after the other, in any order
and from any backend, while subscribers come and go and time passes. What it sends, knows and
publishes at any moment is a matter of the answers it has heard:

* `cursor` — the index that the answers heard so far call for, read off them backwards: the index
  of the last accepted one, unless there was a setback since.
* `Protocol` — what holds between the answers heard, the snapshots published, and the loop; the
  queries that came in at the backend are part of it.
* `Heeds` — what one answer does to the loop and to those who listen.

The loop keeps to the protocol along every run, and heeds every answer. The invariant is carried
through a run by `Moves`: only taking an answer concerns more than the query that is out.
-/

namespace Switchboard

namespace Exchange

def isAccepted (x : Exchange) : Bool := x.answer.isAccepted x.sent

def isSetback (x : Exchange) : Bool := x.answer.isSetback x.sent

end Exchange

/-! ## The index that the answers call for -/

/-- Was there a setback since the last accepted answer? -/
def setBack (heard : List Exchange) : Bool :=
  (heard.reverse.takeWhile fun x => !x.isAccepted).any Exchange.isSetback

/-- The index of the last accepted answer; the initial one counts as accepted. -/
def lastAccepted (initial : Answer) (heard : List Exchange) : Nat :=
  (heard.reverse.find? Exchange.isAccepted).elim initial.index fun x => x.answer.index

/-- The index to send when these answers have been heard. -/
def cursor (initial : Answer) (heard : List Exchange) : Nat :=
  if setBack heard then noIndex else lastAccepted initial heard

/-- An accepted answer sets the index, a setback clears it, and any other answer leaves it. -/
theorem cursor_snoc (initial : Answer) (heard : List Exchange) (x : Exchange) :
    cursor initial (heard ++ [x])
      = if x.isAccepted then x.answer.index
        else if x.isSetback then noIndex else cursor initial heard := by
  unfold cursor setBack lastAccepted
  rw [List.reverse_concat, List.takeWhile_cons, List.find?_cons]
  by_cases haccepted : x.isAccepted = true
  · simp [haccepted]
  · have hnot : x.isAccepted = false := Bool.eq_false_iff.mpr haccepted
    by_cases hsetback : x.isSetback = true
    · simp [hnot, hsetback]
    · simp [hnot, Bool.eq_false_iff.mpr hsetback]

namespace WatchRun

/-! ## The protocol -/

/-- The query that is out, if there is one, and the indices of the queries that came in and have
not been answered: at most one. -/
structure Pending (r : WatchRun) (out : List Nat) : Prop where
  waiting : ∀ i, r.inquiry = some i → r.watcher.phase = .waiting
  /-- A query that came in was sent with the current index. -/
  shape : out = [] ∨ out = [r.watcher.last]
  asking : r.watcher.phase = .asking → out = []
  pausing : ∀ wakeAt, r.watcher.phase = .pausing wakeAt → out = []
  /-- A query that was sent comes in once. -/
  sent : r.inquiry = some .sent → out = []
  entered : ∀ i, r.inquiry = some i → i ≠ .sent → out = [r.watcher.last]

/-- What is known, sent and published when the loop was set up with `initial`, has heard `heard`
and has published `told`. -/
structure Protocol (initial : Answer) (heard : List Exchange) (told : List Snapshot)
    (r : WatchRun) : Prop where
  /-- While a failure is known, the loop asks for anything, of whatever index. -/
  failing : r.state.isFailure = true → r.watcher.last = noIndex
  /-- The index for the next query is the one that the answers call for, ... -/
  last_eq : r.watcher.last = cursor initial heard
  /-- ... and so was the index of each query before. -/
  sent_eq : ∀ before x after, heard = before ++ x :: after → x.sent = cursor initial before
  /-- The queries that came in: the initial one, one for each answer, and the one that is out. -/
  asked_eq : ∃ out, r.Pending out ∧
    r.asked.map Prod.snd = noIndex :: heard.map Exchange.sent ++ out
  /-- No snapshot is published after an equal one, and no failure after a failure. -/
  told_chain : (initial.snapshot :: told).IsChain fun s t =>
    s ≠ t ∧ ¬ (s.isFailure = true ∧ t.isFailure = true)
  /-- What is known is what was published last. -/
  state_eq : (initial.snapshot :: told).getLast? = some r.state

/-- What it means for the loop to take the answer `x` in the step `s`. -/
structure Heeds (r : WatchRun) (s : WatchStep) (x : Exchange) : Prop where
  /-- The index that was sent is the one the loop had. -/
  sent : x.sent = r.watcher.last
  /-- A breakdown of the query is a failure to reach the backend. -/
  breakdown : ∀ due message, r.inquiry = some (.replied due (.panic message)) →
    ∃ text, x.answer = .failed (.transport text)
  /-- Addresses are accepted, and asked about again at once, if their index is above the one that
  was sent; after any other answer the loop sleeps. -/
  accepted_iff : (r.step s).watcher.phase = .asking ↔
    ∃ instances index, x.answer = .found instances index ∧ x.sent < index
  /-- Accepted addresses become what is known, in order and without repetitions. -/
  accepted : ∀ instances index, x.answer = .found instances index → x.sent < index →
    (r.step s).state = .instances (ascending instances) ∧ (r.step s).watcher.last = index ∧
      r.publishes? s = if r.state = .instances (ascending instances) then none
        else some (.instances (ascending instances))
  /-- Other addresses change nothing of what is known, and nobody hears of them. -/
  ignored : ∀ instances index, x.answer = .found instances index → ¬ x.sent < index →
    r.publishes? s = none ∧ (r.step s).watcher.feed = r.watcher.feed ∧
      (r.step s).mailboxes = r.mailboxes
  /-- A failure is published unless one is known. -/
  failure : ∀ why, x.answer = .failed why →
    (r.publishes? s = some (.failure why) ↔ r.state.isFailure = false) ∧
      (r.publishes? s = none ↔ r.state.isFailure = true) ∧ (r.step s).watcher.last = noIndex
  /-- A snapshot that is published becomes what is known, and goes to every subscriber who can be
  reached. -/
  published : ∀ t, r.publishes? s = some t → (r.step s).state = t ∧
    (r.step s).mailboxes = r.mailboxes.postAll (r.audience.map fun p => ⟨p.1, p.2, t⟩)
  /-- Without a publication nobody hears anything. -/
  silent : r.publishes? s = none →
    (r.step s).watcher.feed = r.watcher.feed ∧ (r.step s).mailboxes = r.mailboxes

/-! ## One step -/

/-- The query that is out moves on, and is done with when its answer is taken. -/
theorem pending_move {r r' : WatchRun} {x? : Option Exchange} (h : r.Moves x? r')
    {out sents : List Nat} (hp : r.Pending out) (hasked : r.asked.map Prod.snd = sents ++ out) :
    ∃ out', r'.Pending out' ∧
      r'.asked.map Prod.snd = (sents ++ x?.toList.map Exchange.sent) ++ out' := by
  rw [← List.append_nil sents] at hasked
  cases h with
  | idle | wait ms | change ch | stop => exact ⟨out, ⟨hp.1, hp.2, hp.3, hp.4, hp.5, hp.6⟩, hasked⟩
  | send asking =>
    obtain rfl := hp.asking asking
    refine ⟨[], ⟨fun _ _ => rfl, .inl rfl, fun _ => rfl, fun _ _ => rfl, fun _ => rfl, ?_⟩, hasked⟩
    exact fun i hi hne => absurd (Option.some.inj hi).symm hne
  | arrive waiting sent =>
    obtain rfl := hp.sent sent
    refine ⟨[r.watcher.last], ⟨fun _ _ => waiting, .inr rfl, ?_, ?_, ?_, fun _ _ _ => rfl⟩,
      by simp [hasked]⟩
    · exact fun h => nomatch waiting.symm.trans h
    · exact fun _ h => nomatch waiting.symm.trans h
    · exact fun h => absurd (Option.some.inj h) (Backend.enter_ne_sent _ _ _ _)
  | notice waiting parked written =>
    have hout := hp.entered _ parked Inquiry.noConfusion
    refine ⟨out, ⟨fun _ _ => waiting, hp.2, hp.3, hp.4, fun h => ?_, fun _ _ _ => hout⟩, hasked⟩
    cases hlook : r.backend.look r.query r.watcher.last <;> simp [hlook] at h
  | expire waiting parked due =>
    have hout := hp.entered _ parked Inquiry.noConfusion
    refine ⟨out, ⟨fun _ _ => waiting, hp.2, hp.3, hp.4, ?_, fun _ _ _ => hout⟩, hasked⟩
    exact fun h => nomatch h
  | receive j waiting replied =>
    -- the one index that was out is that of the answer
    have hout := hp.entered _ replied Inquiry.noConfusion
    refine ⟨[], ⟨?_, .inl rfl, fun _ => rfl, fun _ _ => rfl, fun _ => rfl, ?_⟩, ?_⟩
    · exact fun _ h => nomatch h
    · exact fun _ h => nomatch h
    · rw [hasked, hout]
      simp
  | wake pausing =>
    obtain rfl := hp.pausing _ pausing
    refine ⟨[], ⟨fun i hi => ?_, .inl rfl, fun _ => rfl, fun _ _ => rfl, fun _ => rfl, ?_⟩, hasked⟩
    · exact nomatch pausing.symm.trans (hp.waiting i hi)
    · exact fun i hi => nomatch pausing.symm.trans (hp.waiting i hi)
  | quit stopped =>
    refine ⟨out, ⟨?_, hp.shape, ?_, ?_, ?_, ?_⟩, hasked⟩
    · exact fun _ h => nomatch h
    · exact fun h => nomatch h
    · exact fun _ h => nomatch h
    · exact fun h => nomatch h
    · exact fun _ h => nomatch h

section Step

variable {initial : Answer} {heard : List Exchange} {told : List Snapshot} {r r' : WatchRun}

theorem Protocol.congr (h : Protocol initial heard told r) (hstate : r'.state = r.state)
    (hlast : r'.watcher.last = r.watcher.last)
    (hasked : ∃ out, r'.Pending out ∧
      r'.asked.map Prod.snd = noIndex :: heard.map Exchange.sent ++ out) :
    Protocol initial heard told r' where
  failing hf := by rw [hlast, h.failing (hstate ▸ hf)]
  last_eq := hlast.trans h.last_eq
  sent_eq := h.sent_eq
  asked_eq := hasked
  told_chain := h.told_chain
  state_eq := hstate ▸ h.state_eq

theorem Protocol.take {x : Exchange} (h : Protocol initial heard told r)
    (hmove : r.Moves (some x) r') :
    Protocol initial (heard ++ [x]) (told ++ (r.watcher.publication x.answer).toList) r' := by
  obtain ⟨out, hpending, hasked⟩ := h.asked_eq
  have hasked' := pending_move hmove hpending hasked
  obtain ⟨due, reply, j, -, -, hx, rfl⟩ := hmove.of_some
  have hsent : x.sent = r.watcher.last := by rw [hx]
  have hlast := Watcher.receive_last r.watcher r.now j r.mailboxes.reaches x.answer
  have hstate := Watcher.receive_state_eq r.now j r.mailboxes.reaches r.watcher x.answer
  refine ⟨fun hf => ?_, ?_, fun before y after heq => ?_, ?_, ?_, ?_⟩
  · -- only a setback, or an answer that changes nothing, leaves a failure behind
    have hf : (r.watcher.receive r.now j r.mailboxes.reaches x.answer).1.feed.state.isFailure
        = true := hf
    show (r.watcher.receive r.now j r.mailboxes.reaches x.answer).1.last = noIndex
    rw [hlast]
    by_cases haccepted : x.answer.isAccepted r.watcher.last = true
    · rw [Watcher.receive_state_of_isAccepted r.now j r.mailboxes.reaches haccepted,
        Answer.isFailure_snapshot_of_isAccepted haccepted] at hf
      exact nomatch hf
    · rw [if_neg haccepted]
      by_cases hsetback : x.answer.isSetback r.watcher.last = true
      · exact if_pos hsetback
      · rw [if_neg hsetback]
        cases hanswer : x.answer with
        | failed why => rw [hanswer] at hsetback; exact absurd rfl hsetback
        | found instances index =>
          rw [hanswer] at haccepted hf
          rw [Watcher.receive_feed_of_found r.now j r.mailboxes.reaches
            (Bool.eq_false_iff.mpr haccepted)] at hf
          exact h.failing hf
  · show (r.watcher.receive r.now j r.mailboxes.reaches x.answer).1.last = _
    rw [hlast, cursor_snoc, ← h.last_eq, ← hsent]
    rfl
  · -- the exchange in question is the new one, or one of those before
    rcases List.eq_nil_or_concat after with rfl | ⟨after', z, rfl⟩
    · obtain ⟨rfl, hxy⟩ := List.append_inj' heq rfl
      rw [← (List.cons.inj hxy).1, hsent, h.last_eq]
    · rw [List.concat_eq_append, ← List.cons_append, ← List.append_assoc] at heq
      exact h.sent_eq before y after' (List.append_inj' heq rfl).1
  · obtain ⟨out', hpending', hasked'⟩ := hasked'
    refine ⟨out', hpending', ?_⟩
    rw [hasked']
    simp
  · -- what is published now comes after what is known, and is news
    rw [← List.cons_append, List.isChain_append]
    refine ⟨h.told_chain, ?_, ?_⟩
    · cases r.watcher.publication x.answer with
      | none => exact .nil
      | some s => exact .singleton s
    · intro s hs t ht
      rw [h.state_eq] at hs
      obtain rfl := Option.some.inj hs
      have hpub : r.watcher.publication x.answer = some t := by
        cases hpub : r.watcher.publication x.answer with
        | none => rw [hpub] at ht; exact nomatch ht
        | some t' => rw [hpub] at ht; exact ht
      refine ⟨Watcher.ne_of_publication_eq_some hpub, fun ⟨hr, ht⟩ => ?_⟩
      have hnone : r.state.isFailure = false := Watcher.isFailure_state_of_publication hpub ht
      rw [hnone] at hr
      exact nomatch hr
  · show _ = some (r.watcher.receive r.now j r.mailboxes.reaches x.answer).1.feed.state
    rw [hstate, ← List.cons_append, List.getLast?_append, h.state_eq]
    cases r.watcher.publication x.answer <;> rfl

theorem Protocol.step (h : Protocol initial heard told r) (s : WatchStep) :
    Protocol initial (heard ++ (r.hears? s).toList) (told ++ (r.publishes? s).toList)
      (r.step s) := by
  cases s with
  | subscriber s =>
    obtain ⟨out, hp, hasked⟩ := h.asked_eq
    have hstay : Protocol initial heard told (r.step (.subscriber s)) :=
      h.congr (Feed.take_state ..) rfl ⟨out, ⟨hp.1, hp.2, hp.3, hp.4, hp.5, hp.6⟩, hasked⟩
    simpa [hears?, publishes?] using hstay
  | loop s =>
    have hmove := moves_stepLoop r s
    show Protocol _ _ (told ++ ((r.hears? (.loop s)).bind _).toList) (r.stepLoop s)
    cases hhears : r.hears? (.loop s) with
    | some x =>
      rw [hhears] at hmove
      exact h.take hmove
    | none =>
      rw [hhears] at hmove
      obtain ⟨hfeed, hlast, -⟩ := hmove.of_none
      obtain ⟨out, hpending, hasked⟩ := h.asked_eq
      obtain ⟨out', hpending', hasked'⟩ := pending_move hmove hpending hasked
      rw [Option.toList_none, Option.bind_none, Option.toList_none, List.append_nil,
        List.append_nil]
      exact h.congr (congrArg Feed.state hfeed) hlast ⟨out', hpending', by simpa using hasked'⟩

/-- **Every run keeps the protocol.** -/
theorem Protocol.after (h : Protocol initial heard told r) (steps : List WatchStep) :
    Protocol initial (heard ++ r.heard steps) (told ++ r.published steps) (r.after steps) := by
  induction steps generalizing heard told r with
  | nil => simpa [WatchRun.heard, WatchRun.published, collect, WatchRun.after] using h
  | cons s rest ih =>
    have hrest := ih (h.step s)
    rw [List.append_assoc, List.append_assoc] at hrest
    exact hrest

end Step

theorem protocol_start (backend : Backend) (query : ServiceQuery) (pace : Backoff)
    (mailboxes : Mailboxes) (sentAt now : Nat) (initial : Answer) :
    Protocol initial [] [] (start backend query pace mailboxes sentAt now initial) where
  failing hf := by
    cases initial with
    | failed why => rfl
    | found instances index =>
      rw [show (start backend query pace mailboxes sentAt now (.found instances index)).state
        = _ from Watcher.begin_state ..] at hf
      exact nomatch hf
  last_eq := rfl
  sent_eq before x after heq := by simp at heq
  asked_eq := by
    refine ⟨[], ⟨?_, .inl rfl, fun _ => rfl, fun _ _ => rfl, fun _ => rfl, ?_⟩, rfl⟩
    · exact fun _ h => nomatch h
    · exact fun _ h => nomatch h
  told_chain := .singleton _
  state_eq := congrArg some (Watcher.begin_state ..).symm

/-! ## One answer -/

section Hears

variable {r : WatchRun} {s : WatchStep} {x : Exchange}

theorem moves_of_hears (h : r.hears? s = some x) : r.Moves (some x) (r.step s) := by
  cases s with
  | subscriber s => exact nomatch h
  | loop s =>
    have hmove := moves_stepLoop r s
    rw [h] at hmove
    exact hmove

theorem publishes?_of_hears (h : r.hears? s = some x) :
    r.publishes? s = r.watcher.publication x.answer := by
  simp only [publishes?, h, Option.bind_some]

/-- Without a publication nobody hears anything of the answer. -/
theorem silent_of_hears (h : r.hears? s = some x) (hnone : r.publishes? s = none) :
    (r.step s).watcher.feed = r.watcher.feed ∧ (r.step s).mailboxes = r.mailboxes := by
  rw [publishes?_of_hears h] at hnone
  rcases (moves_of_hears h).feed_cases with ⟨-, hstay⟩ | ⟨t, hpub, -⟩
  · exact hstay
  · exact nomatch hnone.symm.trans hpub

/-- A publication becomes what is known, and goes to all who can be reached. -/
theorem state_of_publishes (h : r.hears? s = some x) {t : Snapshot}
    (hpub : r.publishes? s = some t) :
    (r.step s).state = t ∧
      (r.step s).mailboxes = r.mailboxes.postAll (r.audience.map fun p => ⟨p.1, p.2, t⟩) := by
  rw [publishes?_of_hears h] at hpub
  rcases (moves_of_hears h).feed_cases with ⟨hnone, -⟩ | ⟨t', hpub', hfeed, hmail⟩
  · exact nomatch hpub.symm.trans hnone
  · obtain rfl := Option.some.inj (hpub.symm.trans hpub')
    exact ⟨congrArg Feed.state hfeed, hmail⟩

/-- An answer that the loop takes is one it heeds. -/
theorem heeds_of_hears (h : r.hears? s = some x) : r.Heeds s x := by
  have hpub := publishes?_of_hears h
  obtain ⟨due, reply, j, -, hreplied, hx, hstep⟩ := (moves_of_hears h).of_some
  have hwatcher := congrArg watcher hstep
  have hsent : x.sent = r.watcher.last := by rw [hx]
  have hlast := Watcher.receive_last r.watcher r.now j r.mailboxes.reaches x.answer
  -- an answer that brings addresses, seen from the index that was sent
  have hfound : ∀ {instances index}, x.answer = .found instances index →
      (x.answer.isAccepted r.watcher.last = true ↔ x.sent < index) := by
    intro instances index heq
    rw [heq, ← hsent]
    exact decide_eq_true_iff
  refine ⟨hsent, ?_, ?_, ?_, ?_, ?_, fun t => state_of_publishes h, silent_of_hears h⟩
  · intro due' message hpanic
    obtain ⟨-, rfl⟩ := Inquiry.replied.inj (Option.some.inj (hreplied.symm.trans hpanic))
    exact ⟨_, congrArg Exchange.answer hx⟩
  · rw [hwatcher, Watcher.receive_phase]
    constructor
    · intro hasking
      by_cases haccepted : x.answer.isAccepted r.watcher.last = true
      · cases hanswer : x.answer with
        | failed why => rw [hanswer] at haccepted; exact nomatch haccepted
        | found instances index =>
          exact ⟨instances, index, rfl, (hfound hanswer).mp haccepted⟩
      · rw [if_neg haccepted] at hasking
        exact nomatch hasking
    · rintro ⟨instances, index, hanswer, hlt⟩
      exact if_pos ((hfound hanswer).mpr hlt)
  · intro instances index hanswer hlt
    have haccepted := (hfound hanswer).mpr hlt
    have hsnapshot : x.answer.snapshot = .instances (ascending instances) := by rw [hanswer]; rfl
    refine ⟨?_, ?_, ?_⟩
    · show (r.step s).watcher.feed.state = _
      rw [hwatcher, Watcher.receive_state_of_isAccepted _ _ _ haccepted, hsnapshot]
    · rw [hwatcher, hlast, if_pos haccepted, hanswer]
      rfl
    · rw [hpub, Watcher.publication_of_isAccepted haccepted, hsnapshot]
      rfl
  · intro instances index hanswer hnot
    have haccepted := Bool.eq_false_iff.mpr (mt (hfound hanswer).mp hnot)
    have hnone : r.publishes? s = none := by
      rw [hpub, hanswer]
      exact Watcher.publication_of_found (hanswer ▸ haccepted)
    exact ⟨hnone, silent_of_hears h hnone⟩
  · intro why hanswer
    have hpublication := Watcher.publication_failed r.watcher why
    have hstate : r.watcher.feed.state.isFailure = r.state.isFailure := rfl
    rw [hpub, hwatcher, hlast, hanswer, hpublication, hstate]
    refine ⟨?_, ?_, rfl⟩ <;> cases r.state.isFailure <;> simp

end Hears

/-- A loop that keeps the protocol can take every answer that is ready. -/
theorem Protocol.hears_ready {initial : Answer} {heard : List Exchange} {told : List Snapshot}
    {r : WatchRun} (h : Protocol initial heard told r) {i : Inquiry} {reply : Reply}
    (hi : r.inquiry = some i) (hready : i.ready? r.now = some reply) (j : Jitter) :
    r.hears? (.loop (.turn j .receive)) = some ⟨r.watcher.last, reply.toAnswer⟩ := by
  obtain ⟨out, hpending, -⟩ := h.asked_eq
  have hmem : Turn.receive ∈ r.turns :=
    mem_turns_receive.mpr ⟨hpending.waiting i hi, i, reply, hi, hready⟩
  have hbind : r.inquiry.bind (·.ready? r.now) = some reply := by rw [hi]; exact hready
  simp only [hears?, if_pos hmem, hbind, Option.map_some]

/-- **The watch loop keeps to its protocol.** At every moment of every run — whatever the initial
answer, the backend, the answers it gives and their order, and whatever subscribers and clock do —
the loop has sent, knows and has published what the answers heard so far call for. An answer that
is ready can be taken, and an answer that is taken is heeded. -/
theorem protocol_after (backend : Backend) (query : ServiceQuery) (pace : Backoff)
    (mailboxes : Mailboxes) (sentAt now : Nat) (initial : Answer) (steps : List WatchStep) :
    let r₀ := start backend query pace mailboxes sentAt now initial
    Protocol initial (r₀.heard steps) (r₀.published steps) (r₀.after steps) ∧
      (∀ j i reply, (r₀.after steps).inquiry = some i →
        i.ready? (r₀.after steps).now = some reply →
          (r₀.after steps).hears? (.loop (.turn j .receive))
            = some ⟨(r₀.after steps).watcher.last, reply.toAnswer⟩) ∧
      ∀ s x, (r₀.after steps).hears? s = some x → (r₀.after steps).Heeds s x := by
  have hprotocol :=
    (protocol_start backend query pace mailboxes sentAt now initial).after steps
  exact ⟨hprotocol, fun j _ _ hi hready => hprotocol.hears_ready hi hready j,
    fun _ _ h => heeds_of_hears h⟩

/-- After a failure a list is published again, although its index is still the same. -/
example :
    ((start (.script [⟨0, .panic "no memory"⟩, ⟨0, .answer (.found ["b", "a"] 3)⟩])
      ⟨"web", [], true⟩ .standard {} 0 0 (.found ["a", "b"] 3)).published
      ([.turn .one .send, .turn .one (.query .arrive), .turn .one .receive, .wait 10,
        .turn .one .wake, .turn .one .send, .turn .one (.query .arrive),
        .turn .one .receive].map .loop)).map Snapshot.addresses?
      = [none, some ["a", "b"]] := by
  decide

end WatchRun

end Switchboard
