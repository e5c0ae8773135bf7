import Switchboard.Proofs.Catalog.Course
import Switchboard.Proofs.Watcher.Course
/-!
# A watcher keeps track of the catalog

A watcher on the catalog, with anyone changing the catalog between any two steps of the loop: what
the watcher knows is the catalog as it was at the index that the loop sends, and it cannot miss
that the catalog has moved on.

* `Sees` — what a query that is out has seen of the catalogs so far.
* `Tracks` — the invariant that ties the loop's index, its query and what it knows to the
  catalogs of the past; `Tracks.move` takes it through one move.
* `UpToDate` — what follows for anyone who looks at the watcher from outside, after every run.

The catalogs of the past stay in the invariant because a query sees the catalog at one moment and
its answer is taken at another, when the catalog may have changed any number of times.
-/

namespace Switchboard

/-- A query that comes in at the catalog has its answer, or waits. -/
theorem Backend.enter_catalog (c : Catalog) (patience : Option Nat) (q : ServiceQuery)
    (now last : Nat) :
    (Backend.catalog c patience).enter q now last
      = (.catalog (c.enter q last).1 patience,
        match (c.enter q last).2 with
        | some a => .replied (some now) (.answer a)
        | none => .parked (c.enter q last).1.revision (patience.map (now + ·))) := rfl

/-- What the query `i` that is out, sent with the index `last`, has seen of the catalogs so far. -/
inductive Sees (past : List Catalog) (q : ServiceQuery) (last : Nat) : Inquiry → Prop
  | sent : Sees past q last .sent
  | parked {d : Catalog} {giveUpAt : Option Nat} (mem : d ∈ past) (last_ne : last ≠ noIndex)
    (failure_eq : d.failure = none) (index_le : d.index ≤ last) :
    Sees past q last (.parked d.revision giveUpAt)
  | found {d : Catalog} {due : Option Nat} (mem : d ∈ past) (le_index : last ≤ d.index) :
    Sees past q last (.replied due (.answer (d.current q)))
  | failed {due : Option Nat} {why : DiscoveryFailure} :
    Sees past q last (.replied due (.answer (.failed why)))

theorem Sees.mono {past past' : List Catalog} {q : ServiceQuery} {last : Nat} {i : Inquiry}
    (h : Sees past q last i) (hsub : past ⊆ past') : Sees past' q last i := by
  cases h with
  | sent => exact .sent
  | parked mem last_ne failure_eq index_le => exact .parked (hsub mem) last_ne failure_eq index_le
  | found mem le_index => exact .found (hsub mem) le_index
  | failed => exact .failed

namespace WatchRun

/-! ## The invariant -/

/-- The watcher `r` tracks the catalog, which is `c` now and was `past` up to and including now. -/
structure Tracks (past : List Catalog) (c : Catalog) (r : WatchRun) : Prop where
  backend_eq : ∃ patience, r.backend = .catalog c patience
  ordered : past.Pairwise Catalog.Later
  getLast_eq : past.getLast? = some c
  zero_iff : r.watcher.last = noIndex ↔ r.state.isFailure = true
  known : r.watcher.last ≠ noIndex → ∃ d ∈ past, d.index = r.watcher.last ∧
    r.state = .ofAddresses (d.matching r.query)
  /-- The loop waits for the query that is out, and that has seen the past. -/
  out : ∀ i, r.inquiry = some i →
    r.watcher.phase = .waiting ∧ Sees past r.query r.watcher.last i

section Invariant

variable {past : List Catalog} {c : Catalog} {r r' : WatchRun}

theorem Tracks.mem (h : Tracks past c r) : c ∈ past := List.mem_of_getLast? h.getLast_eq

theorem Tracks.later (h : Tracks past c r) {d : Catalog} (hd : d ∈ past) : d.Later c := by
  obtain ⟨before, rfl⟩ := List.getLast?_eq_some_iff.mp h.getLast_eq
  rcases List.mem_append.mp hd with hd | hd
  · exact (List.pairwise_append.mp h.ordered).2.2 d hd c List.mem_cons_self
  · rw [List.mem_singleton.mp hd]
    exact .refl c

/-- Two catalogs of the past with the same index have the same instances. -/
theorem Tracks.table_eq (h : Tracks past c r) {d e : Catalog} (hd : d ∈ past) (he : e ∈ past)
    (heq : d.index = e.index) : d.table = e.table := by
  let R (d e : Catalog) : Prop := d.index = e.index → d.table = e.table
  have hforth : past.Pairwise R := h.ordered.imp fun hlater => hlater.table_eq
  have hback : past.Pairwise (flip R) :=
    h.ordered.imp fun hlater heq => (hlater.table_eq heq.symm).symm
  exact List.Pairwise.forall_of_forall_of_flip (fun _ _ _ => rfl) hforth hback hd he heq

theorem Tracks.last_le (h : Tracks past c r) : r.watcher.last ≤ c.index := by
  by_cases hzero : r.watcher.last = noIndex
  · rw [hzero]
    exact Nat.zero_le _
  · obtain ⟨d, hd, hindex, -⟩ := h.known hzero
    rw [← hindex]
    exact (h.later hd).index_le

theorem Tracks.next (h : Tracks past c r) {c' : Catalog} {patience : Option Nat}
    (hbackend : r'.backend = .catalog c' patience) (hlater : c.Later c')
    (hzero : r'.watcher.last = noIndex ↔ r'.state.isFailure = true)
    (hknown : r'.watcher.last ≠ noIndex → ∃ d ∈ past ++ [c'], d.index = r'.watcher.last ∧
      r'.state = .ofAddresses (d.matching r'.query))
    (hout : ∀ i, r'.inquiry = some i →
      r'.watcher.phase = .waiting ∧ Sees (past ++ [c']) r'.query r'.watcher.last i) :
    Tracks (past ++ [c']) c' r' where
  backend_eq := ⟨patience, hbackend⟩
  ordered := by
    refine List.pairwise_append.mpr ⟨h.ordered, List.pairwise_singleton .., fun d hd e he => ?_⟩
    rw [List.mem_singleton.mp he]
    exact (h.later hd).trans hlater
  getLast_eq := List.getLast?_concat
  zero_iff := hzero
  known := hknown
  out := hout

/-- Where the loop knows what it knew, only the query that is out needs a look. -/
theorem Tracks.grow (h : Tracks past c r) {c' : Catalog} {patience : Option Nat}
    (hbackend : r'.backend = .catalog c' patience) (hlater : c.Later c')
    (hstate : r'.state = r.state) (hlast : r'.watcher.last = r.watcher.last)
    (hquery : r'.query = r.query)
    (hout : ∀ i, r'.inquiry = some i →
      r'.watcher.phase = .waiting ∧ Sees (past ++ [c']) r.query r.watcher.last i) :
    Tracks (past ++ [c']) c' r' := by
  refine h.next hbackend hlater ?_ ?_ ?_
  · rw [hlast, hstate]
    exact h.zero_iff
  · rw [hlast, hstate, hquery]
    intro hne
    obtain ⟨d, hd, hd'⟩ := h.known hne
    exact ⟨d, List.mem_append_left _ hd, hd'⟩
  · rw [hquery, hlast]
    exact hout

theorem Tracks.sees_append (h : Tracks past c r) {i : Inquiry} (hi : r.inquiry = some i)
    (later : List Catalog) : Sees (past ++ later) r.query r.watcher.last i :=
  (h.out i hi).2.mono (List.subset_append_left _ _)

/-- What a look at the present catalog leaves the query with. -/
theorem Tracks.sees_look (h : Tracks past c r) {giveUpAt : Option Nat} {i : Inquiry}
    (hi : i = match c.look r.query r.watcher.last with
      | some a => .replied (some r.now) (.answer a)
      | none => .parked c.revision giveUpAt) : Sees past r.query r.watcher.last i := by
  cases hlook : c.look r.query r.watcher.last with
  | none =>
    obtain ⟨hfailure, hne, hle⟩ := Catalog.look_eq_none_iff.mp hlook
    rw [hi, hlook]
    exact .parked h.mem hne hfailure hle
  | some a =>
    rw [hi, hlook]
    obtain ⟨why, -, rfl⟩ | ⟨-, rfl⟩ := Catalog.look_eq_some hlook
    · exact .failed
    · exact .found h.mem h.last_le

/-- What the catalog does with a query that comes in, and what the query has seen then. -/
theorem Tracks.sees_enter (h : Tracks past c r) (giveUpAt : Option Nat) :
    Sees (past ++ [(c.enter r.query r.watcher.last).1]) r.query r.watcher.last
      (match (c.enter r.query r.watcher.last).2 with
        | some a => .replied (some r.now) (.answer a)
        | none => .parked (c.enter r.query r.watcher.last).1.revision giveUpAt) := by
  have hmem : (c.enter r.query r.watcher.last).1 ∈ past ++ [(c.enter r.query r.watcher.last).1] :=
    List.mem_append_right _ List.mem_cons_self
  cases hanswer : (c.enter r.query r.watcher.last).2 with
  | none =>
    obtain ⟨hfailure, hne, hle⟩ :=
      Catalog.look_eq_none_iff.mp (Catalog.look_of_enter_eq_none hanswer)
    exact .parked hmem hne hfailure hle
  | some a =>
    obtain ⟨why, rfl⟩ | rfl := Catalog.enter_eq_some hanswer
    · exact .failed
    · exact .found hmem (Nat.le_trans h.last_le (c.later_enter ..).index_le)

/-- Taking the answer of a query that has seen the past. -/
theorem Tracks.take (h : Tracks past c r) {x : Exchange} (hmove : r.Moves (some x) r') :
    Tracks (past ++ [c]) c r' := by
  have hquery := hmove.query_eq
  obtain ⟨due, reply, j, -, hreplied, rfl, rfl⟩ := hmove.of_some
  obtain ⟨patience, hbackend⟩ := h.backend_eq
  have hlast := Watcher.receive_last r.watcher r.now j r.mailboxes.reaches reply.toAnswer
  obtain ⟨-, hsees⟩ := h.out _ hreplied
  generalize hi : Inquiry.replied due reply = i at hsees
  cases hsees with
  | sent => exact nomatch hi
  | parked mem last_ne failure_eq index_le => exact nomatch hi
  | @failed _ why =>
    obtain ⟨-, rfl⟩ := Inquiry.replied.inj hi
    have hfailure := Watcher.receive_state_failed r.now j r.mailboxes.reaches r.watcher why
    refine h.next hbackend (.refl c) ⟨fun _ => ?_, fun _ => hlast⟩ (fun hne => absurd hlast hne)
      (fun _ hi => nomatch hi)
    refine (congrArg Snapshot.isFailure hfailure).trans ?_
    cases hf : r.watcher.feed.state.isFailure with
    | true => exact hf
    | false => rfl
  | @found d _ mem le_index =>
    obtain ⟨-, rfl⟩ := Inquiry.replied.inj hi
    by_cases hlt : r.watcher.last < d.index
    · -- the catalog had moved on, and what it had is accepted
      have haccepted : (d.current r.query).isAccepted r.watcher.last = true := decide_eq_true hlt
      have hstate := Watcher.receive_state_of_isAccepted r.now j r.mailboxes.reaches haccepted
      have hindex : (r.watcher.receive r.now j r.mailboxes.reaches (d.current r.query)).1.last
          = d.index := hlast.trans (if_pos haccepted)
      refine h.next hbackend (.refl c) ?_ (fun _ => ?_) (fun _ hi => nomatch hi)
      · constructor
        · exact fun hzero => absurd (hindex.symm.trans hzero) d.index_ne_noIndex
        · exact fun hf => nomatch (congrArg Snapshot.isFailure hstate).symm.trans hf
      · refine ⟨d, List.mem_append_left _ mem, hindex.symm, ?_⟩
        rw [hquery]
        exact hstate
    · -- the catalog had not moved, and neither does the loop
      have heq : d.index = r.watcher.last := by omega
      have haccepted : (d.current r.query).isAccepted r.watcher.last = false :=
        decide_eq_false hlt
      have hsetback : (d.current r.query).isSetback r.watcher.last = false := by
        show (decide (d.index ≠ noIndex) && decide (d.index < r.watcher.last)) = false
        rw [heq, decide_eq_false (Nat.lt_irrefl _), Bool.and_false]
      refine h.grow hbackend (.refl c) ?_ ?_ hquery (fun _ hi => nomatch hi)
      · exact congrArg Feed.state
          (Watcher.receive_feed_of_found r.now j r.mailboxes.reaches haccepted)
      · refine hlast.trans ?_
        show (if (d.current r.query).isAccepted r.watcher.last then _
          else if (d.current r.query).isSetback r.watcher.last then _ else _) = _
        rw [haccepted, hsetback]
        rfl

theorem Tracks.move (h : Tracks past c r) {x? : Option Exchange} (hmove : r.Moves x? r') :
    ∃ c', Tracks (past ++ [c']) c' r' := by
  obtain ⟨patience, hbackend⟩ := h.backend_eq
  have hsees : ∀ c' i, r.inquiry = some i →
      r.watcher.phase = .waiting ∧ Sees (past ++ [c']) r.query r.watcher.last i :=
    fun c' i hi => ⟨(h.out i hi).1, h.sees_append hi [c']⟩
  cases hmove with
  | idle => exact ⟨c, h.grow hbackend (.refl c) rfl rfl rfl (hsees c)⟩
  | wait ms => exact ⟨c, h.grow hbackend (.refl c) rfl rfl rfl (hsees c)⟩
  | stop => exact ⟨c, h.grow hbackend (.refl c) rfl rfl rfl (hsees c)⟩
  | change ch =>
    have hchange : r.backend.change ch = .catalog (c.apply ch) patience := by rw [hbackend]; rfl
    exact ⟨c.apply ch, h.grow hchange (c.later_apply ch) rfl rfl rfl (hsees _)⟩
  | send asking =>
    refine ⟨c, h.grow hbackend (.refl c) rfl rfl rfl fun i hi => ⟨rfl, ?_⟩⟩
    rw [← Option.some.inj hi]
    exact .sent
  | arrive waiting sent =>
    have henter := Backend.enter_catalog c patience r.query r.now r.watcher.last
    rw [← hbackend] at henter
    refine ⟨_, h.grow (congrArg Prod.fst henter) (c.later_enter ..) rfl rfl rfl fun i hi => ?_⟩
    refine ⟨waiting, ?_⟩
    rw [← (congrArg (some ∘ Prod.snd) henter).symm.trans hi |> Option.some.inj]
    exact h.sees_enter _
  | notice waiting parked written =>
    refine ⟨c, h.grow hbackend (.refl c) rfl rfl rfl fun i hi => ⟨waiting, ?_⟩⟩
    rw [hbackend] at hi
    exact (h.sees_look (Option.some.inj hi).symm).mono (List.subset_append_left _ _)
  | expire waiting parked due =>
    refine ⟨c, h.grow hbackend (.refl c) rfl rfl rfl fun i hi => ⟨waiting, ?_⟩⟩
    rw [← Option.some.inj hi, hbackend]
    exact .found (List.mem_append_left _ h.mem) h.last_le
  | receive j waiting replied => exact ⟨c, h.take (.receive j waiting replied)⟩
  | wake pausing =>
    refine ⟨c, h.grow hbackend (.refl c) rfl rfl rfl fun i hi => ?_⟩
    exact nomatch pausing.symm.trans (h.out i hi).1
  | quit stopped => exact ⟨c, h.grow hbackend (.refl c) rfl rfl rfl fun _ hi => nomatch hi⟩

theorem Tracks.theCatalog_eq (h : Tracks past c r) : r.backend.theCatalog = c := by
  obtain ⟨patience, hbackend⟩ := h.backend_eq
  rw [hbackend]
  rfl

theorem Tracks.step (h : Tracks past c r) (s : WatchStep) :
    Tracks (past ++ [(r.step s).backend.theCatalog]) (r.step s).backend.theCatalog (r.step s) := by
  have hstep : ∃ c', Tracks (past ++ [c']) c' (r.step s) := by
    cases s with
    | loop s => exact h.move (moves_stepLoop r s)
    | subscriber s =>
      obtain ⟨patience, hbackend⟩ := h.backend_eq
      refine ⟨c, h.grow hbackend (.refl c) (Feed.take_state ..) rfl rfl fun i hi => ?_⟩
      exact ⟨(h.out i hi).1, h.sees_append hi [c]⟩
  obtain ⟨c', hc'⟩ := hstep
  rw [hc'.theCatalog_eq]
  exact hc'

/-- A query that waits is woken by a failure and by anything newer than what it named. -/
theorem Tracks.mem_turns_notice (h : Tracks past c r) {seen : Nat} {giveUpAt : Option Nat}
    (hi : r.inquiry = some (.parked seen giveUpAt))
    (hnews : c.failure ≠ none ∨ r.watcher.last < c.index) : Turn.query .notice ∈ r.turns := by
  obtain ⟨hphase, hsees⟩ := h.out _ hi
  obtain ⟨patience, hbackend⟩ := h.backend_eq
  refine WatchRun.mem_turns_notice.mpr ⟨hphase, seen, giveUpAt, hi, fun heq => ?_⟩
  cases hsees with
  | @parked d _ mem last_ne failure_eq index_le =>
    -- nothing was written since the query looked, so it would have seen the news
    rw [hbackend] at heq
    obtain ⟨hindex, hfailure⟩ := (h.later mem).unwritten heq
    rcases hnews with hfailing | hlt
    · exact hfailing (hfailure ▸ failure_eq)
    · omega

end Invariant

/-- The catalogs along a run, from the first to the present one. -/
def catalogs (r : WatchRun) (steps : List WatchStep) : List Catalog :=
  r.backend.theCatalog :: collect (fun r s => some (r.step s).backend.theCatalog) r steps

/-- Every run tracks its catalog. -/
theorem Tracks.after {past : List Catalog} {c : Catalog} {r : WatchRun} (h : Tracks past c r)
    (steps : List WatchStep) :
    Tracks (past ++ collect (fun r s => some (r.step s).backend.theCatalog) r steps)
      (r.after steps).backend.theCatalog (r.after steps) := by
  induction steps generalizing past c r with
  | nil =>
    show Tracks (past ++ []) r.backend.theCatalog r
    rw [List.append_nil, h.theCatalog_eq]
    exact h
  | cons s rest ih =>
    have hrest := ih (h.step s)
    rw [List.append_assoc] at hrest
    exact hrest

/-- A watcher can always be set up on the catalog, and tracks it from then on. -/
theorem exists_begin?_catalog (c : Catalog) (patience : Option Nat) (query : ServiceQuery)
    (pace : Backoff) (mailboxes : Mailboxes) (now : Nat) :
    ∃ a r, begin? (.catalog c patience) query pace mailboxes now = some r ∧
      r = start (.catalog (c.enter query noIndex).1 patience) query pace mailboxes now now a ∧
      Tracks [(c.enter query noIndex).1] (c.enter query noIndex).1 r := by
  cases hanswer : (c.enter query noIndex).2 with
  | none =>
    obtain ⟨-, hne, -⟩ := Catalog.look_eq_none_iff.mp (Catalog.look_of_enter_eq_none hanswer)
    exact absurd rfl hne
  | some a =>
    refine ⟨a, _, ?_, rfl, ?_⟩
    · have henter : (Backend.catalog c patience).enter query now noIndex
          = (.catalog (c.enter query noIndex).1 patience, .replied (some now) (.answer a)) := by
        rw [Backend.enter_catalog, hanswer]
      simp only [begin?, henter, Nat.max_self]
    · have hstate := Watcher.begin_state query pace a
      refine ⟨⟨patience, rfl⟩, List.pairwise_singleton .., rfl, ?_, ?_, fun _ hi => nomatch hi⟩
      · show a.index = noIndex ↔ (Watcher.begin query pace a).feed.state.isFailure = true
        rw [hstate]
        obtain ⟨why, rfl⟩ | rfl := Catalog.enter_eq_some hanswer
        · exact ⟨fun _ => rfl, fun _ => rfl⟩
        · exact ⟨fun h => absurd h (Catalog.index_ne_noIndex _), fun h => nomatch h⟩
      · intro hne
        have hne : a.index ≠ noIndex := hne
        obtain ⟨why, rfl⟩ | rfl := Catalog.enter_eq_some hanswer
        · exact absurd rfl hne
        · exact ⟨_, List.mem_cons_self, rfl, hstate⟩

/-! ## What can be seen from outside -/

/-- What a watcher on the catalog knows, when the catalog has been `past` so far. -/
structure UpToDate (past : List Catalog) (r : WatchRun) : Prop where
  /-- The loop asks for anything, of whatever index, exactly while a failure is known. -/
  zero_iff : r.watcher.last = noIndex ↔ r.state.isFailure = true
  /-- It names no index that the catalog has yet to reach. -/
  last_le : r.watcher.last ≤ r.backend.theCatalog.index
  /-- The index it names is one that the catalog has had, ... -/
  reached : r.watcher.last ≠ noIndex → ∃ d ∈ past, d.index = r.watcher.last
  /-- ... and what is known is what the catalog had then. -/
  state_eq : r.watcher.last ≠ noIndex → ∀ d ∈ past, d.index = r.watcher.last →
    r.state = .instances (ascending (d.matching r.query))
  /-- When all is at rest and the query waits, the catalog is not failing, and what is known is what
  it has now. -/
  parked : ∀ seen giveUpAt, r.inquiry = some (.parked seen giveUpAt) → r.turns = [] →
    r.backend.theCatalog.failure = none ∧
      r.state = .instances (ascending (r.backend.theCatalog.matching r.query))
  /-- A query that waits while the catalog is failing or past what the query named can look again,
  ... -/
  woken : ∀ seen giveUpAt, r.inquiry = some (.parked seen giveUpAt) →
    r.backend.theCatalog.failure ≠ none ∨ r.watcher.last < r.backend.theCatalog.index →
      Turn.query .notice ∈ r.turns
  /-- ... and is answered when it does. -/
  answered : ∀ seen giveUpAt, r.inquiry = some (.parked seen giveUpAt) →
    r.backend.theCatalog.failure ≠ none ∨ r.watcher.last < r.backend.theCatalog.index →
      ∀ j, (r.take j (.query .notice)).inquiry = some (.replied (some r.now) (.answer
        (match r.backend.theCatalog.failure with
          | some why => .failed why
          | none => r.backend.theCatalog.current r.query)))

theorem Tracks.upToDate {past : List Catalog} {c : Catalog} {r : WatchRun}
    (h : Tracks past c r) : UpToDate past r := by
  obtain ⟨patience, hbackend⟩ := h.backend_eq
  have hstate : r.watcher.last ≠ noIndex → ∀ d ∈ past, d.index = r.watcher.last →
      r.state = .instances (ascending (d.matching r.query)) := by
    intro hne d hd hindex
    obtain ⟨e, he, heq, hstate⟩ := h.known hne
    -- `e` need not be `d`, but it has the same instances
    rw [hstate, Catalog.matching, Catalog.matching, h.table_eq he hd (heq.trans hindex.symm)]
    rfl
  refine ⟨h.zero_iff, ?_, ?_, hstate, ?_, ?_, ?_⟩ <;> (try rw [h.theCatalog_eq])
  · exact h.last_le
  · intro hne
    obtain ⟨d, hd, hindex, -⟩ := h.known hne
    exact ⟨d, hd, hindex⟩
  · intro seen giveUpAt hi hrest
    -- a query that has news to look at can take a turn, and there is none to take
    have hquiet : ¬ (c.failure ≠ none ∨ r.watcher.last < c.index) := by
      intro hnews
      have hmem := h.mem_turns_notice hi hnews
      rw [hrest] at hmem
      exact nomatch hmem
    rw [not_or, Decidable.not_not] at hquiet
    obtain ⟨-, hsees⟩ := h.out _ hi
    cases hsees with
    | parked mem last_ne failure_eq index_le =>
      have hindex : c.index = r.watcher.last := by
        have hle := h.last_le
        omega
      exact ⟨hquiet.1, hstate last_ne c h.mem hindex⟩
  · exact fun seen giveUpAt hi hnews => h.mem_turns_notice hi hnews
  · intro seen giveUpAt hi hnews j
    have hlook : r.backend.look r.query r.watcher.last = some
        (match c.failure with
          | some why => .failed why
          | none => c.current r.query) := by
      rw [hbackend]
      show c.look r.query r.watcher.last = _
      unfold Catalog.look
      cases hfailure : c.failure with
      | some why => rfl
      | none =>
        rcases hnews with hfailing | hlt
        · exact absurd hfailure hfailing
        · exact if_pos (.inr hlt)
    simp only [WatchRun.take, hi, Backend.progress, hlook]

/-- **A watcher never loses an update of the catalog.** -/
theorem upToDate_after (c : Catalog) (patience : Option Nat) (query : ServiceQuery)
    (pace : Backoff) (mailboxes : Mailboxes) (now : Nat) :
    ∃ r₀, begin? (.catalog c patience) query pace mailboxes now = some r₀ ∧
      ∀ steps, UpToDate (r₀.catalogs steps) (r₀.after steps) := by
  obtain ⟨a, r₀, hbegin, -, htracks⟩ :=
    exists_begin?_catalog c patience query pace mailboxes now
  refine ⟨r₀, hbegin, fun steps => ?_⟩
  have hafter := (htracks.after steps).upToDate
  rw [← htracks.theCatalog_eq] at hafter
  exact hafter

end WatchRun

end Switchboard
