import Switchboard.Proofs.Catalog.Table
import Switchboard.Proofs.Program.Limits
import Switchboard.Proofs.Text.Parts
import Switchboard.Proofs.Watcher.Stopping
import Switchboard.Proofs.Watcher.Tracking
/-!
# Watching a list of addresses

A command line may list the addresses of a service. They go into a catalog in the process, to which
nobody writes any more. So a command that watches it hears of them once, as it subscribes, and then
waits until it is interrupted: the query that its watcher sends next stays at the catalog for ever.

* `mem_addressesOf` — the addresses of a list: its parts between commas, without blanks around them.
* `matching_catalogOf` — what the catalog tells of them: each once and in order, or none to whoever
  asks for tags.
* `WatchRun.Waits` — a run from which nothing is heard; `Waits.turn` — it stays one.
* `Beat`, `Watching.after` — whatever happens to a command; `Watching.settle_eq_after` and
  `advance_eq_after` — letting it settle and letting time go on are of this kind.
* `Watching.Steady` — the command has one line to log, or has logged it; `Watching.Over` — it was
  interrupted.
* `Reports` — what the command logs and how it ends.
* `Told` — the addresses that it is told of; `watch_memory` — the law, from the command line to the exit.
-/

namespace Switchboard

/-! ## A query that waits for ever -/

/-- A query that comes in with the index of the catalog waits, if nothing fails. -/
theorem Catalog.enter_index {c : Catalog} (hfailure : c.failure = none) (hqueued : c.queued = [])
    (q : ServiceQuery) : c.enter q c.index = ({ c with queries := c.queries + 1 }, none) := by
  have hnot : ¬ (c.index = noIndex ∨ c.index < c.index) := by
    rintro (hindex | hlt)
    · exact c.index_ne_noIndex hindex
    · exact Nat.lt_irrefl _ hlt
  simp only [enter, hqueued, look, hfailure]
  exact congrArg _ (if_neg hnot)

namespace WatchRun

variable {r : WatchRun}

/-- Nothing comes of the query that is out, or that is sent next: the catalog gives no answer to the
index that it sends. -/
structure Waits (r : WatchRun) : Prop where
  current : ∃ c, r.backend = .catalog c none ∧ c.failure = none ∧ c.queued = [] ∧
    c.index = r.watcher.last
  out : ∀ i, r.inquiry = some i → i = .sent ∨ i = .parked r.backend.revision none
  going : r.watcher.stopped = false

/-- The run has the feed and the mailboxes of another. -/
def SameNews (r r' : WatchRun) : Prop :=
  r'.watcher.feed = r.watcher.feed ∧ r'.mailboxes = r.mailboxes

/-- A turn brings no news: only a reply would, and there is none. -/
theorem Waits.take (h : r.Waits) (j : Jitter) {t : Turn} (ht : t ∈ r.turns) :
    (r.take j t).Waits ∧ r.SameNews (r.take j t) := by
  cases t with
  | send =>
    refine ⟨⟨h.current, fun i hi => ?_, h.going⟩, rfl, rfl⟩
    exact .inl (Option.some.inj hi).symm
  | wake => exact ⟨⟨h.current, h.out, h.going⟩, rfl, rfl⟩
  | quit => exact absurd (h.going.symm.trans (mem_turns_quit ht)) Bool.false_ne_true
  | receive =>
    obtain ⟨-, i, reply, hi, hready⟩ := mem_turns_receive.mp ht
    obtain rfl | rfl := h.out i hi <;> exact absurd hready.symm (Option.some_ne_none reply)
  | query t =>
    cases t with
    | arrive =>
      obtain ⟨-, hi⟩ := mem_turns_arrive ht
      obtain ⟨c, hc, hfailure, hqueued, hlast⟩ := h.current
      have henter : r.backend.enter r.query r.now r.watcher.last
          = (.catalog { c with queries := c.queries + 1 } none, .parked c.revision none) := by
        rw [hc, Backend.enter_catalog, ← hlast, Catalog.enter_index hfailure hqueued]
        rfl
      simp only [WatchRun.take, hi, Backend.progress, henter]
      refine ⟨⟨⟨_, rfl, hfailure, hqueued, hlast⟩, fun i hi => ?_, h.going⟩, rfl, rfl⟩
      exact .inr (Option.some.inj hi).symm
    | notice =>
      obtain ⟨-, seen, giveUpAt, hi, hwritten⟩ := mem_turns_notice.mp ht
      obtain hsent | hparked := h.out _ hi
      · cases hsent
      · exact absurd (Inquiry.parked.inj hparked).1 hwritten
    | expire =>
      obtain ⟨-, seen, giveUpAt, hi, hdue⟩ := mem_turns_expire ht
      obtain hsent | hparked := h.out _ hi
      · cases hsent
      · rw [(Inquiry.parked.inj hparked).2] at hdue
        exact absurd hdue Bool.false_ne_true

theorem Waits.turn (h : r.Waits) (j : Jitter) (t : Turn) :
    (r.stepLoop (.turn j t)).Waits ∧ r.SameNews (r.stepLoop (.turn j t)) := by
  by_cases ht : t ∈ r.turns
  · rw [show r.stepLoop (.turn j t) = r.take j t from if_pos ht]
    exact h.take j ht
  · rw [show r.stepLoop (.turn j t) = r from if_neg ht]
    exact ⟨h, rfl, rfl⟩

theorem Waits.wait (h : r.Waits) (ms : Nat) :
    (r.stepLoop (.wait ms)).Waits ∧ r.SameNews (r.stepLoop (.wait ms)) :=
  ⟨⟨h.current, h.out, h.going⟩, rfl, rfl⟩

/-! ### Left to itself -/

/-- What every turn keeps, a run that settles keeps. -/
theorem settleIn_induction {P : WatchRun → Prop} {j : Jitter}
    (hturn : ∀ r t, P r → P (r.stepLoop (.turn j t))) (hr : P r) (fuel : Nat) :
    P (settleIn j fuel r) := by
  obtain ⟨ts, hts, -⟩ := settleIn_eq_afterLoop j fuel r
  rw [hts]
  clear hts
  induction ts generalizing r with
  | nil => exact hr
  | cons t rest ih => exact ih (hturn r t hr)

/-- What every turn and every passing of time keeps, a run whose clock goes on keeps. -/
theorem advance_induction {P : WatchRun → Prop} {j : Jitter}
    (hturn : ∀ r t, P r → P (r.stepLoop (.turn j t)))
    (hwait : ∀ r ms, P r → P (r.stepLoop (.wait ms))) (hr : P r) (ms : Nat) :
    P (r.advance j ms) := by
  have hjump : ∀ s m, P s → (clockwork j).now s ≤ m →
      P ((clockwork j).jump m s) ∧ (clockwork j).now ((clockwork j).jump m s) = m := by
    intro s m hs hm
    have hset : s.stepLoop (.wait (m - s.now)) = { s with now := m } :=
      congrArg (fun now => { s with now }) (Nat.add_sub_cancel' hm)
    have hlater := hwait s (m - s.now) hs
    rw [hset] at hlater
    obtain ⟨ts, -, hnow⟩ := settleIn_eq_afterLoop j (patience { s with now := m }) { s with now := m }
    exact ⟨settleIn_induction hturn hlater _, hnow⟩
  have hsettled := settleIn_induction hturn hr r.patience
  obtain ⟨ts, -, hnow⟩ := settleIn_eq_afterLoop j r.patience r
  refine Clockwork.advanceTo_induction hjump (r.timerBound ms) hsettled ?_
  show (settleIn j r.patience r).now ≤ r.now + ms
  omega

end WatchRun

/-- A loop that was just set up knows what its initial answer says, and nobody hears of it yet. -/
theorem Watcher.begin_feed (query : ServiceQuery) (pace : Backoff) (initial : Answer) :
    (Watcher.begin query pace initial).feed = { state := initial.snapshot } := by
  have hstate := Watcher.begin_state query pace initial
  have hrest : (Watcher.begin query pace initial).feed
      = { state := (Watcher.begin query pace initial).feed.state } := by
    show (Feed.empty.publish (fun _ => false) initial.snapshot).1 = _
    unfold Watcher.begin Feed.publish
    split_ifs <;> rfl
  rw [hrest, hstate]

namespace Program

/-! ## The catalog of a list -/

/-- The addresses of a list are its parts between commas that are left without the blanks around
them, where anything is. -/
theorem mem_addressesOf {list : String} {parts : List (List Char)}
    (h : Text.IsCut ',' list.toList parts) {a : String} :
    a ∈ addressesOf list ↔ a ≠ "" ∧ ∃ part ∈ parts, Text.IsTrimmed part a.toList := by
  have hempty (cs : List Char) : (!cs.isEmpty) = true ↔ String.ofList cs ≠ "" := by
    cases cs with
    | nil => exact ⟨nofun, fun h => absurd String.ofList_nil h⟩
    | cons c rest =>
      refine ⟨fun _ h => ?_, fun _ => rfl⟩
      have htext := congrArg String.toList h
      rw [String.toList_ofList] at htext
      exact nomatch htext
  rw [addressesOf, h.eq_splitOn, List.mem_map]
  constructor
  · rintro ⟨cs, hcs, rfl⟩
    obtain ⟨hmem, hne⟩ := List.mem_filter.mp hcs
    obtain ⟨part, hpart, rfl⟩ := List.mem_map.mp hmem
    refine ⟨(hempty _).mp hne, part, hpart, ?_⟩
    rw [String.toList_ofList]
    exact Text.isTrimmed_iff.mpr rfl
  · rintro ⟨hne, part, hpart, htrimmed⟩
    have hmem := List.mem_map.mpr ⟨part, hpart, Text.isTrimmed_iff.mp htrimmed⟩
    refine ⟨a.toList, List.mem_filter.mpr ⟨hmem, (hempty _).mpr ?_⟩, String.ofList_toList⟩
    rwa [String.ofList_toList]

theorem ofAddress_memory (list : String) (token datacenter : Option String) :
    Origin.ofAddress (memoryScheme ++ list) token datacenter = .memory (addressesOf list) := by
  have hlist : memoryScheme.toList.isPrefixOf? (memoryScheme ++ list).toList = some list.toList := by
    rw [List.isPrefixOf?_eq_some_iff_append_eq, String.toList_append]
  rw [Origin.ofAddress, hlist]
  simp only [String.ofList_toList]

namespace Origin

variable {q : ServiceQuery}

/-- Whoever asks for no tags is told of all addresses, once each and in ascending order. -/
theorem matching_catalogOf (addrs : List String) (htags : q.tags = []) :
    (catalogOf q.service addrs).matching q = ascending addrs :=
  Catalog.matching_replaceService (t := {}) List.Pairwise.nil addrs htags

/-- Whoever asks for tags is told of none: no instance of a list has any. -/
theorem matching_catalogOf_of_tags (service : String) (addrs : List String) (htags : q.tags ≠ []) :
    (catalogOf service addrs).matching q = [] := by
  obtain ⟨tag, rest, htag⟩ := List.exists_cons_of_ne_nil htags
  refine List.map_eq_nil_iff.mpr (List.filter_eq_nil_iff.mpr fun row hrow => ?_)
  rcases (Catalog.mem_replaceService (t := {}) List.Pairwise.nil).mp hrow with
    ⟨a, -, rfl⟩ | ⟨hold, -⟩
  · simp [Catalog.plainRow, Instance.fits, htag]
  · exact absurd hold List.not_mem_nil

end Origin

/-! ## What happens to the command -/

/-- What can happen to a command that watches, as long as nobody writes to the catalog: the loop of its
watcher takes a turn, if it can, time goes on, or the command logs what waits for it. -/
inductive Beat
  | turn (j : Jitter) (t : Turn)
  | wait (ms : Nat)
  | listen

namespace Watching

variable {line : LogLine} {w : Watching}

/-- One of them happens. -/
def beat (w : Watching) : Beat → Watching
  | .turn j t => { w with run := w.run.stepLoop (.turn j t) }
  | .wait ms => { w with run := w.run.stepLoop (.wait ms) }
  | .listen => w.listen

/-- The command after all that happened. -/
def after (w : Watching) (beats : List Beat) : Watching := beats.foldl beat w

theorem after_concat (w : Watching) (beats : List Beat) (b : Beat) :
    w.after (beats ++ [b]) = (w.after beats).beat b := by
  rw [after, List.foldl_append]
  rfl

/-- What happens once and again, happens all along. -/
theorem after_induction {P : Watching → Prop} (hbeat : ∀ w b, P w → P (w.beat b)) (hw : P w)
    (beats : List Beat) : P (w.after beats) := by
  induction beats generalizing w with
  | nil => exact hw
  | cons b rest ih => exact ih (hbeat w b hw)

/-- What a run comes to by itself, the command comes to by what happens to it. -/
def Reaches (w : Watching) (run : WatchRun) : Prop := ∃ beats, { w with run } = w.after beats

theorem Reaches.turn {run : WatchRun} (h : w.Reaches run) (j : Jitter) (t : Turn) :
    w.Reaches (run.stepLoop (.turn j t)) := by
  obtain ⟨beats, hbeats⟩ := h
  refine ⟨beats ++ [.turn j t], ?_⟩
  rw [after_concat, ← hbeats]
  rfl

theorem Reaches.wait {run : WatchRun} (h : w.Reaches run) (ms : Nat) :
    w.Reaches (run.stepLoop (.wait ms)) := by
  obtain ⟨beats, hbeats⟩ := h
  refine ⟨beats ++ [.wait ms], ?_⟩
  rw [after_concat, ← hbeats]
  rfl

theorem Reaches.listen {run : WatchRun} (h : w.Reaches run) :
    ∃ beats, ({ w with run } : Watching).listen = w.after beats := by
  obtain ⟨beats, hbeats⟩ := h
  refine ⟨beats ++ [.listen], ?_⟩
  rw [after_concat, ← hbeats]
  rfl

/-- A command that settles is one to which things happened. -/
theorem settle_eq_after (j : Jitter) (w : Watching) : ∃ beats, w.settle j = w.after beats :=
  Reaches.listen (WatchRun.settleIn_induction (fun _ t h => h.turn j t) ⟨[], rfl⟩ w.run.patience)

/-- So is one for which time goes on. -/
theorem advance_eq_after (j : Jitter) (ms : Nat) (w : Watching) :
    ∃ beats, w.advance j ms = w.after beats :=
  Reaches.listen (WatchRun.advance_induction (fun _ t h => h.turn j t) (fun _ ms h => h.wait ms)
    ⟨[], rfl⟩ ms)

/-! ## One line and no other -/

/-- The command has this one line to log, or has logged it, and nothing else comes. -/
structure Steady (line : LogLine) (w : Watching) : Prop where
  waits : w.run.Waits
  subscribed : w.run.watcher.feed.subscribers = [(w.subscriber, mailbox)]
  running : w.isOver = false
  told : ∃ box, w.run.mailboxes.get? mailbox = some box ∧
    w.log ++ box.waiting.map (lineOf w.service) = [line]

/-- As it listens, the line is logged. -/
theorem Steady.log_listen (h : w.Steady line) : w.listen.log = [line] := by
  obtain ⟨box, hbox, htold⟩ := h.told
  rw [listen, hbox, h.running]
  exact htold

/-- A run without news leaves the command as it is. -/
theorem Steady.of_sameNews (h : w.Steady line) {run : WatchRun} (hwaits : run.Waits)
    (hnews : w.run.SameNews run) : ({ w with run } : Watching).Steady line where
  waits := hwaits
  subscribed := by
    show run.watcher.feed.subscribers = _
    rw [hnews.1]
    exact h.subscribed
  running := h.running
  told := by
    show ∃ box, run.mailboxes.get? mailbox = some box ∧ _
    rw [hnews.2]
    exact h.told

theorem Steady.beat (h : w.Steady line) (b : Beat) : (w.beat b).Steady line := by
  cases b with
  | turn j t => exact h.of_sameNews (h.waits.turn j t).1 (h.waits.turn j t).2
  | wait ms => exact h.of_sameNews (h.waits.wait ms).1 (h.waits.wait ms).2
  | listen =>
    obtain ⟨box, hbox, -⟩ := h.told
    refine ⟨⟨h.waits.current, h.waits.out, h.waits.going⟩, h.subscribed, h.running,
      { box with waiting := [] }, ?_, ?_⟩
    · show (w.run.mailboxes.emptied mailbox).get? mailbox = _
      rw [Mailboxes.emptied, Mailboxes.get?_modify, hbox]
      rfl
    · rw [List.map_nil, List.append_nil]
      exact h.log_listen

/-- What is logged stays the one line. -/
theorem Steady.log_beat (h : w.Steady line) (hlog : w.log = [line]) (b : Beat) :
    (w.beat b).log = [line] := by
  cases b with
  | turn j t | wait ms => exact hlog
  | listen => exact h.log_listen

/-! ## The end -/

/-- The command is over: it logs no more, is no subscriber, and its watcher was told to stop. -/
structure Over (log : List LogLine) (w : Watching) : Prop where
  isOver : w.isOver = true
  log_eq : w.log = log
  alone : w.run.watcher.feed.subscribers = []
  stopped : w.run.watcher.stopped = true

theorem Steady.interrupt (h : w.Steady line) : w.interrupt.Over w.log := by
  rw [Watching.interrupt, h.running]
  refine ⟨rfl, rfl, ?_, rfl⟩
  show (w.run.watcher.feed.subscribers.filter fun p => p.1 != w.subscriber) = []
  rw [h.subscribed]
  simp

theorem Over.loop {log : List LogLine} (h : w.Over log) (s : LoopStep) :
    ({ w with run := w.run.stepLoop s } : Watching).Over log where
  isOver := h.isOver
  log_eq := h.log_eq
  alone := by
    obtain ⟨-, hfeed, -⟩ | ⟨snapshot, -, hfeed, -⟩ := (w.run.moves_stepLoop s).feed_cases
    · show (w.run.stepLoop s).watcher.feed.subscribers = []
      rw [hfeed]
      exact h.alone
    · show (w.run.stepLoop s).watcher.feed.subscribers = []
      rw [hfeed]
      show w.run.audience = []
      rw [WatchRun.audience, h.alone]
      rfl
  stopped := (w.run.moves_stepLoop s).stopped h.stopped

theorem Over.beat {log : List LogLine} (h : w.Over log) (b : Beat) : (w.beat b).Over log := by
  cases b with
  | turn j t => exact h.loop (.turn j t)
  | wait ms => exact h.loop (.wait ms)
  | listen =>
    refine ⟨h.isOver, ?_, h.alone, h.stopped⟩
    rw [Watching.beat, listen, h.isOver]
    exact (List.append_nil w.log).trans h.log_eq

/-- Left to itself, its watcher is over too. -/
theorem Over.ended {log : List LogLine} (h : w.Over log) (j : Jitter) :
    (w.settle j).run.watcher.phase = .ended :=
  (WatchRun.settle_of_stopped h.stopped j).1

/-- What a command logs and how it ends, whatever happens to it before and after it is interrupted. -/
structure Reports (line : LogLine) (w : Watching) : Prop where
  /-- It logs this one line and stays a subscriber, ... -/
  logs : ∀ beats, (w.after beats).log = [line]
  subscribed : ∀ beats,
    (w.after beats).run.watcher.feed.isSubscribed (w.after beats).subscriber = true
  /-- ... until it is interrupted; then it is over, ... -/
  stops : ∀ beats more, ((w.after beats).interrupt.after more).Over [line]
  /-- ... and its watcher, left to itself, is so too. -/
  ended : ∀ beats more j,
    (((w.after beats).interrupt.after more).settle j).run.watcher.phase = .ended

theorem Steady.reports (h : w.Steady line) (hlog : w.log = [line]) : w.Reports line := by
  have hkept (beats : List Beat) : (w.after beats).Steady line ∧ (w.after beats).log = [line] :=
    after_induction (P := fun w => w.Steady line ∧ w.log = [line])
      (fun _ b h => ⟨h.1.beat b, h.1.log_beat h.2 b⟩) ⟨h, hlog⟩ beats
  have hover (beats more : List Beat) : ((w.after beats).interrupt.after more).Over [line] := by
    refine after_induction (fun _ b h => h.beat b) ?_ more
    rw [← (hkept beats).2]
    exact (hkept beats).1.interrupt
  refine ⟨fun beats => (hkept beats).2, fun beats => ?_, hover,
    fun beats more j => (hover beats more).ended j⟩
  rw [Feed.isSubscribed, (hkept beats).1.subscribed]
  simp

/-- Once the command has settled, the line is logged. -/
theorem Steady.settle (h : w.Steady line) (j : Jitter) :
    (w.settle j).Steady line ∧ (w.settle j).log = [line] := by
  have hreaches : w.Reaches (w.run.settle j) :=
    WatchRun.settleIn_induction (fun _ t h => h.turn j t) ⟨[], rfl⟩ w.run.patience
  obtain ⟨beats, hbeats⟩ := hreaches
  have hsettled : ({ w with run := w.run.settle j } : Watching).Steady line := by
    rw [hbeats]
    exact after_induction (fun _ b h => h.beat b) h beats
  exact ⟨hsettled.beat .listen, hsettled.log_listen⟩

/-! ## The start -/

/-- A command that watches the catalog of a list hears of its addresses as it subscribes. -/
theorem exists_begin?_catalogOf (service : String) (addrs : List String) (settings : Settings) :
    ∃ w, begin? (.catalog (Origin.catalogOf service addrs) none) settings service = some w ∧
      w.log = [] ∧ w.Steady (lineOf service (.ofAddresses
        ((Origin.catalogOf service addrs).matching (settings.query service)))) := by
  let c := Origin.catalogOf service addrs
  let q := settings.query service
  let told : Answer := .found (c.matching q) c.index
  let run := WatchRun.start (.catalog { c with queries := 1 } none) q settings.backoff {} 0 0 told
  have hbegin : WatchRun.begin? (.catalog c none) q settings.backoff {} 0 = some run := rfl
  have hfeed : run.watcher.feed = { state := told.snapshot } := Watcher.begin_feed ..
  let joined := run.withFeed { state := told.snapshot, nextId := 1, subscribers := [(0, mailbox)] }
    ⟨[(mailbox, { waiting := [told.snapshot] })]⟩
  have hjoined : run.subscribe mailbox = (some 0, joined) := by
    simp only [WatchRun.subscribe, Watcher.subscribe, hfeed]
    rfl
  have hwaits : joined.Waits := ⟨⟨_, rfl, rfl, rfl, rfl⟩, nofun, rfl⟩
  refine ⟨{ service, run := joined, subscriber := 0 }, ?_, rfl, ⟨hwaits, rfl, rfl, _, rfl, rfl⟩⟩
  rw [begin?, hbegin]
  simp only [hjoined]

end Watching

/-- What a query with these tags is told of the addresses of a list. -/
structure Told (list : String) (tags addrs : List String) : Prop where
  /-- Without tags, the parts of the list between commas that are left without the blanks around
  them, in strictly ascending order; -/
  untagged : tags = [] → addrs.Pairwise (· < ·) ∧ ∀ parts, Text.IsCut ',' list.toList parts →
    ∀ a, a ∈ addrs ↔ a ≠ "" ∧ ∃ part ∈ parts, Text.IsTrimmed part a.toList
  /-- with tags, none. -/
  tagged : tags ≠ [] → addrs = []

theorem told_matching (list : String) (settings : Settings) (service : String) :
    Told list settings.tags (ascending
      ((Origin.catalogOf service (addressesOf list)).matching (settings.query service))) where
  untagged := by
    intro htags
    refine ⟨pairwise_ascending _, fun parts hparts a => ?_⟩
    have hmatching : (Origin.catalogOf service (addressesOf list)).matching (settings.query service)
        = ascending (addressesOf list) :=
      Origin.matching_catalogOf (q := settings.query service) _ htags
    rw [mem_ascending, hmatching, mem_ascending, mem_addressesOf hparts]
  tagged := by
    intro htags
    rw [Origin.matching_catalogOf_of_tags (q := settings.query service) service _ htags]
    rfl

/-- What a command line comes to that watches a service with these addresses: a report of `addrs`. -/
structure WatchesList (c : CommandLine) (s : Surroundings) (service list : String)
    (addrs : List String) : Prop where
  /-- It starts, and reports the addresses in one line. -/
  starts : ∀ j, ∃ w, start c s j
      = { log := [(Origin.memory (addressesOf list)).line service], job := .ok (.watching w) } ∧
    w.Reports (Watching.lineOf service (.instances addrs))
  /-- Interrupted at any point, the program ends well, and nothing else was logged. -/
  exits : ∀ args p j interruptAfter, prepare args s = .ok p → p.line = c →
    transcript args s j interruptAfter
      = { exit := 0
          output := p.rendered [(Origin.memory (addressesOf list)).line service,
            Watching.lineOf service (.instances addrs)]
          complaint := some "" }

/-- A run that watches logs what it logged at the start, and what the command had logged when it was
interrupted. -/
theorem logOf_of_watching {c : CommandLine} {s : Surroundings} {j : Nat → Jitter}
    {log : List LogLine} {w : Watching}
    (hstart : start c s (j 0) = { log, job := .ok (.watching w) })
    (enough : List LogLine → Bool) (fuel : Nat) :
    logOf c s j enough fuel = log ++ w.interrupt.log := by
  have hjob : ∀ calling, Job.watching w ≠ .calling calling := fun _ => nofun
  rw [logOf, hstart]
  simp only [proceedUntil_of_ne_calling hjob]
  exact congrArg (log ++ ·) (List.append_nil w.interrupt.log)

/-- **A list of addresses is reported once**, whatever happens until the command is interrupted: in
strictly ascending order, or as none to whoever asks for tags. Then the command ends well, and is a
subscriber no more. -/
theorem watch_memory {c : CommandLine} {s : Surroundings} {args : ServiceArgs} {list : String}
    {settings : Settings} (hcommand : c.command = .watch args)
    (haddress : c.consulAddr = memoryScheme ++ list) (hsettings : settingsOf c s = .ok settings) :
    ∃ addrs, Told list (settings.merge args.tags args.passingOnly).tags addrs ∧
      WatchesList c s args.service list addrs := by
  obtain ⟨w, hbegin, -, hsteady⟩ := Watching.exists_begin?_catalogOf args.service
    (addressesOf list) (settings.merge args.tags args.passingOnly)
  have horigin : Origin.ofCommandLine c = .memory (addressesOf list) := by
    rw [Origin.ofCommandLine, haddress, ofAddress_memory]
  have hstart (j : Jitter) : start c s j
      = { log := [(Origin.memory (addressesOf list)).line args.service]
          job := .ok (.watching (w.settle j)) } := by
    rw [start_of_settings hsettings]
    simp only [startWith, hcommand, horigin, Origin.backend, hbegin]
  refine ⟨_, told_matching list _ args.service, fun j => ⟨w.settle j, hstart j, ?_⟩, ?_⟩
  · exact (hsteady.settle j).1.reports (hsteady.settle j).2
  · rintro given p j interruptAfter hprepare rfl
    obtain ⟨hsettled, hlog⟩ := hsteady.settle (j 0)
    have hinterrupted := hsettled.interrupt.log_eq.trans hlog
    simp only [transcript, hprepare, logOf_of_watching (hstart (j 0)), hinterrupted]
    rfl

/-- A command line that watches three addresses, one of them given twice. -/
def usersLine : CommandLine where
  consulAddr := "memory://b:2, a:1,,b:2"
  consulToken := none
  datacenter := none
  configPath := none
  threadName := CommandLine.defaultThreadName
  threads := none
  logFilter := CommandLine.defaultLogFilter
  command := .watch { service := "users" }

theorem watch_memory_users :
    ∃ addrs, Told "b:2, a:1,,b:2" [] addrs ∧
      WatchesList usersLine {} "users" "b:2, a:1,,b:2" addrs := by
  have haddress : usersLine.consulAddr = memoryScheme ++ "b:2, a:1,,b:2" := by decide
  have hsettings : settingsOf usersLine {} = .ok .standard := rfl
  exact watch_memory rfl haddress hsettings

end Program

end Switchboard
