import Mathlib.Data.List.Chain
import Mathlib.Data.List.Nodup
import Switchboard.Proofs.Feed.Course
/-!
# Every subscriber hears every change

A subscriber gets what is known when it joins, and from then on one copy of every change, until it
is deregistered or a change finds that its mailbox cannot be reached. Then it is forgotten, and
nothing more is sent under its number, which is not given out again.

* `Listed` — the invariant of the subscribers: their numbers are ascending, and below the next.
* `ends`, `term` — does an act end a subscription, and a run up to the act that does.
* `heard_of_subscribed` — what a subscriber hears are the changes during its term, and it is
  subscribed afterwards iff the term lasts; `heard_of_absent` — nobody else hears anything.
* `exists_register` — every number was given out to someone on the way.
* `FanOut` — all of it, after every run.
-/

namespace Switchboard

namespace FeedRun

/-! ## Who is subscribed -/

/-- The numbers of the subscribers are ascending, and below the next one to be given out. -/
structure Listed (f : Feed) : Prop where
  ascending : (f.subscribers.map Prod.fst).Pairwise (· < ·)
  below : ∀ p ∈ f.subscribers, p.1 < f.nextId

theorem listed_empty : Listed .empty := ⟨.nil, fun _ hp => (nomatch hp)⟩

theorem Listed.mailbox_eq {f : Feed} (h : Listed f) {id : Nat} {mailbox other : String}
    (hm : (id, mailbox) ∈ f.subscribers) (ho : (id, other) ∈ f.subscribers) : mailbox = other :=
  congrArg Prod.snd (List.inj_on_of_nodup_map h.ascending.nodup hm ho rfl)

theorem audience_sublist (r : FeedRun) : r.audience.Sublist r.feed.subscribers :=
  List.filter_sublist

theorem unsubscribe_sublist (f : Feed) (id : Nat) :
    (f.unsubscribe id).subscribers.Sublist f.subscribers := List.filter_sublist

/-- One copy goes to each of several subscribers with different numbers. -/
theorem copiesFor_map_of_mem {subscribers : List (Nat × String)} {id : Nat} {mailbox : String}
    (hids : (subscribers.map Prod.fst).Pairwise (· < ·)) (h : (id, mailbox) ∈ subscribers)
    (s : Snapshot) : copiesFor id (subscribers.map fun p => ⟨p.1, p.2, s⟩) = [s] := by
  induction subscribers with
  | nil => exact nomatch h
  | cons p rest ih =>
    obtain ⟨hp, hrest⟩ := List.pairwise_cons.mp hids
    unfold copiesFor
    rw [List.map_cons]
    rcases List.mem_cons.mp h with rfl | h
    · -- nobody after the first has its number
      have hnone : copiesFor id (rest.map fun p => ⟨p.1, p.2, s⟩) = [] := by
        refine copiesFor_eq_nil fun d hd => ?_
        obtain ⟨q, hq, rfl⟩ := List.mem_map.mp hd
        exact Nat.ne_of_gt (hp q.1 (List.mem_map_of_mem hq))
      rw [List.filter_cons_of_pos (by simp)]
      exact congrArg (List.cons s) hnone
    · have hne : p.1 ≠ id := Nat.ne_of_lt (hp id (List.mem_map_of_mem (f := Prod.fst) h))
      rw [List.filter_cons_of_neg (by simpa using hne)]
      exact ih hrest h

/-- Nobody gets a copy whose number is not among the subscribers. -/
theorem copiesFor_map_of_notMem {subscribers : List (Nat × String)} {id : Nat}
    (h : id ∉ subscribers.map Prod.fst) (s : Snapshot) :
    copiesFor id (subscribers.map fun p => ⟨p.1, p.2, s⟩) = [] := by
  refine copiesFor_eq_nil fun d hd heq => h ?_
  obtain ⟨p, hp, rfl⟩ := List.mem_map.mp hd
  exact heq ▸ List.mem_map_of_mem hp

section Does

variable {r : FeedRun} {a : FeedAct} {f : Feed} {ds : List Delivery} {c : Option Snapshot}

/-- Every act keeps the numbers in order. -/
theorem Does.listed (h : r.Does a f ds c) (hr : Listed r.feed) : Listed f := by
  cases h with
  | tell news =>
    refine ⟨hr.ascending.sublist (r.audience_sublist.map Prod.fst), fun p hp => ?_⟩
    exact hr.below p (r.audience_sublist.subset hp)
  | join numbered =>
    constructor
    · rw [List.map_append]
      refine List.pairwise_append.mpr ⟨hr.ascending, List.pairwise_singleton .., ?_⟩
      intro m hm n hn
      obtain ⟨p, hp, rfl⟩ := List.mem_map.mp hm
      rw [List.mem_singleton.mp hn]
      exact hr.below p hp
    · intro p hp
      rcases List.mem_append.mp hp with hp | hp
      · exact Nat.lt_succ_of_lt (hr.below p hp)
      · rw [List.mem_singleton.mp hp]
        exact Nat.lt_succ_self _
  | @leave id =>
    have hsub := unsubscribe_sublist r.feed id
    exact ⟨hr.ascending.sublist (hsub.map Prod.fst), fun p hp => hr.below p (hsub.subset hp)⟩
  | idle => exact hr

theorem Does.nextId_le (h : r.Does a f ds c) : r.feed.nextId ≤ f.nextId := by
  cases h with
  | join numbered => exact Nat.le_succ _
  | tell | leave | idle => exact Nat.le_refl _

/-- Only who joins is given a number, and it is the next one. -/
theorem Does.number (h : r.Does a f ds c) :
    ((r.shows a).number? = some r.feed.nextId ∧ f.nextId = r.feed.nextId + 1) ∨
      ((r.shows a).number? = none ∧ f.nextId = r.feed.nextId) := by
  cases h with
  | join numbered => exact .inl ⟨congrArg FeedNote.number? numbered, rfl⟩
  | tell | leave => exact .inr ⟨rfl, rfl⟩
  | idle stays unnumbered => exact .inr ⟨unnumbered, rfl⟩

theorem Does.subscriber_lt (h : r.Does a f ds c) (hr : Listed r.feed) :
    ∀ d ∈ ds, d.subscriber < f.nextId := by
  intro d hd
  cases h with
  | tell news =>
    obtain ⟨p, hp, rfl⟩ := List.mem_map.mp hd
    exact hr.below p (r.audience_sublist.subset hp)
  | join numbered =>
    split at hd
    · rw [List.mem_singleton.mp hd]
      exact Nat.lt_succ_self _
    · exact nomatch hd
  | leave | idle => exact nomatch hd

theorem Does.normal (h : r.Does a f ds c) (hr : r.state.normal = r.state) :
    f.state.normal = f.state := by
  cases h with
  | tell news => exact Snapshot.normal_normal _
  | join | leave | idle => exact hr

/-- A number that nobody has, and that is not the next to be given out, is left alone. -/
theorem Does.absent (h : r.Does a f ds c) {id : Nat} (hid : id ∉ r.ids)
    (hnew : id ≠ r.feed.nextId) : id ∉ f.subscribers.map Prod.fst ∧ copiesFor id ds = [] := by
  cases h with
  | tell news =>
    have hmem : id ∉ r.audience.map Prod.fst := fun hmem =>
      hid ((r.audience_sublist.map Prod.fst).subset hmem)
    exact ⟨hmem, copiesFor_map_of_notMem hmem _⟩
  | join numbered =>
    constructor
    · rw [List.map_append]
      intro hmem
      rcases List.mem_append.mp hmem with hmem | hmem
      · exact hid hmem
      · exact hnew (List.mem_singleton.mp hmem)
    · refine copiesFor_eq_nil fun d hd => ?_
      split at hd
      · rw [List.mem_singleton.mp hd]
        exact Ne.symm hnew
      · exact nomatch hd
  | @leave other =>
    exact ⟨fun hmem => hid (((unsubscribe_sublist r.feed other).map Prod.fst).subset hmem), rfl⟩
  | idle => exact ⟨hid, rfl⟩

end Does

/-! ## The term of a subscription -/

/-- Does an act end the subscription of a number and its mailbox? It does if the number is
deregistered, or if the state changes while the mailbox cannot be reached. -/
def ends (r : FeedRun) (id : Nat) (mailbox : String) (a : FeedAct) : Bool :=
  a = .take (.deregister id) || (r.change? a).isSome && !r.mailboxes.reaches mailbox

/-- A run up to the act that ends the subscription; the whole run if none does. -/
def term (r : FeedRun) (id : Nat) (mailbox : String) : List FeedAct → List FeedAct
  | [] => []
  | a :: rest => if r.ends id mailbox a then [] else a :: term (r.act a) id mailbox rest

section Term

variable {r : FeedRun} {id : Nat} {mailbox : String}

/-- A subscriber whom an act does not end stays, and gets a copy of the change, if there is one. -/
theorem Does.kept {a : FeedAct} {f : Feed} {ds : List Delivery} {c : Option Snapshot}
    (h : r.Does a f ds c) (hr : Listed r.feed) (hmem : (id, mailbox) ∈ r.feed.subscribers)
    (hstay : a ≠ .take (.deregister id))
    (hreach : c.isSome = true → r.mailboxes.reaches mailbox = true) :
    (id, mailbox) ∈ f.subscribers ∧ copiesFor id ds = c.toList := by
  cases h with
  | tell news =>
    have hin : (id, mailbox) ∈ r.audience := List.mem_filter.mpr ⟨hmem, hreach rfl⟩
    have hids := hr.ascending.sublist (r.audience_sublist.map Prod.fst)
    exact ⟨hin, copiesFor_map_of_mem hids hin _⟩
  | join numbered =>
    refine ⟨List.mem_append_left _ hmem, copiesFor_eq_nil fun d hd => ?_⟩
    split at hd
    · rw [List.mem_singleton.mp hd]
      exact Nat.ne_of_gt (hr.below _ hmem)
    · exact nomatch hd
  | @leave other =>
    have hne : id ≠ other := fun heq => hstay (heq ▸ rfl)
    exact ⟨List.mem_filter.mpr ⟨hmem, by simpa using hne⟩, rfl⟩
  | idle => exact ⟨hmem, rfl⟩

/-- A subscriber whom an act ends is forgotten, and gets nothing. -/
theorem Does.forgotten {a : FeedAct} {f : Feed} {ds : List Delivery} {c : Option Snapshot}
    (h : r.Does a f ds c) (hr : Listed r.feed) (hmem : (id, mailbox) ∈ r.feed.subscribers)
    (hend : a = .take (.deregister id) ∨ c.isSome = true ∧ r.mailboxes.reaches mailbox = false) :
    id ∉ f.subscribers.map Prod.fst ∧ copiesFor id ds = [] := by
  cases h with
  | tell news =>
    obtain ⟨-, hreach⟩ := hend.resolve_left FeedAct.noConfusion
    have hout : id ∉ r.audience.map Prod.fst := by
      intro hin
      obtain ⟨⟨_, other⟩, hp, rfl⟩ := List.mem_map.mp hin
      have hother := (List.mem_filter.mp hp).2
      rw [hr.mailbox_eq (r.audience_sublist.subset hp) hmem, hreach] at hother
      exact nomatch hother
    exact ⟨hout, copiesFor_map_of_notMem hout _⟩
  | join numbered =>
    rcases hend with hend | ⟨hsome, -⟩
    · exact absurd hend (by simp)
    · exact nomatch hsome
  | @leave other =>
    rcases hend with hend | ⟨hsome, -⟩
    · obtain rfl : other = id := by simpa using hend
      refine ⟨fun hin => ?_, rfl⟩
      obtain ⟨p, hp, heq⟩ := List.mem_map.mp hin
      have hne := (List.mem_filter.mp hp).2
      rw [heq] at hne
      simp at hne
    · exact nomatch hsome
  | idle stays =>
    rcases hend with hend | ⟨hsome, -⟩
    · exact absurd hend (stays id)
    · exact nomatch hsome

/-- A number that nobody has, and that was given out before, hears nothing any more. -/
theorem heard_of_absent (hid : id ∉ r.ids) (hold : id < r.feed.nextId) (acts : List FeedAct) :
    r.heard id acts = [] ∧ id ∉ (r.after acts).ids := by
  induction acts generalizing r with
  | nil => exact ⟨rfl, hid⟩
  | cons a acts ih =>
    have hdoes := r.does_act a
    obtain ⟨hgone, hnone⟩ := hdoes.absent hid (Nat.ne_of_lt hold)
    obtain ⟨hheard, hend⟩ := ih hgone (Nat.lt_of_lt_of_le hold hdoes.nextId_le)
    refine ⟨?_, hend⟩
    rw [heard_cons, hnone, hheard]
    rfl

/-- **A subscriber hears every change of its term**, and is subscribed afterwards iff the term is
not over. -/
theorem heard_of_subscribed (hr : Listed r.feed) (hmem : (id, mailbox) ∈ r.feed.subscribers)
    (acts : List FeedAct) :
    r.heard id acts = r.changes (r.term id mailbox acts) ∧
      (r.term id mailbox acts = acts → (id, mailbox) ∈ (r.after acts).feed.subscribers) ∧
      (id ∈ (r.after acts).ids → r.term id mailbox acts = acts) := by
  induction acts generalizing r with
  | nil => exact ⟨rfl, fun _ => hmem, fun _ => rfl⟩
  | cons a acts ih =>
    have hdoes := r.does_act a
    unfold term
    cases hends : r.ends id mailbox a with
    | true =>
      -- the act ends the term: the number is gone, and the rest of the run is not heard
      rw [if_pos rfl]
      obtain ⟨hgone, hnone⟩ := hdoes.forgotten hr hmem (by simpa [ends] using hends)
      have hold : id < (r.act a).feed.nextId :=
        Nat.lt_of_lt_of_le (hr.below _ hmem) hdoes.nextId_le
      obtain ⟨hheard, hend⟩ := heard_of_absent (r := r.act a) hgone hold acts
      refine ⟨?_, fun h => (nomatch h), fun h => absurd h hend⟩
      rw [heard_cons, hnone, hheard]
      rfl
    | false =>
      -- the subscription goes on, so the rest of its term is that of the rest of the run
      rw [if_neg (by decide)]
      obtain ⟨hstay, hreach⟩ := Bool.or_eq_false_iff.mp hends
      obtain ⟨hin, hcopies⟩ := hdoes.kept hr hmem (of_decide_eq_false hstay)
        fun hsome => by simpa [hsome] using hreach
      obtain ⟨hheard, hlasts, hends'⟩ := ih (hdoes.listed hr) hin
      refine ⟨?_, fun h => hlasts (List.cons.inj h).2, fun h => congrArg _ (hends' h)⟩
      rw [heard_cons, hcopies, hheard]
      rfl

end Term

/-! ## Runs from the start -/

section Run

variable {r : FeedRun}

theorem listed_after (h : Listed r.feed) (acts : List FeedAct) : Listed (r.after acts).feed :=
  after_induction (P := fun r => Listed r.feed) (fun r a hr => (r.does_act a).listed hr) h acts

theorem nextId_le_after (r : FeedRun) (acts : List FeedAct) :
    r.feed.nextId ≤ (r.after acts).feed.nextId :=
  after_induction (P := fun r' => r.feed.nextId ≤ r'.feed.nextId)
    (fun r' a hr' => Nat.le_trans hr' (r'.does_act a).nextId_le) (Nat.le_refl _) acts

theorem normal_after (h : r.state.normal = r.state) (acts : List FeedAct) :
    (r.after acts).state.normal = (r.after acts).state :=
  after_induction (P := fun r => r.state.normal = r.state)
    (fun r a hr => (r.does_act a).normal hr) h acts

theorem getLast?_changes (r : FeedRun) (acts : List FeedAct) :
    (r.state :: r.changes acts).getLast? = some (r.after acts).state := by
  induction acts generalizing r with
  | nil => rfl
  | cons a acts ih =>
    show (r.state :: ((r.change? a).toList ++ (r.act a).changes acts)).getLast? = _
    rw [show (r.after (a :: acts)).state = ((r.act a).after acts).state from rfl, ← ih]
    unfold change?
    split
    · rename_i hsame
      rw [hsame]
      rfl
    · show (r.state :: (r.act a).state :: (r.act a).changes acts).getLast? = _
      rw [List.getLast?_cons_cons]

/-- No state is followed by itself. -/
theorem isChain_changes (r : FeedRun) (acts : List FeedAct) :
    (r.state :: r.changes acts).IsChain (· ≠ ·) := by
  induction acts generalizing r with
  | nil => exact .singleton _
  | cons a acts ih =>
    have hrest := ih (r.act a)
    show (r.state :: ((r.change? a).toList ++ (r.act a).changes acts)).IsChain (· ≠ ·)
    unfold change?
    split
    · rename_i hsame
      rw [hsame] at hrest
      exact hrest
    · rename_i hother
      exact .cons_cons (Ne.symm hother) hrest

/-- A mailbox that comes into being when it subscribes, and cannot be reached then, hears of no
change, as the first one ends its subscription. -/
theorem changes_term_of_unreached {id : Nat} {mailbox : String}
    (h : ¬ ((r.mailboxes.box mailbox).isOpen = true ∧ (r.mailboxes.box mailbox).isRead = true))
    (acts : List FeedAct) : r.changes (r.term id mailbox acts) = [] := by
  induction acts generalizing r with
  | nil => rfl
  | cons a acts ih =>
    unfold term
    split
    · rfl
    · rename_i hends
      have hreach : r.mailboxes.reaches mailbox = false :=
        Bool.eq_false_iff.mpr fun hreach => h (Mailboxes.box_of_reaches hreach)
      have hquiet : r.change? a = none := by
        cases hc : r.change? a with
        | none => rfl
        | some s => simp [ends, hc, hreach] at hends
      have hmails := r.mails_act mailbox a
      have hrest := ih (r := r.act a) fun ⟨hopen, hread⟩ =>
        h ⟨hmails.open_before hopen, hmails.read_before hread⟩
      show (r.change? a).toList ++ _ = []
      rw [hquiet]
      exact hrest

theorem exists_register {id : Nat} (hnew : r.feed.nextId ≤ id) {acts : List FeedAct}
    (h : id < (r.after acts).feed.nextId) :
    ∃ before mailbox later, acts = before ++ .take (.register mailbox) :: later ∧
      (r.after before).shows (.take (.register mailbox)) = .number id := by
  induction acts generalizing r with
  | nil => exact absurd h (Nat.not_lt_of_ge hnew)
  | cons a acts ih =>
    by_cases hnext : (r.act a).feed.nextId ≤ id
    -- either the number is still to be given out after this act, or this act gives it out
    · obtain ⟨before, mailbox, later, rfl, hnumber⟩ := ih hnext h
      exact ⟨a :: before, mailbox, later, rfl, hnumber⟩
    · have hdoes := r.does_act a
      generalize (r.act a).feed = f, r.arrivals a = ds, r.change? a = c at hdoes hnext
      cases hdoes with
      | @join mailbox numbered =>
        have hid : r.feed.nextId = id :=
          Nat.le_antisymm hnew (Nat.le_of_lt_succ (Nat.lt_of_not_ge hnext))
        exact ⟨[], mailbox, acts, rfl, hid ▸ numbered⟩
      | tell | leave | idle => exact absurd hnew hnext

/-- Numbers are given out in ascending order, from the next one on. -/
theorem pairwise_numbers (r : FeedRun) (acts : List FeedAct) :
    (r.numbers acts).Pairwise (· < ·) ∧ ∀ n ∈ r.numbers acts, r.feed.nextId ≤ n := by
  induction acts generalizing r with
  | nil => exact ⟨.nil, fun _ hn => (nomatch hn)⟩
  | cons a acts ih =>
    obtain ⟨hpairs, hfrom⟩ := ih (r.act a)
    show ((r.shows a).number?.toList ++ (r.act a).numbers acts).Pairwise (· < ·) ∧
      ∀ n ∈ (r.shows a).number?.toList ++ (r.act a).numbers acts, r.feed.nextId ≤ n
    rcases (r.does_act a).number with ⟨hnumber, hnext⟩ | ⟨hnumber, hnext⟩
    · rw [hnumber]
      rw [hnext] at hfrom
      refine ⟨List.pairwise_cons.mpr ⟨hfrom, hpairs⟩, fun n hn => ?_⟩
      rcases List.mem_cons.mp hn with rfl | hn
      · exact Nat.le_refl _
      · exact Nat.le_of_succ_le (hfrom n hn)
    · rw [hnumber]
      rw [hnext] at hfrom
      exact ⟨hpairs, hfrom⟩

/-- Nobody hears anything under a number that was not given out. -/
theorem heard_of_unborn (hr : Listed r.feed) {id : Nat} {acts : List FeedAct}
    (h : (r.after acts).feed.nextId ≤ id) : r.heard id acts = [] := by
  induction acts generalizing r with
  | nil => rfl
  | cons a acts ih =>
    have hdoes := r.does_act a
    have hnext : (r.act a).feed.nextId ≤ id := Nat.le_trans (nextId_le_after _ acts) h
    rw [heard_cons, ih (hdoes.listed hr) h, List.append_nil]
    exact copiesFor_eq_nil fun d hd heq =>
      absurd (hdoes.subscriber_lt hr d hd) (Nat.not_lt_of_ge (heq ▸ hnext))

end Run

/-! ## Every subscriber -/

/-- In a run from `r₀`, a mailbox joins after `before` and gets a number; `later` is what happens
from then on. -/
structure Joins (r₀ : FeedRun) (acts before : List FeedAct) (mailbox : String) (id : Nat)
    (later : List FeedAct) : Prop where
  acts_eq : acts = before ++ .take (.register mailbox) :: later
  number_eq : (r₀.after before).shows (.take (.register mailbox)) = .number id

def joined (r₀ : FeedRun) (before : List FeedAct) (mailbox : String) : FeedRun :=
  (r₀.after before).act (.take (.register mailbox))

/-- A mailbox that gets a number is subscribed under it, and hears what is known if someone reads
it. -/
theorem registered {r : FeedRun} {mailbox : String} {id : Nat}
    (h : r.shows (.take (.register mailbox)) = .number id) :
    r.feed.nextId = id ∧ (id, mailbox) ∈ (r.act (.take (.register mailbox))).feed.subscribers ∧
      (r.act (.take (.register mailbox))).state = r.state ∧
      copiesFor id (r.arrivals (.take (.register mailbox)))
        = if (r.act (.take (.register mailbox))).mailboxes.reaches mailbox then [r.state]
          else [] := by
  have hdoes := r.does_act (.take (.register mailbox))
  rw [(mailboxes_register h).2]
  unfold state
  generalize (r.act (.take (.register mailbox))).feed = f,
    r.arrivals (.take (.register mailbox)) = ds,
    r.change? (.take (.register mailbox)) = c at hdoes ⊢
  cases hdoes with
  | join numbered =>
    obtain rfl : r.feed.nextId = id := FeedNote.number.inj (numbered.symm.trans h)
    refine ⟨rfl, List.mem_append_right _ (List.mem_singleton.mpr rfl), rfl, ?_⟩
    split
    · exact congrArg (List.map _) (List.filter_cons_of_pos (by simp))
    · rfl
  | idle stays unnumbered =>
    rw [h] at unnumbered
    exact nomatch unnumbered

theorem subscribers_at_of_reaches {r : FeedRun} {mailbox : String}
    (h : r.mailboxes.reaches mailbox = true) (s : Snapshot) :
    ((r.audience.map fun p => (⟨p.1, p.2, s⟩ : Delivery)).filter (·.mailbox = mailbox)).map
        Delivery.subscriber
      = (r.feed.subscribers.filter (·.2 = mailbox)).map Prod.fst := by
  unfold audience
  rw [List.filter_map, List.map_map, List.filter_filter]
  refine congrArg (List.map Prod.fst) (List.filter_congr fun p _ => ?_)
  by_cases hp : p.2 = mailbox
  · simp [hp, h]
  · simp [hp]

section Joins

variable {r₀ : FeedRun} {acts before later : List FeedAct} {mailbox : String} {id : Nat}

theorem Joins.after_eq (h : r₀.Joins acts before mailbox id later) :
    r₀.after acts = (r₀.joined before mailbox).after later := by
  rw [h.acts_eq, after_append]
  rfl

theorem exists_joins (hr : r₀.feed.nextId = 0) (hid : id < (r₀.after acts).feed.nextId) :
    ∃ before mailbox later, r₀.Joins acts before mailbox id later := by
  have hnew : r₀.feed.nextId ≤ id := hr ▸ Nat.zero_le id
  obtain ⟨before, mailbox, later, hacts, hnumber⟩ := exists_register hnew hid
  exact ⟨before, mailbox, later, hacts, hnumber⟩

theorem Joins.mem_numbers (h : r₀.Joins acts before mailbox id later) : id ∈ r₀.numbers acts := by
  rw [h.acts_eq]
  unfold numbers
  rw [collect_append]
  refine List.mem_append_right _ (List.mem_append_left _ ?_)
  show id ∈ ((r₀.after before).shows (.take (.register mailbox))).number?.toList
  rw [h.number_eq]
  exact List.mem_singleton.mpr rfl

theorem listed_joined (hr : Listed r₀.feed) (before : List FeedAct) (mailbox : String) :
    Listed (r₀.joined before mailbox).feed :=
  (does_act _ _).listed (listed_after hr before)

/-- **What a subscriber hears**: what is known when it joins, and the changes of its term. -/
theorem Joins.heard_eq (h : r₀.Joins acts before mailbox id later) (hr : Listed r₀.feed) :
    r₀.heard id acts =
      if (r₀.joined before mailbox).mailboxes.reaches mailbox then
        (r₀.after before).state :: (r₀.joined before mailbox).changes
          ((r₀.joined before mailbox).term id mailbox later)
      else [] := by
  -- nothing is heard before the number is given out; then the copy on joining; then the term
  obtain ⟨hnext, hmem, -, hcopies⟩ := registered h.number_eq
  have hbefore : r₀.heard id before = [] := heard_of_unborn hr (Nat.le_of_eq hnext)
  have hlater := (heard_of_subscribed (listed_joined hr before mailbox) hmem later).1
  have hheard : r₀.heard id acts
      = copiesFor id ((r₀.after before).arrivals (.take (.register mailbox)))
        ++ (r₀.joined before mailbox).heard id later := by
    rw [h.acts_eq, heard_append, hbefore, List.nil_append, heard_cons]
    rfl
  rw [hheard, hcopies, hlater]
  show (if (r₀.joined before mailbox).mailboxes.reaches mailbox then _ else _) ++ _ = _
  by_cases hreach : (r₀.joined before mailbox).mailboxes.reaches mailbox = true
  · rw [if_pos hreach, if_pos hreach]
    rfl
  · rw [if_neg hreach, if_neg hreach, List.nil_append]
    refine changes_term_of_unreached (fun ⟨hopen, hread⟩ => hreach ?_) later
    exact Mailboxes.reaches_of_box (mailboxes_register h.number_eq).1 hopen hread

/-- Who joined is subscribed at the end of the run iff its term is not over. -/
theorem Joins.mem_ids_iff (h : r₀.Joins acts before mailbox id later) (hr : Listed r₀.feed) :
    id ∈ (r₀.after acts).ids ↔ (r₀.joined before mailbox).term id mailbox later = later := by
  obtain ⟨-, hmem, -, -⟩ := registered h.number_eq
  obtain ⟨-, hlasts, hends⟩ := heard_of_subscribed (listed_joined hr before mailbox) hmem later
  rw [h.after_eq]
  exact ⟨hends, fun hterm => List.mem_map_of_mem (f := Prod.fst) (hlasts hterm)⟩

/-- The last that a subscriber who can be reached has heard is what is known. -/
theorem Joins.latest (h : r₀.Joins acts before mailbox id later) (hr : Listed r₀.feed)
    {other : String} (hmem : (id, other) ∈ (r₀.after acts).feed.subscribers)
    (hreach : (r₀.after acts).mailboxes.reaches other = true) :
    (r₀.heard id acts).getLast? = some (r₀.after acts).state := by
  obtain ⟨-, hjoined, hstate, -⟩ := registered h.number_eq
  have hterm := (h.mem_ids_iff hr).mp (List.mem_map_of_mem (f := Prod.fst) hmem)
  have hsame : other = mailbox := by
    have hthere := (heard_of_subscribed (listed_joined hr before mailbox) hjoined later).2.1 hterm
    rw [← h.after_eq] at hthere
    exact (listed_after hr acts).mailbox_eq hmem hthere
  have hreached : (r₀.joined before mailbox).mailboxes.reaches mailbox = true := by
    -- an owner or reader who is there now was there then
    obtain ⟨hopen, hread⟩ := Mailboxes.box_of_reaches hreach
    rw [h.after_eq, hsame] at hopen hread
    have hmails := (r₀.joined before mailbox).mails_after mailbox later
    exact Mailboxes.reaches_of_box (mailboxes_register h.number_eq).1
      (hmails.open_before hopen) (hmails.read_before hread)
  rw [h.heard_eq hr, if_pos hreached, hterm, h.after_eq, ← getLast?_changes]
  exact congrArg (fun s => (s :: _).getLast?) hstate.symm

/-- Nobody hears the same twice in a row: a subscriber hears the states of its term. -/
theorem isChain_heard (hlisted : Listed r₀.feed) (hnext : r₀.feed.nextId = 0) (id : Nat)
    (acts : List FeedAct) : (r₀.heard id acts).IsChain (· ≠ ·) := by
  by_cases hid : id < (r₀.after acts).feed.nextId
  · obtain ⟨before, mailbox, later, h⟩ := exists_joins hnext hid
    obtain ⟨-, -, hstate, -⟩ := registered h.number_eq
    rw [h.heard_eq hlisted]
    split
    · have hchain := isChain_changes (r₀.joined before mailbox)
        ((r₀.joined before mailbox).term id mailbox later)
      rwa [show (r₀.joined before mailbox).state = _ from hstate] at hchain
    · exact .nil
  · rw [heard_of_unborn hlisted (Nat.le_of_not_lt hid)]
    exact .nil

/-- The subscribers are those who joined and whose term is not over. -/
theorem mem_ids_after_iff (hlisted : Listed r₀.feed) (hnext : r₀.feed.nextId = 0) :
    id ∈ (r₀.after acts).ids ↔ ∃ before mailbox later, r₀.Joins acts before mailbox id later ∧
      (r₀.joined before mailbox).term id mailbox later = later := by
  constructor
  · intro hid
    obtain ⟨p, hp, rfl⟩ := List.mem_map.mp hid
    obtain ⟨before, mailbox, later, h⟩ :=
      exists_joins hnext ((listed_after hlisted acts).below p hp)
    exact ⟨before, mailbox, later, h, (h.mem_ids_iff hlisted).mp hid⟩
  · rintro ⟨before, mailbox, later, h, hterm⟩
    exact (h.mem_ids_iff hlisted).mpr hterm

end Joins

/-- What holds of a feed after a run from `r₀`. -/
structure FanOut (r₀ : FeedRun) (acts : List FeedAct) : Prop where
  /-- A subscriber whom someone reads hears what is known when it joins, and then every change of
  its term; a mailbox that nobody reads hears nothing. -/
  heard_eq : ∀ before mailbox id later, r₀.Joins acts before mailbox id later →
    r₀.heard id acts =
      if (r₀.joined before mailbox).mailboxes.reaches mailbox then
        (r₀.after before).state :: (r₀.joined before mailbox).changes
          ((r₀.joined before mailbox).term id mailbox later)
      else []
  /-- Nothing is sent under a number that was not given out, ... -/
  unheard : ∀ id, id ∉ r₀.numbers acts → r₀.heard id acts = []
  /-- ... and numbers are given out in ascending order. -/
  numbers_ascending : (r₀.numbers acts).Pairwise (· < ·)
  /-- The last snapshot that a subscriber heard, if it can be reached, is what is known now. -/
  latest : ∀ id mailbox, (id, mailbox) ∈ (r₀.after acts).feed.subscribers →
    (r₀.after acts).mailboxes.reaches mailbox = true →
      (r₀.heard id acts).getLast? = some (r₀.after acts).state
  /-- Nobody hears the same twice in a row. -/
  varied : ∀ id, (r₀.heard id acts).IsChain (· ≠ ·)
  /-- Deregistering succeeds iff the number was given out and its term is not over. -/
  deregister_iff : ∀ id, (r₀.after acts).shows (.take (.deregister id)) = .flag true ↔
    ∃ before mailbox later, r₀.Joins acts before mailbox id later ∧
      (r₀.joined before mailbox).term id mailbox later = later
  /-- Addresses are known in ascending order, once each. -/
  ascending : ∀ addrs, (r₀.after acts).state = .instances addrs → addrs.Pairwise (· < ·)
  /-- A snapshot is news iff it does not say the same as what is known. -/
  news_iff : ∀ s, (r₀.after acts).shows (.publish s) = .flag true ↔
    ¬ (r₀.after acts).state.Same s
  /-- News is known from then on, and goes once to each subscriber who can be reached. -/
  told : ∀ s, ¬ (r₀.after acts).state.Same s →
    ((r₀.after acts).act (.publish s)).state = s.normal ∧
      (r₀.after acts).arrivals (.publish s)
        = (r₀.after acts).audience.map fun p => ⟨p.1, p.2, s.normal⟩
  /-- What is no news changes nothing, and nobody hears of it. -/
  untold : ∀ s, (r₀.after acts).state.Same s →
    (r₀.after acts).act (.publish s) = r₀.after acts ∧
      (r₀.after acts).arrivals (.publish s) = []
  /-- A mailbox that joined several times hears of news once for each of its numbers. -/
  shared : ∀ s mailbox, ¬ (r₀.after acts).state.Same s →
    (r₀.after acts).mailboxes.reaches mailbox = true →
      (((r₀.after acts).arrivals (.publish s)).filter (·.mailbox = mailbox)).map
          Delivery.subscriber
        = ((r₀.after acts).feed.subscribers.filter (·.2 = mailbox)).map Prod.fst
  /-- What a reader took out of a mailbox, and what waits there, is what was there at the start and
  what arrived since, in order. -/
  mail : ∀ mailbox, ((r₀.after acts).mailboxes.box mailbox).isRead = true →
    r₀.takenFrom mailbox acts ++ ((r₀.after acts).mailboxes.box mailbox).waiting
      = (r₀.mailboxes.box mailbox).waiting ++ Mailboxes.copiesAt mailbox (r₀.arrived acts)

/-- **Every subscriber hears every change.** After every run of acts on a feed without subscribers
that knows of no address, whatever mailboxes there are: each subscriber has heard what was known
when it joined, and one copy of each change since, up to the end of its term. -/
theorem fanOut_after (mailboxes : Mailboxes) (acts : List FeedAct) :
    FanOut ⟨.empty, mailboxes⟩ acts := by
  generalize hr₀ : (⟨.empty, mailboxes⟩ : FeedRun) = r₀
  have hlisted : Listed r₀.feed := hr₀ ▸ listed_empty
  have hnext : r₀.feed.nextId = 0 := hr₀ ▸ rfl
  -- what is known is in normal form, so a snapshot is news iff it does not say the same
  have hnormal : (r₀.after acts).state.normal = (r₀.after acts).state :=
    normal_after (hr₀ ▸ rfl) acts
  have hsame : ∀ s, (r₀.after acts).state = s.normal ↔ (r₀.after acts).state.Same s := fun s => by
    rw [← Snapshot.normal_eq_normal_iff, hnormal]
  refine
    { heard_eq := fun _ _ _ _ h => h.heard_eq hlisted
      unheard := fun id hid => heard_of_unborn hlisted (Nat.le_of_not_lt fun hlt => hid ?_)
      numbers_ascending := (pairwise_numbers r₀ acts).1
      latest := fun id mailbox hmem hreach => ?_
      varied := fun id => ?_
      deregister_iff := fun id => ?_
      ascending := fun addrs haddrs => ?_
      news_iff := fun s => ?_
      told := fun s hs => ?_
      untold := fun s hs => ?_
      shared := fun s mailbox hs hreach => ?_
      mail := fun mailbox => (r₀.mails_after mailbox acts).mail }
  · obtain ⟨_, _, _, h⟩ := exists_joins hnext hlt
    exact h.mem_numbers
  · obtain ⟨_, _, _, h⟩ := exists_joins hnext ((listed_after hlisted acts).below _ hmem)
    exact h.latest hlisted hmem hreach
  · exact isChain_heard hlisted hnext id acts
  · rw [shows_deregister_iff]
    exact mem_ids_after_iff hlisted hnext
  · rw [haddrs] at hnormal
    have hlist : ascending addrs = addrs := Snapshot.instances.inj hnormal
    rw [← hlist]
    exact pairwise_ascending addrs
  · rw [shows_publish_iff]
    exact not_congr (hsame s)
  · obtain ⟨hfeed, htold⟩ := publish_of_ne (mt (hsame s).mp hs)
    exact ⟨congrArg Feed.state hfeed, htold⟩
  · exact publish_of_eq ((hsame s).mpr hs)
  · rw [(publish_of_ne (mt (hsame s).mp hs)).2]
    exact subscribers_at_of_reaches hreach _

/-- The same addresses in another order are no news, and whoever's reader has gone hears no more. -/
example :
    (⟨.empty, {}⟩ : FeedRun).heard 0
        [.take (.register "a"), .publish (.instances ["y", "x"]),
          .publish (.instances ["x", "y", "x"]), .take (.dropReader "a"), .publish (.instances [])]
      = [.instances [], .instances ["x", "y"]] := by decide

end FeedRun

end Switchboard
