import Switchboard.Feed.Session
/-!
# The course of a feed

Whoever publishes on a feed, the subscribers, and the owners and readers of mailboxes all act on
it, in any order. This file gives the runs that statements about feeds range over, and says once
what an act can do.

* `FeedAct`, `FeedRun` — what can happen, and a feed with its mailboxes; `act`, `shows` and
  `arrivals` — the feed after an act, what the act shows, and the snapshots that arrive.
* `Does` — everything an act can do to the feed, one constructor for each; `does_act` is the
  inversion lemma that later statements are derived from.
* `after`, `arrived`, `heard`, `changes` — a run: the feed at its end, what arrived on the way,
  what arrived for one subscriber, and the states that the feed went through.
* `mails_after` — what readers take out of a mailbox, and what is left in it, is what arrived there.
-/

namespace Switchboard

namespace Snapshot

/-- Do two snapshots say the same: the same set of addresses, or the same failure? -/
def Same : Snapshot → Snapshot → Prop
  | .instances l, .instances m => ∀ a, a ∈ l ↔ a ∈ m
  | .failure why, .failure why' => why = why'
  | _, _ => False

/-- Snapshots say the same iff they have the same normal form. -/
theorem normal_eq_normal_iff {s t : Snapshot} : s.normal = t.normal ↔ s.Same t := by
  cases s with
  | instances l =>
    cases t with
    | instances m =>
      constructor
      · intro h a
        have hlists : ascending l = ascending m := Snapshot.instances.inj h
        rw [← mem_ascending, hlists, mem_ascending]
      · intro h
        exact congrArg Snapshot.instances (ascending_congr h)
    | failure why => exact ⟨fun h => (nomatch h), fun h => (nomatch h)⟩
  | failure why =>
    cases t with
    | instances m => exact ⟨fun h => (nomatch h), fun h => (nomatch h)⟩
    | failure why' => exact ⟨Snapshot.failure.inj, congrArg Snapshot.failure⟩

end Snapshot

/-! ## Mailboxes -/

namespace Mailboxes

/-- The mailbox of a name; a name that stands for none yet has a new one. -/
def box (m : Mailboxes) (name : String) : Mailbox := (m.get? name).getD default

/-- The snapshots among deliveries that go to one mailbox. -/
def copiesAt (name : String) (ds : List Delivery) : List Snapshot :=
  (ds.filter (·.mailbox = name)).map Delivery.snapshot

theorem copiesAt_append (name : String) (ds more : List Delivery) :
    copiesAt name (ds ++ more) = copiesAt name ds ++ copiesAt name more := by
  unfold copiesAt
  rw [List.filter_append, List.map_append]

theorem box_of_reaches {m : Mailboxes} {name : String} (h : m.reaches name = true) :
    (m.box name).isOpen = true ∧ (m.box name).isRead = true := by
  unfold reaches at h
  unfold box
  cases hbox : m.get? name with
  | none => rw [hbox] at h; exact nomatch h
  | some b =>
    rw [hbox] at h
    exact Bool.and_eq_true_iff.mp h

theorem reaches_of_box {m : Mailboxes} {name : String} (hthere : (m.get? name).isSome = true)
    (hopen : (m.box name).isOpen = true) (hread : (m.box name).isRead = true) :
    m.reaches name = true := by
  obtain ⟨b, hb⟩ := Option.isSome_iff_exists.mp hthere
  unfold box at hopen hread
  unfold reaches
  rw [hb] at hopen hread ⊢
  exact Bool.and_eq_true_iff.mpr ⟨hopen, hread⟩

/-- A mailbox that nobody keeps open cannot be reached. -/
theorem reaches_eq_false_of_closed {m : Mailboxes} {name : String}
    (h : (m.get? name).any (·.isOpen) = false) : m.reaches name = false := by
  unfold reaches
  cases hbox : m.get? name with
  | none => rfl
  | some b =>
    rw [hbox] at h
    have hb : b.isOpen = false := h
    simp [hb]

/-- A delivery to a mailbox that is kept open and not read is lost. -/
theorem get?_post_of_unread {m : Mailboxes} {d : Delivery}
    (hopen : (m.get? d.mailbox).any (·.isOpen) = true) (h : m.reaches d.mailbox = false)
    (name : String) : (m.postAll [d]).get? name = m.get? name := by
  rw [get?_postAll]
  cases hbox : m.get? name with
  | none => rfl
  | some b =>
    by_cases heq : d.mailbox = name
    · unfold reaches at h
      rw [heq, hbox] at hopen h
      have hread : b.isRead = false := by
        have hb : b.isOpen = true := hopen
        simpa [hb] using h
      rw [Option.map_some, if_neg (by simp [hread])]
    · simp [heq]

theorem box_ensure (m : Mailboxes) (name other : String) :
    (m.ensure name).box other = m.box other := by
  unfold box
  by_cases h : other = name
  · rw [h, get?_ensure_self, Option.getD_some]
  · rw [get?_ensure_of_ne h]

theorem box_modify_of_ne {m : Mailboxes} {name other : String} (h : other ≠ name)
    (f : Mailbox → Mailbox) : (m.modify name f).box other = m.box other := by
  unfold box
  rw [get?_modify_of_ne h]

/-- Changing a mailbox changes no other, and none at all if there is none of the name. -/
theorem box_modify (m : Mailboxes) (name : String) (f : Mailbox → Mailbox) (other : String) :
    (m.modify name f).box other = m.box other ∨
      other = name ∧ (m.modify name f).box other = f (m.box other) := by
  by_cases h : other = name
  · subst h
    unfold box
    rw [get?_modify]
    cases m.get? other with
    | none => exact .inl rfl
    | some b => exact .inr ⟨rfl, rfl⟩
  · exact .inl (box_modify_of_ne h f)

theorem copiesAt_eq_nil {name : String} {ds : List Delivery} (h : ∀ d ∈ ds, d.mailbox ≠ name) :
    copiesAt name ds = [] := by
  unfold copiesAt
  rw [List.map_eq_nil_iff, List.filter_eq_nil_iff]
  intro d hd
  simpa using h d hd

/-- Deliveries to mailboxes that can be reached wait there, behind what was there. -/
theorem box_postAll {m : Mailboxes} {ds : List Delivery}
    (h : ∀ d ∈ ds, m.reaches d.mailbox = true) (name : String) :
    (m.postAll ds).box name
      = { m.box name with waiting := (m.box name).waiting ++ copiesAt name ds } := by
  by_cases hreach : m.reaches name = true
  · have hread := (box_of_reaches hreach).2
    unfold box at hread ⊢
    rw [get?_postAll]
    cases hbox : m.get? name with
    | none =>
      unfold reaches at hreach
      rw [hbox] at hreach
      exact nomatch hreach
    | some b =>
      rw [hbox] at hread
      exact if_pos hread
  · -- nothing is for a mailbox that cannot be reached
    have hnone : copiesAt name ds = [] :=
      copiesAt_eq_nil fun d hd heq => hreach (heq ▸ h d hd)
    have hsame : (m.postAll ds).get? name = m.get? name := by
      rw [get?_postAll, show (ds.filter (·.mailbox = name)).map Delivery.snapshot = [] from hnone]
      cases m.get? name <;> simp
    unfold box
    rw [hsame, hnone, List.append_nil]

end Mailboxes

/-! ## Acts -/

/-- Something that happens to a feed. -/
inductive FeedAct
  | publish (s : Snapshot)
  /-- A subscriber, or the owner or reader of a mailbox, takes a step. -/
  | take (s : FeedStep)
  deriving DecidableEq, Repr, Inhabited

/-- A feed with its mailboxes. -/
structure FeedRun where
  feed : Feed
  mailboxes : Mailboxes
  deriving DecidableEq, Repr, Inhabited

def FeedNote.number? : FeedNote → Option Nat
  | .number id => some id
  | _ => none

namespace FeedRun

def state (r : FeedRun) : Snapshot := r.feed.state

def ids (r : FeedRun) : List Nat := r.feed.subscribers.map Prod.fst

/-- The subscribers whose mailbox can be reached. -/
def audience (r : FeedRun) : List (Nat × String) :=
  r.feed.subscribers.filter fun p => r.mailboxes.reaches p.2

def act (r : FeedRun) : FeedAct → FeedRun
  | .publish s =>
    ⟨(r.feed.publish r.mailboxes.reaches s).1,
      r.mailboxes.postAll (r.feed.publish r.mailboxes.reaches s).2⟩
  | .take s => ⟨(r.feed.take r.mailboxes s).2.1, (r.feed.take r.mailboxes s).2.2⟩

/-- What an act shows; whoever publishes sees whether it was news. -/
def shows (r : FeedRun) : FeedAct → FeedNote
  | .publish s => .flag (r.feed.isNews s)
  | .take s => (r.feed.take r.mailboxes s).1

/-- The snapshots that arrive in mailboxes. What is delivered to a mailbox that nobody reads does
not arrive. -/
def arrivals (r : FeedRun) : FeedAct → List Delivery
  | .publish s => (r.feed.publish r.mailboxes.reaches s).2
  | .take (.register mailbox) =>
    if (r.mailboxes.ensure mailbox).reaches mailbox then [(r.feed.subscribe mailbox).2] else []
  | .take _ => []

/-- The state that an act leads to, if it is another one. -/
def change? (r : FeedRun) (a : FeedAct) : Option Snapshot :=
  if (r.act a).state = r.state then none else some (r.act a).state

/-- What the reader of a mailbox takes out of it. -/
def taken (r : FeedRun) (mailbox : String) (a : FeedAct) : List Snapshot :=
  match a, r.shows a with
  | .take (.drain name), .mail waiting _ => if name = mailbox then waiting else []
  | _, _ => []

/-- Everything that an act can do to the feed, what arrives then, and the change of state. -/
inductive Does (r : FeedRun) : FeedAct → Feed → List Delivery → Option Snapshot → Prop
  /-- News becomes what is known, and goes to all who can be reached; the others are forgotten. -/
  | tell {s : Snapshot} (news : r.state ≠ s.normal) :
    Does r (.publish s) { r.feed with state := s.normal, subscribers := r.audience }
      (r.audience.map fun p => ⟨p.1, p.2, s.normal⟩) (some s.normal)
  /-- A mailbox that is kept open subscribes, and gets what is known if someone reads it. -/
  | join {mailbox : String}
    (numbered : r.shows (.take (.register mailbox)) = .number r.feed.nextId) :
    Does r (.take (.register mailbox))
      { r.feed with
        nextId := r.feed.nextId + 1
        subscribers := r.feed.subscribers ++ [(r.feed.nextId, mailbox)] }
      (if (r.mailboxes.ensure mailbox).reaches mailbox then [⟨r.feed.nextId, mailbox, r.state⟩]
        else []) none
  | leave {id : Nat} : Does r (.take (.deregister id)) (r.feed.unsubscribe id) [] none
  | idle {a : FeedAct} (stays : ∀ id, a ≠ .take (.deregister id))
    (unnumbered : (r.shows a).number? = none) : Does r a r.feed [] none

theorem change?_eq_none {r : FeedRun} {a : FeedAct} (h : (r.act a).feed.state = r.feed.state) :
    r.change? a = none := if_pos h

section Publish

variable {r : FeedRun} {s : Snapshot}

/-- News becomes what is known, and goes to everyone who can be reached. -/
theorem publish_of_ne (h : r.state ≠ s.normal) :
    (r.act (.publish s)).feed = { r.feed with state := s.normal, subscribers := r.audience } ∧
      r.arrivals (.publish s) = r.audience.map fun p => ⟨p.1, p.2, s.normal⟩ := by
  have hpublish : r.feed.publish r.mailboxes.reaches s
      = ({ r.feed with state := s.normal, subscribers := r.audience },
          r.audience.map fun p => ⟨p.1, p.2, s.normal⟩) := if_pos (decide_eq_true h)
  exact ⟨congrArg Prod.fst hpublish, congrArg Prod.snd hpublish⟩

/-- What is known already changes nothing. -/
theorem publish_of_eq (h : r.state = s.normal) :
    r.act (.publish s) = r ∧ r.arrivals (.publish s) = [] := by
  have hnews : r.feed.isNews s = false := decide_eq_false (not_not_intro h)
  have hpublish : r.feed.publish r.mailboxes.reaches s = (r.feed, []) :=
    if_neg (by rw [hnews]; decide)
  refine ⟨?_, congrArg Prod.snd hpublish⟩
  show FeedRun.mk _ (r.mailboxes.postAll _) = r
  rw [hpublish]
  rfl

end Publish

/-- **What an act can do.** -/
theorem does_act (r : FeedRun) (a : FeedAct) :
    r.Does a (r.act a).feed (r.arrivals a) (r.change? a) := by
  cases a with
  | publish s =>
    by_cases h : r.state = s.normal
    · obtain ⟨hact, hnone⟩ := publish_of_eq h
      rw [change?_eq_none (by rw [hact]), hact, hnone]
      exact .idle (fun _ => FeedAct.noConfusion) rfl
    · obtain ⟨hfeed, htold⟩ := publish_of_ne h
      have hchange : r.change? (.publish s) = some s.normal := by
        unfold change? state
        rw [hfeed]
        exact if_neg (Ne.symm h)
      rw [hfeed, htold, hchange]
      exact .tell h
  | take s =>
    have hstate : (r.act (.take s)).feed.state = r.feed.state := Feed.take_state ..
    rw [change?_eq_none hstate]
    cases s with
    | register mailbox =>
      cases hopen : ((r.mailboxes.ensure mailbox).get? mailbox).any (·.isOpen) with
      | true =>
        simp only [act, arrivals, Feed.take, hopen, if_true]
        exact .join (by simp only [shows, Feed.take, hopen, if_true]; rfl)
      | false =>
        have hlost : (r.mailboxes.ensure mailbox).reaches mailbox = false :=
          Mailboxes.reaches_eq_false_of_closed hopen
        simp only [act, arrivals, Feed.take, hopen, hlost, Bool.false_eq_true, if_false]
        exact .idle (fun _ => by simp) (by simp only [shows, Feed.take, hopen]; rfl)
    | deregister id => exact .leave
    | dropOwner mailbox | dropReader mailbox =>
      exact .idle (fun _ => by simp) rfl
    | drain mailbox =>
      cases hbox : (r.mailboxes.get? mailbox).filter (·.isRead) with
      | some b | none =>
        simp only [act, arrivals, Feed.take, hbox]
        exact .idle (fun _ => by simp) (by simp only [shows, Feed.take, hbox]; rfl)

section Act

variable {r : FeedRun} {s : Snapshot}

/-- Whoever publishes sees whether the snapshot differs from what is known. -/
theorem shows_publish_iff : r.shows (.publish s) = .flag true ↔ r.state ≠ s.normal := by
  show FeedNote.flag (decide (r.state ≠ s.normal)) = .flag true ↔ _
  rw [FeedNote.flag.injEq, decide_eq_true_iff]

/-- Whoever deregisters a number sees whether it stood for a subscriber. -/
theorem shows_deregister_iff {id : Nat} :
    r.shows (.take (.deregister id)) = .flag true ↔ id ∈ r.ids := by
  show FeedNote.flag (r.feed.subscribers.any fun p => p.1 == id) = .flag true ↔ _
  unfold ids
  rw [FeedNote.flag.injEq, List.any_eq_true, List.mem_map]
  simp

end Act

/-! ## Runs -/

def after (r : FeedRun) (acts : List FeedAct) : FeedRun := acts.foldl act r

/-- What is seen along a run, of what can be seen in an act. -/
def collect {α : Type} (see : FeedRun → FeedAct → List α) (r : FeedRun) : List FeedAct → List α
  | [] => []
  | a :: rest => see r a ++ collect see (r.act a) rest

/-- The snapshots that arrive along a run, oldest first. -/
def arrived (r : FeedRun) (acts : List FeedAct) : List Delivery := collect arrivals r acts

/-- The snapshots among deliveries that are for one subscriber. -/
def copiesFor (id : Nat) (ds : List Delivery) : List Snapshot :=
  (ds.filter (·.subscriber = id)).map Delivery.snapshot

/-- The snapshots that arrive along a run for one subscriber. -/
def heard (r : FeedRun) (id : Nat) (acts : List FeedAct) : List Snapshot :=
  copiesFor id (r.arrived acts)

def changes (r : FeedRun) (acts : List FeedAct) : List Snapshot :=
  collect (fun r a => (r.change? a).toList) r acts

def numbers (r : FeedRun) (acts : List FeedAct) : List Nat :=
  collect (fun r a => (r.shows a).number?.toList) r acts

def takenFrom (r : FeedRun) (mailbox : String) (acts : List FeedAct) : List Snapshot :=
  collect (fun r => r.taken mailbox) r acts

/-- What every act keeps, a run keeps. -/
theorem after_induction {P : FeedRun → Prop} (hact : ∀ r a, P r → P (r.act a)) {r : FeedRun}
    (hr : P r) (acts : List FeedAct) : P (r.after acts) := by
  induction acts generalizing r with
  | nil => exact hr
  | cons a acts ih => exact ih (hact r a hr)

theorem after_append (r : FeedRun) (acts more : List FeedAct) :
    r.after (acts ++ more) = (r.after acts).after more := List.foldl_append

theorem collect_append {α : Type} (see : FeedRun → FeedAct → List α) (r : FeedRun)
    (acts more : List FeedAct) :
    collect see r (acts ++ more) = collect see r acts ++ collect see (r.after acts) more := by
  induction acts generalizing r with
  | nil => rfl
  | cons a acts ih =>
    show see r a ++ collect see (r.act a) (acts ++ more) = _
    rw [ih, ← List.append_assoc]
    rfl

theorem copiesFor_append (id : Nat) (ds more : List Delivery) :
    copiesFor id (ds ++ more) = copiesFor id ds ++ copiesFor id more := by
  unfold copiesFor
  rw [List.filter_append, List.map_append]

theorem copiesFor_eq_nil {id : Nat} {ds : List Delivery} (h : ∀ d ∈ ds, d.subscriber ≠ id) :
    copiesFor id ds = [] := by
  unfold copiesFor
  rw [List.map_eq_nil_iff, List.filter_eq_nil_iff]
  intro d hd
  simpa using h d hd

theorem heard_cons (r : FeedRun) (id : Nat) (a : FeedAct) (acts : List FeedAct) :
    r.heard id (a :: acts) = copiesFor id (r.arrivals a) ++ (r.act a).heard id acts :=
  copiesFor_append ..

theorem heard_append (r : FeedRun) (id : Nat) (acts more : List FeedAct) :
    r.heard id (acts ++ more) = r.heard id acts ++ (r.after acts).heard id more := by
  unfold heard arrived
  rw [collect_append, copiesFor_append]

/-! ## What is in the mailboxes -/

/-- What arrives in an act waits in mailboxes that could be reached when the act began; one that
subscribes comes into being first. -/
theorem box_act_of_arrivals {r : FeedRun} {m : Mailboxes} {a : FeedAct}
    (hbox : ∀ name, m.box name = r.mailboxes.box name)
    (hreach : ∀ d ∈ r.arrivals a, m.reaches d.mailbox = true)
    (hact : ∀ name, (r.act a).mailboxes.get? name = (m.postAll (r.arrivals a)).get? name)
    (name : String) :
    (r.act a).mailboxes.box name
      = { r.mailboxes.box name with
          waiting := (r.mailboxes.box name).waiting
            ++ Mailboxes.copiesAt name (r.arrivals a) } := by
  have hpost := Mailboxes.box_postAll hreach name
  rw [hbox] at hpost
  rw [← hpost]
  unfold Mailboxes.box
  rw [hact]

theorem box_publish (r : FeedRun) (s : Snapshot) (name : String) :
    (r.act (.publish s)).mailboxes.box name
      = { r.mailboxes.box name with
          waiting := (r.mailboxes.box name).waiting
            ++ Mailboxes.copiesAt name (r.arrivals (.publish s)) } := by
  refine box_act_of_arrivals (m := r.mailboxes) (fun _ => rfl) (fun d hd => ?_) (fun _ => rfl) name
  have hd : d ∈ (r.feed.publish r.mailboxes.reaches s).2 := hd
  unfold Feed.publish at hd
  split at hd
  · obtain ⟨p, hp, rfl⟩ := List.mem_map.mp hd
    exact (List.mem_filter.mp hp).2
  · exact nomatch hd

theorem mailboxes_register_of_open {r : FeedRun} {mailbox : String}
    (h : ((r.mailboxes.ensure mailbox).get? mailbox).any (·.isOpen) = true) :
    (r.act (.take (.register mailbox))).mailboxes
      = (r.mailboxes.ensure mailbox).postAll [(r.feed.subscribe mailbox).2] := by
  simp only [act, Feed.take, h, if_true]
  rfl

theorem box_register (r : FeedRun) (mailbox name : String) :
    (r.act (.take (.register mailbox))).mailboxes.box name
      = { r.mailboxes.box name with
          waiting := (r.mailboxes.box name).waiting
            ++ Mailboxes.copiesAt name (r.arrivals (.take (.register mailbox))) } := by
  refine box_act_of_arrivals (m := r.mailboxes.ensure mailbox)
    (Mailboxes.box_ensure r.mailboxes mailbox) (fun d hd => ?_) (fun other => ?_) name
  · have hd : d ∈ if (r.mailboxes.ensure mailbox).reaches mailbox then
        [(r.feed.subscribe mailbox).2] else [] := hd
    split at hd
    · rename_i hreach
      rw [List.mem_singleton.mp hd]
      exact hreach
    · exact nomatch hd
  · show (r.act (.take (.register mailbox))).mailboxes.get? other
      = ((r.mailboxes.ensure mailbox).postAll (if (r.mailboxes.ensure mailbox).reaches mailbox then
        [(r.feed.subscribe mailbox).2] else [])).get? other
    cases hopen : ((r.mailboxes.ensure mailbox).get? mailbox).any (·.isOpen) with
    | true =>
      rw [mailboxes_register_of_open hopen]
      by_cases hreach : (r.mailboxes.ensure mailbox).reaches mailbox = true
      · rw [if_pos hreach]
      · -- what is posted is lost, as nobody reads the mailbox
        rw [if_neg hreach]
        exact Mailboxes.get?_post_of_unread (d := (r.feed.subscribe mailbox).2) hopen
          (Bool.eq_false_iff.mpr hreach) other
    | false =>
      have hnone : (r.mailboxes.ensure mailbox).reaches mailbox = false :=
        Mailboxes.reaches_eq_false_of_closed hopen
      have hsame : (r.act (.take (.register mailbox))).mailboxes = r.mailboxes.ensure mailbox := by
        simp only [act, Feed.take, hopen, Bool.false_eq_true, if_false]
      rw [hsame, hnone]
      rfl

/-- A mailbox that just got its number is there, and can be reached if that was so before. -/
theorem mailboxes_register {r : FeedRun} {mailbox : String} {id : Nat}
    (h : r.shows (.take (.register mailbox)) = .number id) :
    ((r.act (.take (.register mailbox))).mailboxes.get? mailbox).isSome = true ∧
      (r.act (.take (.register mailbox))).mailboxes.reaches
        = (r.mailboxes.ensure mailbox).reaches := by
  have hopen : ((r.mailboxes.ensure mailbox).get? mailbox).any (·.isOpen) = true := by
    cases hopen : ((r.mailboxes.ensure mailbox).get? mailbox).any (·.isOpen) with
    | true => rfl
    | false =>
      simp only [shows, Feed.take, hopen] at h
      cases h
  have hpost : (r.act (.take (.register mailbox))).mailboxes
      = (r.mailboxes.ensure mailbox).postAll [(r.feed.subscribe mailbox).2] :=
    mailboxes_register_of_open hopen
  rw [hpost, Mailboxes.get?_postAll, Mailboxes.get?_ensure_self]
  exact ⟨rfl, Mailboxes.reaches_postAll ..⟩

/-- What happens to one mailbox while some snapshots are taken out of it and others arrive. -/
structure Mails (b b' : Mailbox) (taken arrived : List Snapshot) : Prop where
  /-- Who lets go of it does so for good, ... -/
  open_before : b'.isOpen = true → b.isOpen = true
  /-- ... and a reader who goes away does not come back. -/
  read_before : b'.isRead = true → b.isRead = true
  /-- With a reader, nothing is lost and nothing comes from elsewhere. -/
  mail : b'.isRead = true → taken ++ b'.waiting = b.waiting ++ arrived

theorem Mails.refl (b : Mailbox) : Mails b b [] [] :=
  ⟨id, id, fun _ => (List.append_nil _).symm⟩

theorem mails_drain (r : FeedRun) (mailbox name : String) :
    Mails (r.mailboxes.box name) ((r.act (.take (.drain mailbox))).mailboxes.box name)
      (r.taken name (.take (.drain mailbox))) [] := by
  cases hbox : (r.mailboxes.get? mailbox).filter (·.isRead) with
  | none =>
    have hsame : (r.act (.take (.drain mailbox))).mailboxes = r.mailboxes := by
      simp only [act, Feed.take, hbox]
    have htaken : r.taken name (.take (.drain mailbox)) = [] := by
      simp only [taken, shows, Feed.take, hbox]
    rw [hsame, htaken]
    exact .refl _
  | some b =>
    have hget : r.mailboxes.get? mailbox = some b := (Option.filter_eq_some_iff.mp hbox).1
    have hempty : (r.act (.take (.drain mailbox))).mailboxes = r.mailboxes.emptied mailbox := by
      simp only [act, Feed.take, hbox]
    have htaken : r.taken name (.take (.drain mailbox))
        = if mailbox = name then b.waiting else [] := by
      simp only [taken, shows, Feed.take, hbox]
    rw [hempty, htaken]
    by_cases heq : mailbox = name
    · subst heq
      have hold : r.mailboxes.box mailbox = b := by rw [Mailboxes.box, hget]; rfl
      have hnew : (r.mailboxes.emptied mailbox).box mailbox = { b with waiting := [] } := by
        rw [Mailboxes.box, Mailboxes.emptied, Mailboxes.get?_modify, hget]
        rfl
      rw [hold, hnew, if_pos rfl]
      exact ⟨id, id, fun _ => rfl⟩
    · have hold : (r.mailboxes.emptied mailbox).box name = r.mailboxes.box name :=
        Mailboxes.box_modify_of_ne (Ne.symm heq) _
      rw [hold, if_neg heq]
      exact .refl _

/-- **What happens to a mailbox in an act.** -/
theorem mails_act (r : FeedRun) (name : String) (a : FeedAct) :
    Mails (r.mailboxes.box name) ((r.act a).mailboxes.box name) (r.taken name a)
      (Mailboxes.copiesAt name (r.arrivals a)) := by
  cases a with
  | publish s =>
    rw [box_publish]
    exact ⟨id, id, fun _ => rfl⟩
  | take s =>
    cases s with
    | register mailbox =>
      rw [box_register]
      exact ⟨id, id, fun _ => rfl⟩
    | deregister id => exact .refl _
    | dropOwner mailbox =>
      show Mails _ ((r.mailboxes.dropOwner mailbox).box name) [] []
      rcases Mailboxes.box_modify r.mailboxes mailbox (fun b => { b with isOpen := false }) name
        with h | ⟨-, h⟩
      · rw [Mailboxes.dropOwner, h]
        exact .refl _
      · rw [Mailboxes.dropOwner, h]
        exact ⟨fun hopen => (nomatch hopen), id, fun _ => (List.append_nil _).symm⟩
    | dropReader mailbox =>
      show Mails _ ((r.mailboxes.dropReader mailbox).box name) [] []
      rcases Mailboxes.box_modify r.mailboxes mailbox
        (fun b => { b with isRead := false, waiting := [] }) name with h | ⟨-, h⟩
      · rw [Mailboxes.dropReader, h]
        exact .refl _
      · rw [Mailboxes.dropReader, h]
        exact ⟨id, fun hread => (nomatch hread), fun hread => (nomatch hread)⟩
    | drain mailbox => exact mails_drain r mailbox name

/-- The same over a run. -/
theorem mails_after (r : FeedRun) (name : String) (acts : List FeedAct) :
    Mails (r.mailboxes.box name) ((r.after acts).mailboxes.box name) (r.takenFrom name acts)
      (Mailboxes.copiesAt name (r.arrived acts)) := by
  induction acts generalizing r with
  | nil => exact .refl _
  | cons a acts ih =>
    have hfirst := r.mails_act name a
    have hrest := ih (r.act a)
    refine ⟨fun h => hfirst.open_before (hrest.open_before h),
      fun h => hfirst.read_before (hrest.read_before h), fun h => ?_⟩
    have hmail := hfirst.mail (hrest.read_before h)
    calc r.takenFrom name (a :: acts) ++ ((r.after (a :: acts)).mailboxes.box name).waiting
        = r.taken name a ++ ((r.act a).takenFrom name acts
            ++ (((r.act a).after acts).mailboxes.box name).waiting) := List.append_assoc ..
      _ = (r.taken name a ++ ((r.act a).mailboxes.box name).waiting)
            ++ Mailboxes.copiesAt name ((r.act a).arrived acts) := by
          rw [hrest.mail h, List.append_assoc]
      _ = (r.mailboxes.box name).waiting ++ Mailboxes.copiesAt name (r.arrived (a :: acts)) := by
          rw [hmail, List.append_assoc, ← Mailboxes.copiesAt_append]
          rfl

end FeedRun

end Switchboard
