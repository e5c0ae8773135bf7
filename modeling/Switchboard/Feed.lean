import Switchboard.Snapshot
/-!
# Feeds of snapshots

A feed holds the latest snapshot of a service and hands every change on to its subscribers. A
subscriber is a number, given out once, and the mailbox that its snapshots go to. The feed does
not own the mailboxes: when it publishes it is told which of them can still be reached, and
forgets the subscribers of the others.

* `Feed.publish` — a new snapshot; nothing happens if it is no news.
* `Feed.subscribe` — a new subscriber, who gets the current snapshot at once.
* `Feed.unsubscribe` — the subscriber is forgotten.
* `Delivery` — one snapshot on its way to a subscriber's mailbox.
* `Mailbox`, `Mailboxes` — where deliveries end up, by name.
-/

namespace Switchboard

/-- A snapshot on its way to a subscriber. -/
structure Delivery where
  subscriber : Nat
  mailbox : String
  snapshot : Snapshot
  deriving DecidableEq, Repr, Inhabited

/-- The latest snapshot of a service, and who hears of changes. -/
structure Feed where
  /-- The latest snapshot, with ascending addresses. -/
  state : Snapshot := .instances []
  nextId : Nat := 0
  subscribers : List (Nat × String) := []
  deriving DecidableEq, Repr, Inhabited

namespace Feed

def empty : Feed := {}

/-- Would the snapshot be news? -/
def isNews (f : Feed) (s : Snapshot) : Bool := f.state ≠ s.normal

/-- Stores a snapshot and sends it to every subscriber whose mailbox can be reached; the others
are forgotten. A snapshot that says what is known already changes nothing. -/
def publish (f : Feed) (reachable : String → Bool) (s : Snapshot) : Feed × List Delivery :=
  if f.isNews s then
    let live := f.subscribers.filter fun p => reachable p.2
    ({ f with state := s.normal, subscribers := live },
      live.map fun p => ⟨p.1, p.2, s.normal⟩)
  else (f, [])

/-- A new subscriber, and the current snapshot for it. -/
def subscribe (f : Feed) (mailbox : String) : Feed × Delivery :=
  ({ f with nextId := f.nextId + 1, subscribers := f.subscribers ++ [(f.nextId, mailbox)] },
    ⟨f.nextId, mailbox, f.state⟩)

/-- Is there a subscriber of this number? -/
def isSubscribed (f : Feed) (id : Nat) : Bool := f.subscribers.any fun p => p.1 == id

/-- The feed without the subscriber of this number. -/
def unsubscribe (f : Feed) (id : Nat) : Feed :=
  { f with subscribers := f.subscribers.filter fun p => p.1 != id }

end Feed

/-! ## Mailboxes -/

/-- Where the snapshots for a subscriber wait. It has an owner who keeps it open and a reader
who empties it; either may go away. -/
structure Mailbox where
  /-- Does the owner still keep it open? -/
  isOpen : Bool := true
  /-- Is there still someone to read it? -/
  isRead : Bool := true
  waiting : List Snapshot := []
  deriving DecidableEq, Repr

instance : Inhabited Mailbox := ⟨{}⟩

/-- Mailboxes by name. -/
structure Mailboxes where
  boxes : List (String × Mailbox) := []
  deriving DecidableEq, Repr, Inhabited

namespace Mailboxes

def get? (m : Mailboxes) (name : String) : Option Mailbox := m.boxes.lookup name

def modify (m : Mailboxes) (name : String) (f : Mailbox → Mailbox) : Mailboxes :=
  ⟨m.boxes.map fun p => if p.1 = name then (p.1, f p.2) else p⟩

/-- The mailboxes with one of this name. -/
def ensure (m : Mailboxes) (name : String) : Mailboxes :=
  if (m.get? name).isSome then m else ⟨m.boxes ++ [(name, default)]⟩

/-- A mailbox can be reached while it is kept open and read. -/
def reaches (m : Mailboxes) (name : String) : Bool :=
  (m.get? name).any fun b => b.isOpen && b.isRead

/-- A delivery put into its mailbox; it is lost if nobody reads that. -/
def post (m : Mailboxes) (d : Delivery) : Mailboxes :=
  m.modify d.mailbox fun b =>
    if b.isRead then { b with waiting := b.waiting ++ [d.snapshot] } else b

/-- Several deliveries, in order. -/
def postAll (m : Mailboxes) (ds : List Delivery) : Mailboxes := ds.foldl post m

/-- The owner of a mailbox lets go of it. -/
def dropOwner (m : Mailboxes) (name : String) : Mailboxes :=
  m.modify name fun b => { b with isOpen := false }

/-- The reader of a mailbox goes away, and what waits in it with it. -/
def dropReader (m : Mailboxes) (name : String) : Mailboxes :=
  m.modify name fun b => { b with isRead := false, waiting := [] }

def emptied (m : Mailboxes) (name : String) : Mailboxes :=
  m.modify name fun b => { b with waiting := [] }

@[simp] theorem get?_modify (m : Mailboxes) (name : String) (f : Mailbox → Mailbox) :
    (m.modify name f).get? name = (m.get? name).map f := by
  show (m.boxes.map fun p => if p.1 = name then (p.1, f p.2) else p).lookup name
    = (m.boxes.lookup name).map f
  induction m.boxes with
  | nil => rfl
  | cons p rest ih =>
    rw [List.map_cons]
    by_cases h : p.1 = name
    · rw [if_pos h, ← h, List.lookup_cons_self]
      show _ = ((p :: rest).lookup p.1).map f
      rw [List.lookup_cons_self]
      rfl
    · have hne : (name == p.1) = false := beq_eq_false_iff_ne.mpr (Ne.symm h)
      rw [if_neg h, List.lookup_cons, hne, ih, List.lookup_cons, hne]

/-- Changing a mailbox twice is changing it once. -/
theorem modify_modify (m : Mailboxes) (name : String) (f g : Mailbox → Mailbox) :
    (m.modify name f).modify name g = m.modify name (g ∘ f) := by
  unfold modify
  rw [List.map_map]
  refine congrArg Mailboxes.mk (List.map_congr_left fun p _ => ?_)
  by_cases h : p.1 = name <;> simp [h]

/-- A mailbox that comes into being is empty. -/
theorem get?_ensure {m : Mailboxes} {name : String} (h : m.get? name = none) :
    (m.ensure name).get? name = some default := by
  unfold ensure
  rw [h, if_neg (by decide)]
  show (m.boxes ++ [(name, default)]).lookup name = some default
  rw [List.lookup_append, show m.boxes.lookup name = none from h]
  exact List.lookup_cons_self

theorem get?_modify_of_ne {m : Mailboxes} {name other : String} (h : other ≠ name)
    (f : Mailbox → Mailbox) : (m.modify name f).get? other = m.get? other := by
  show (m.boxes.map fun p => if p.1 = name then (p.1, f p.2) else p).lookup other
    = m.boxes.lookup other
  induction m.boxes with
  | nil => rfl
  | cons p rest ih =>
    rw [List.map_cons]
    by_cases hp : p.1 = name
    · have hne : (other == p.1) = false := beq_eq_false_iff_ne.mpr (hp ▸ h)
      rw [if_pos hp, List.lookup_cons, List.lookup_cons, hne, ih]
    · rw [if_neg hp, List.lookup_cons, List.lookup_cons, ih]

theorem get?_ensure_self (m : Mailboxes) (name : String) :
    (m.ensure name).get? name = some ((m.get? name).getD default) := by
  cases h : m.get? name with
  | none => exact get?_ensure h
  | some b =>
    show (if (m.get? name).isSome then m else _).get? name = some b
    rw [if_pos (by rw [h]; rfl)]
    exact h

theorem get?_ensure_of_ne {m : Mailboxes} {name other : String} (h : other ≠ name) :
    (m.ensure name).get? other = m.get? other := by
  unfold ensure
  split
  · rfl
  · show (m.boxes ++ [(name, default)]).lookup other = m.boxes.lookup other
    rw [List.lookup_append, List.lookup_cons, beq_eq_false_iff_ne.mpr h]
    exact Option.or_none

/-- A mailbox after deliveries: those for it wait behind what was there, if someone reads it. -/
theorem get?_postAll (m : Mailboxes) (ds : List Delivery) (name : String) :
    (m.postAll ds).get? name = (m.get? name).map fun b =>
      if b.isRead then
        { b with waiting := b.waiting ++ (ds.filter (·.mailbox = name)).map Delivery.snapshot }
      else b := by
  induction ds generalizing m with
  | nil =>
    show m.get? name = _
    cases m.get? name with
    | none => rfl
    | some b => simp
  | cons d ds ih =>
    show ((m.post d).postAll ds).get? name = _
    rw [ih, post]
    by_cases h : name = d.mailbox
    · subst h
      rw [get?_modify, Option.map_map]
      refine congrArg (Option.map · _) (funext fun b => ?_)
      cases hb : b.isRead <;> simp [hb]
    · rw [get?_modify_of_ne h, List.filter_cons_of_neg (by simpa using Ne.symm h)]

/-- Deliveries open or close no mailbox, and no reader comes or goes. -/
theorem reaches_postAll (m : Mailboxes) (ds : List Delivery) :
    (m.postAll ds).reaches = m.reaches := by
  funext name
  unfold reaches
  rw [get?_postAll]
  cases m.get? name with
  | none => rfl
  | some b => cases hb : b.isRead <;> simp [hb]

end Mailboxes

end Switchboard
