import Switchboard.Feed
/-!
# Subscribers at work

What subscribers and the owners of mailboxes do with a feed, one step at a time, and what each
step shows them.

* `FeedStep` — the steps; `FeedNote` — what a step shows.
* `Feed.take` — a step is taken.
-/

namespace Switchboard

/-- A step of a subscriber, or of whoever owns a mailbox. -/
inductive FeedStep
  | register (mailbox : String)
  | deregister (id : Nat)
  | dropOwner (mailbox : String)
  | dropReader (mailbox : String)
  | drain (mailbox : String)
  deriving DecidableEq, Repr, Inhabited

/-- What a step shows. -/
inductive FeedNote
  | number (id : Nat)
  | unowned
  | flag (b : Bool)
  | mail (waiting : List Snapshot) (isOpen : Bool)
  | unread
  deriving DecidableEq, Repr, Inhabited

namespace Feed

/-- A step is taken: what it shows, and feed and mailboxes after it. -/
def take (f : Feed) (boxes : Mailboxes) : FeedStep → FeedNote × Feed × Mailboxes
  | .register mailbox =>
    let boxes := boxes.ensure mailbox
    if (boxes.get? mailbox).any (·.isOpen) then
      let (f, d) := f.subscribe mailbox
      (.number d.subscriber, f, boxes.post d)
    else (.unowned, f, boxes)
  | .deregister id => (.flag (f.isSubscribed id), f.unsubscribe id, boxes)
  | .dropOwner mailbox =>
    (.flag ((boxes.get? mailbox).any (·.isOpen)), f, boxes.dropOwner mailbox)
  | .dropReader mailbox =>
    (.flag ((boxes.get? mailbox).any (·.isRead)), f, boxes.dropReader mailbox)
  | .drain mailbox =>
    match (boxes.get? mailbox).filter (·.isRead) with
    | some box => (.mail box.waiting box.isOpen, f, boxes.emptied mailbox)
    | none => (.unread, f, boxes)

/-- What is known does not depend on who hears of it. -/
@[simp] theorem take_state (f : Feed) (boxes : Mailboxes) (s : FeedStep) :
    (f.take boxes s).2.1.state = f.state := by
  cases s with
  | register mailbox =>
    simp only [take]
    cases ((boxes.ensure mailbox).get? mailbox).any (·.isOpen) <;> rfl
  | deregister id | dropOwner mailbox | dropReader mailbox => rfl
  | drain mailbox =>
    simp only [take]
    cases (boxes.get? mailbox).filter (·.isRead) <;> rfl

end Feed

end Switchboard
