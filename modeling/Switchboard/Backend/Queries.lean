import Switchboard.Backend
import Switchboard.Clockwork
/-!
# Many queries at one backend

Queries that were sent at different moments and wait side by side, each for its own answer.

* `Queries` — the backend, the queries that wait, and the answers so far.
* `Queries.ask`, `change` — another query; a change of the catalog.
* `Queries.settle`, `advance` — everything runs until it waits; time goes on.
-/

namespace Switchboard

/-- A query that is not answered yet. -/
structure OpenQuery where
  number : Nat
  query : ServiceQuery
  last : Nat
  inquiry : Inquiry
  deriving DecidableEq, Repr, Inhabited

/-- A query that was answered. -/
structure ClosedQuery where
  number : Nat
  answer : Answer
  moment : Nat
  deriving DecidableEq, Repr, Inhabited

/-- Queries at a backend, numbered from zero as they were sent. -/
structure Queries where
  now : Nat
  backend : Backend
  sent : Nat := 0
  /-- The queries that wait, oldest first. -/
  waiting : List OpenQuery := []
  /-- The queries that were answered, oldest answer first. -/
  answered : List ClosedQuery := []
  deriving Inhabited

namespace Queries

/-- Another query is sent; it has yet to come in. -/
def ask (s : Queries) (q : ServiceQuery) (last : Nat) : Queries :=
  { s with sent := s.sent + 1, waiting := s.waiting ++ [⟨s.sent, q, last, .sent⟩] }

def change (s : Queries) (ch : Catalog.Change) : Queries :=
  { s with backend := s.backend.change ch }

/-- One query runs until it waits or has its answer, in at most `fuel` turns. -/
def runQuery (now : Nat) : Nat → Backend → OpenQuery → Backend × OpenQuery
  | 0, b, o => (b, o)
  | fuel + 1, b, o =>
    match o.inquiry.turns now b.revision with
    | [] => (b, o)
    | t :: _ =>
      let (b, inquiry) := b.progress o.query now o.last o.inquiry t
      runQuery now fuel b { o with inquiry }

/-- The queries run one after the other, oldest first. -/
def runAll (now : Nat) (b : Backend) : List OpenQuery → Backend × List OpenQuery × List ClosedQuery
  | [] => (b, [], [])
  | o :: rest =>
    let (b, o) := runQuery now 3 b o
    let (b, open_, closed) := runAll now b rest
    match o.inquiry.ready? now with
    | some reply => (b, open_, ⟨o.number, reply.toAnswer, now⟩ :: closed)
    | none => (b, o :: open_, closed)

/-- Everything runs until it waits. -/
def settle (s : Queries) : Queries :=
  let (backend, waiting, closed) := runAll s.now s.backend s.waiting
  { s with backend, waiting, answered := s.answered ++ closed }

def timer? (s : Queries) : Option Nat :=
  (s.waiting.filterMap fun o => o.inquiry.timer?).min?

def clockwork : Clockwork Queries := ⟨now, timer?, fun moment s => { s with now := moment }, settle⟩

/-- The queries after `ms` more milliseconds; each of them gives up at most once. -/
def advance (ms : Nat) (s : Queries) : Queries := clockwork.advance ms (s.waiting.length + 1) s

end Queries

end Switchboard
