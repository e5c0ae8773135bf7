import Switchboard.Agent.Exchange
import Switchboard.Catalog
import Switchboard.Fault
/-!
# Backends and the queries they answer

Who answers discovery queries, and what a query goes through on its way: it comes in, perhaps
waits at the catalog, and is answered.

* `Backend` — the catalog, the agent, or a script of replies.
* `Inquiry` — where a query that was sent stands.
* `QueryTurn` — what can happen to it next; `Inquiry.turns` lists what can happen now.
* `Backend.progress` — what happens then.

A query that waits looks at the catalog again only after the catalog was written to. That it
misses nothing between its look and its wait is a consequence of `QueryTurn.notice`, not an
assumption.
-/

namespace Switchboard

/-- What a query comes to. -/
inductive Reply
  | answer (a : Answer)
  | panic (message : String)
  deriving DecidableEq, Repr, Inhabited

namespace Reply

def toAnswer : Reply → Answer
  | .answer a => a
  | .panic message =>
    .failed (.transport ("discovery query task failed: " ++ Fault.panicText message))

end Reply

/-- A reply of a script, after a delay in milliseconds. -/
structure ScriptedReply where
  delay : Nat
  reply : Reply
  deriving DecidableEq, Repr, Inhabited

/-- Who answers the queries. -/
inductive Backend
  /-- A query that waits at the catalog gives up after `patience` milliseconds, if that is set. -/
  | catalog (c : Catalog) (patience : Option Nat)
  /-- The agent, on a network that takes no time. -/
  | agent (client : Agent.Client) (network : Agent.Network)
  /-- One reply per query, in order; queries beyond the last are never answered. -/
  | script (replies : List ScriptedReply)

instance : Inhabited Backend := ⟨.script []⟩

/-- Where a query that was sent stands. -/
inductive Inquiry
  | sent
  /-- It waits at the catalog, which it saw at a revision, perhaps until a moment. -/
  | parked (seen : Nat) (giveUpAt : Option Nat)
  /-- Its reply is ready at a moment; without one it never is. -/
  | replied (due : Option Nat) (reply : Reply)
  deriving DecidableEq, Repr, Inhabited

/-- What can happen to a query. -/
inductive QueryTurn
  | arrive
  | notice
  | expire
  deriving DecidableEq, Repr, Inhabited

/-- Is there a moment, and has it come? -/
def hasCome (now : Nat) : Option Nat → Bool
  | some moment => moment ≤ now
  | none => false

namespace Inquiry

/-- What can happen to a query now, with the catalog at a revision. -/
def turns (i : Inquiry) (now revision : Nat) : List QueryTurn :=
  match i with
  | .sent => [.arrive]
  | .parked seen giveUpAt =>
    (if seen ≠ revision then [.notice] else [])
      ++ (if hasCome now giveUpAt then [.expire] else [])
  | .replied .. => []

/-- The reply of a query, if it is ready. -/
def ready? (i : Inquiry) (now : Nat) : Option Reply :=
  match i with
  | .replied due reply => if hasCome now due then some reply else none
  | _ => none

/-- The moment at which a timer of the query goes off. -/
def timer? : Inquiry → Option Nat
  | .sent => none
  | .parked _ giveUpAt => giveUpAt
  | .replied due _ => due

end Inquiry

namespace Backend

/-- The catalog; other backends have an empty one. -/
def theCatalog : Backend → Catalog
  | .catalog c _ => c
  | .agent .. | .script _ => .empty

/-- A query comes in at a moment: the backend after it, and where the query then stands. -/
def enter (b : Backend) (q : ServiceQuery) (now last : Nat) : Backend × Inquiry :=
  match b with
  | .catalog c patience =>
    let (c, answer) := c.enter q last
    (.catalog c patience,
      match answer with
      | some a => .replied (some now) (.answer a)
      | none => .parked c.revision (patience.map (now + ·)))
  | .agent client network =>
    (b, .replied (some now) (.answer (client.query network q last)))
  | .script [] => (.script [], .replied none (.panic ""))
  | .script (r :: rest) => (.script rest, .replied (some (now + r.delay)) r.reply)

def revision : Backend → Nat
  | .catalog c _ => c.revision
  | .agent .. | .script _ => 0

/-- What a query that was woken sees. -/
def look (b : Backend) (q : ServiceQuery) (last : Nat) : Option Answer :=
  match b with
  | .catalog c _ => c.look q last
  | .agent .. | .script _ => none

/-- The answer to a query that gave up waiting. -/
def current (b : Backend) (q : ServiceQuery) : Answer :=
  match b with
  | .catalog c _ => c.current q
  | .agent .. | .script _ => .found [] noIndex

def progress (b : Backend) (q : ServiceQuery) (now last : Nat) (i : Inquiry) :
    QueryTurn → Backend × Inquiry
  | .arrive => b.enter q now last
  | .notice =>
    match i with
    | .parked _ giveUpAt =>
      match b.look q last with
      | some a => (b, .replied (some now) (.answer a))
      | none => (b, .parked b.revision giveUpAt)
    | i => (b, i)
  | .expire => (b, .replied (some now) (.answer (b.current q)))

def change (b : Backend) (ch : Catalog.Change) : Backend :=
  match b with
  | .catalog c patience => .catalog (c.apply ch) patience
  | .agent client network => .agent client network
  | .script replies => .script replies

/-- A query that does not wait: the backend after it, and the answer, if it is there at once. -/
def askNow (b : Backend) (q : ServiceQuery) (now : Nat) : Backend × Option Answer :=
  let (b, i) := b.enter q now noIndex
  (b, (i.ready? now).map Reply.toAnswer)

def queries : Backend → Nat
  | .catalog c _ => c.queries
  | .agent .. | .script _ => 0

/-- The number of queries that the backend has something in store for. -/
def stock : Backend → Nat
  | .catalog c _ => c.queued.length
  | .agent .. => 0
  | .script replies => replies.length

end Backend

end Switchboard
