import Switchboard.Callee
import Switchboard.Line.Framing
/-!
# Calls by line

A call dials an address, writes its request on the connection, and takes the first line that comes
back. An endpoint that was released fails every call.

* `Connection` — what becomes of dialling an address and writing to it.
* `Peer` — what an address does with the bytes that arrive there, connection by connection.
* `dial` — a request is written on a connection: the bytes that were sent, and what comes of them.
* `Connection.invocation` — the call that a connection makes.
* `callee` — the callee of an address.
-/

namespace Switchboard.Line

/-- What becomes of dialling an address and writing to it. -/
inductive Connection
  | refused (reason : String)
  /-- These pieces come back, and then the connection ends or it does not. -/
  | accepted (pieces : List (List UInt8)) (ends : Bool)
  deriving Repr, Inhabited

/-- What an address does with the n-th connection to it, counted from zero, by the bytes that arrive
on it. -/
abbrev Peer := (nth : Nat) → (arriving : List UInt8) → Connection

/-- An address that nobody listens on. -/
def Peer.absent : Peer := fun _ _ => .refused "Connection refused (os error 111)"

/-- A connection that a request was written on. -/
structure Dialogue where
  /-- The bytes that were sent. -/
  sent : List UInt8
  connection : Connection
  deriving Repr, Inhabited

def Connection.isAccepted : Connection → Bool
  | .refused _ => false
  | .accepted .. => true

/-- A request is written on the n-th connection to an address, if it can be reached. -/
def dial (peer : Peer) (nth : Nat) (request : String) : Dialogue :=
  let connection := peer nth (written request)
  ⟨if connection.isAccepted then written request else [], connection⟩

@[simp] theorem dial_connection (peer : Peer) (nth : Nat) (request : String) :
    (dial peer nth request).connection = peer nth (written request) := rfl

theorem dial_sent {peer : Peer} {nth : Nat} {request : String}
    (h : (dial peer nth request).connection.isAccepted = true) :
    (dial peer nth request).sent = written request := if_pos h

namespace Connection

/-- The fault of an address that cannot be reached. -/
def unreachable (address reason : String) : Fault :=
  .context ("failed to connect to " ++ address) (.message reason)

/-- The fault of a connection that ends without a line. -/
def unanswered (address : String) : Fault :=
  .message (address ++ " closed the connection without answering")

/-- How a call ends; without an outcome it never does. -/
def outcome? (address : String) : Connection → Option Outcome
  | .refused reason => some (.fault (unreachable address reason))
  | .accepted pieces ends =>
    match ({} : Reader).readAll maxLength ends pieces with
    | .done (.ok line) => some (.response line)
    | .done (.error why) => some (.fault (.message why.text))
    | .closed => some (.fault (unanswered address))
    | .waiting => none

/-- The call that a connection makes. -/
def invocation (c : Connection) (address request : String) : Invocation :=
  match c.outcome? address with
  | some outcome => ⟨[.invoked request], some 0, [], outcome⟩
  | none => ⟨[.invoked request], none, [], .response ""⟩

end Connection

/-- The callee of an address. -/
def callee (address : String) (peer : Peer) : Callee := fun nth request =>
  (dial peer nth request).connection.invocation address request

/-- The fault of a call of an endpoint that was released. -/
def releasedFault (address : String) : Fault :=
  .message ("endpoint for " ++ address ++ " was released")

/-- The callee of an address whose endpoint was released. -/
def releasedCallee (address : String) : Callee := .constant (.fault (releasedFault address))

end Switchboard.Line
