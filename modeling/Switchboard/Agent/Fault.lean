import Switchboard.Failure
/-!
# Faults of the agent's client

What goes wrong between the client and the agent, and the discovery failure that it is to
everyone else.

* `AgentFault` — the kinds, with `text` and `isRetryable`.
* `AgentFault.toFailure` — the discovery failure.
-/

namespace Switchboard.Agent

/-- A fault in talking to the agent. -/
inductive AgentFault
  | transport (message : String)
  | status (code : Nat) (message : String)
  | codec (message : String)
  | badIndex (shown : String)
  | configuration (message : String)
  deriving DecidableEq, Repr, Inhabited

namespace AgentFault

def text : AgentFault → String
  | .transport message => "transport error: " ++ message
  | .status code message => "unexpected status " ++ toString code ++ ": " ++ message
  | .codec message => "codec error: " ++ message
  | .badIndex shown => "invalid index header: " ++ shown
  | .configuration message => "configuration error: " ++ message

/-- May the fault go away by itself? -/
def isRetryable : AgentFault → Bool
  | .transport _ => true
  | .status code _ => 500 ≤ code
  | .codec _ | .badIndex _ | .configuration _ => false

/-- The discovery failure that a fault is. -/
def toFailure : AgentFault → DiscoveryFailure
  | .transport message => .transport message
  | .configuration message => .transport message
  | .status code message => .status code message
  | .codec message => .codec message
  | .badIndex shown => .codec (AgentFault.badIndex shown).text

end AgentFault

end Switchboard.Agent
