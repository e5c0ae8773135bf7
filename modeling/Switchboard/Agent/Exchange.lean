import Switchboard.Agent.Reply
/-!
# Exchanges with the agent

Requests on their way and what comes back. A reply may send the client elsewhere; it follows for
some steps, and every request that was answered on the way is kept.

* `Network` — who answers requests.
* `Request.redirected?` — where a reply sends the client.
* `Exchange` — the requests that were answered, and the reply in the end.
* `Client.exchange`, `Client.query`, `Client.announce`, `Client.withdraw` — what a client does.
-/

namespace Switchboard.Agent

/-- Whoever answers requests, or does not. -/
abbrev Network := Request → Option Reply

/-- A network in which every connection is refused. -/
def Network.refusing : Network := fun _ => none

/-! ## Redirects -/

/-- The statuses that send the client elsewhere, to do the same there. -/
def sameElsewhere : List Nat := [307, 308]

/-- The statuses that send the client elsewhere, to look there. -/
def lookElsewhere : List Nat := [301, 302, 303]

/-- The header that tells where. -/
def locationHeader : String := "location"

/-- The request that a reply to a request sends the client to make: where the location leads from
the URL of that request, unless no request can name the place. -/
def Request.redirected? (r : Request) (reply : Reply) : Option Request := do
  let goesOn := sameElsewhere.contains reply.status
  if !goesOn && !lookElsewhere.contains reply.status then none
  let location ← Text.textOf? (← reply.header? locationHeader)
  let url ← (r.url.resolve location).filter Url.isSendable
  return if goesOn then { r with url } else { r with url, method := .get, body := none }

def maxRedirects : Nat := 10

/-- The fault of a client that was sent elsewhere too often. -/
def AgentFault.astray (url : Url) : AgentFault :=
  .transport ("error following redirect for url (" ++ url.text ++ ")")

/-! ## Exchanges -/

/-- The requests that were answered, and what came of it. -/
structure Exchange where
  answered : List Request := []
  result : Except AgentFault Reply
  deriving Repr

/-- A request is sent, and up to so many redirects are followed. -/
def Exchange.run (network : Network) : Nat → Request → Exchange
  | redirects, request =>
    match network request with
    | none => { result := .error (.unanswered request.url) }
    | some reply =>
      if !reply.isReadable then
        { answered := [request], result := .error (.unanswered request.url) }
      else
        match request.redirected? reply with
        | none => { answered := [request], result := .ok reply }
        | some next =>
          if !next.url.isHttp then
            { answered := [request], result := .error (.unsendable next.url) }
          else
            match redirects with
            | 0 => { answered := [request], result := .error (.astray next.url) }
            | redirects + 1 =>
              let rest := run network redirects next
              { rest with answered := request :: rest.answered }

namespace Client

/-- A request is made and sent, and its reply comes back. -/
def exchange (network : Network) (request : Except AgentFault Request) : Exchange :=
  match request with
  | .error fault => { result := .error fault }
  | .ok request => .run network maxRedirects request

def query (c : Client) (network : Network) (q : ServiceQuery) (last : Nat) : Answer :=
  match (exchange network (c.listing q last)).result.bind (·.listed q) with
  | .ok (instances, index) => .found instances index
  | .error fault => .failed fault.toFailure

/-- What becomes of a request that asks for nothing back. -/
def outcome (network : Network) (request : Except AgentFault Request) :
    Option DiscoveryFailure :=
  match (exchange network request).result.bind Reply.checked with
  | .ok _ => none
  | .error fault => some fault.toFailure

/-- Announces an instance: the failure, if it fails. -/
def announce (c : Client) (network : Network) (r : Registration) : Option DiscoveryFailure :=
  outcome network (c.announcing r)

/-- Withdraws an instance: the failure, if it fails. -/
def withdraw (c : Client) (network : Network) (r : Registration) : Option DiscoveryFailure :=
  outcome network (c.withdrawing r.id)

end Client

end Switchboard.Agent
