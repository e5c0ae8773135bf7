import Switchboard.Agent.Announcement
import Switchboard.Agent.Fault
import Switchboard.Agent.Url.Reading
import Switchboard.Agent.Url.Sendable
import Switchboard.Duration
/-!
# Requests to the agent

The requests that a client makes of the agent: one to list the instances of a service, one to
announce an instance, and one to withdraw it.

* `Client` — where the agent is, and what every request to it carries.
* `Request` — method, URL, token and body.
* `Client.listing`, `Client.announcing`, `Client.withdrawing` — the three requests, or the fault
  for which one cannot be made.
* `fieldValue` — what the other side sees of the value of a header.
-/

namespace Switchboard.Agent

/-- How to reach the agent. -/
structure Client where
  /-- The URL that all paths are put behind. -/
  address : String
  token : Option String := none
  datacenter : Option String := none
  /-- How long the agent may let a listing wait. -/
  patience : Duration := .ofSeconds 300
  deriving DecidableEq, Repr, Inhabited

/-- What a request wants to do. -/
inductive Method
  | get
  | put
  deriving DecidableEq, Repr, Inhabited

def Method.text : Method → String
  | .get => "GET"
  | .put => "PUT"

/-- A request to the agent. -/
structure Request where
  method : Method
  url : Url
  token : Option String
  /-- The body, if there is one; it is always JSON. -/
  body : Option Json
  deriving Repr, Inhabited

/-! ## Headers -/

/-- May the character stand in the value of a header? -/
def isHeaderChar (c : Char) : Bool := (32 ≤ c.toNat && c.toNat != 127) || c == '\t'

def isHeaderValue (s : String) : Bool := s.toList.all isHeaderChar

def isHeaderBlank (c : Char) : Bool := c == ' ' || c == '\t'

/-- The value of a header as the other side sees it: white space at its ends is no part of it. -/
def fieldValue (s : String) : String :=
  String.ofList ((s.toList.dropWhile isHeaderBlank).reverse.dropWhile isHeaderBlank).reverse

/-! ## Making requests -/

namespace AgentFault

/-- The fault of a request that cannot be made. -/
def unbuildable : AgentFault := .transport "builder error"

/-- The fault of a request to a URL that no request can be sent to. -/
def unsendable (url : Url) : AgentFault :=
  .transport ("builder error for url (" ++ url.text ++ ")")

/-- The fault of a request that nobody answers. -/
def unanswered (url : Url) : AgentFault :=
  .transport ("error sending request for url (" ++ url.text ++ ")")

end AgentFault

namespace Client

/-- The text without the slashes at its end. -/
def withoutSlashes (s : String) : String :=
  String.ofList (s.toList.reverse.dropWhile (· == '/')).reverse

def location (c : Client) (path : String) : String :=
  withoutSlashes c.address ++ "/v1/" ++ path

/-- The pair that names the datacenter. -/
def datacenterPairs (c : Client) : List (String × String) :=
  match c.datacenter with
  | none => []
  | some dc => [("dc", dc)]

/-- Can requests be sent to the URL at all? -/
def canSend (url : Url) : Bool := url.isHttp && url.isSendable

/-- A request for a path, with pairs in its query beside the datacenter. -/
def request (c : Client) (method : Method) (path : String) (pairs : List (String × String))
    (body : Option Json) : Except AgentFault Request :=
  match Url.read (c.location path) with
  | none => .error .unbuildable
  | some url =>
    if !url.namesHost then .error (.unsendable url)
    else if !c.token.all isHeaderValue then .error .unbuildable
    else
      let url := url.withoutCredentials.withPairs (c.datacenterPairs ++ pairs)
      if canSend url then .ok { method, url, token := c.token, body }
      else .error (.unsendable url)

/-- How long the agent may let a listing wait, as the agent reads it. -/
def waitText (c : Client) : String := toString (c.patience.nanos / Duration.perMilli) ++ "ms"

/-- The pairs of a listing: an index to wait for, unless it is that of no answer, the filter on
health, and the first of the tags. -/
def listingPairs (c : Client) (q : ServiceQuery) (index : Nat) : List (String × String) :=
  (if index = noIndex then [] else [("index", toString index), ("wait", c.waitText)])
    ++ (if q.passingOnly then [("passing", "true")] else [])
    ++ (q.tags.head?.map fun t => ("tag", t)).toList

/-- The request to list the instances of a service. -/
def listing (c : Client) (q : ServiceQuery) (index : Nat) : Except AgentFault Request :=
  c.request .get ("health/service/" ++ q.service) (c.listingPairs q index) none

def announcing (c : Client) (r : Registration) : Except AgentFault Request :=
  c.request .put "agent/service/register" [] (some (Announcement.ofRegistration r).toJson)

def withdrawing (c : Client) (id : String) : Except AgentFault Request :=
  c.request .put ("agent/service/deregister/" ++ id) [] none

end Client

end Switchboard.Agent
