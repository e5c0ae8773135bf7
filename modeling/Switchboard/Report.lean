import Switchboard.Agent.Exchange
import Switchboard.Callee
import Switchboard.CommandLine
import Switchboard.Fault
import Switchboard.Feed.Session
import Switchboard.Logging.Line
import Switchboard.Pool
import Switchboard.Retry
import Switchboard.Service.Form
import Switchboard.Settings.Reader
import Switchboard.Tally
/-!
# Values in JSON

How values of the library are written for other tools: a failure with its kind, a fault with its
chain, a duration as its seconds and nanoseconds, counters only if they moved.

Every type has its `toJson`; where the type is not one of the library, the function is named for
what is written.
-/

namespace Switchboard

/-- A value that may be missing. -/
def Json.maybe {α : Type} (f : α → Json) : Option α → Json
  | none => .null
  | some a => f a

/-- The members of two records in one. -/
def Json.merge : Json → Json → Json
  | .record a, .record b => .record (a ++ b)
  | a, _ => a

/-- Whole seconds, and the nanoseconds beyond them. -/
def Duration.toJson (d : Duration) : Json := .list [.natural d.seconds, .natural d.subsecond]

def Tally.toJson (t : Tally) : Json := .record (t.moved.map fun p => (p.1, .natural p.2))

/-! ## Failures and faults -/

/-- The kind of a failure, and what belongs to it. -/
def DiscoveryFailure.toJson : DiscoveryFailure → Json
  | .transport m => .record [("kind", .text "transport"), ("message", .text m)]
  | .status c m => .record [("kind", .text "status"), ("code", .natural c), ("message", .text m)]
  | .codec m => .record [("kind", .text "codec"), ("message", .text m)]
  | .stopped => .record [("kind", .text "stopped")]

/-- A failure, and with it its wording. -/
def DiscoveryFailure.toErrorJson (why : DiscoveryFailure) : Json :=
  .record [("error", why.toJson), ("message", .text why.text)]

/-- The text of a fault, and its chain. -/
def Fault.toJson (f : Fault) : Json :=
  .record [("display", .text f.text), ("chain", .texts f.chain)]

/-- The name of a kind of failed calls. -/
def CallFailure.kind : CallFailure → String
  | .noEndpoints => "no_endpoints"
  | .deadlineExceeded => "deadline_exceeded"
  | .cancelled => "cancelled"
  | .exhausted .. => "retry"
  | .discovery _ => "discovery"

/-- What belongs to a kind of failed calls. -/
def CallFailure.parts : CallFailure → List (String × Json)
  | .exhausted raw final =>
    [("attempts", .natural raw.length), ("raw", .list (raw.map Fault.toJson)),
      ("final", .maybe Fault.toJson final)]
  | .discovery why => [("discovery", why.toJson)]
  | _ => []

/-- A failed call: its kind, its text and that of its cause, and what can be asked of it. -/
def CallFailure.toJson (f : CallFailure) : Json :=
  .record ([("error", .text f.kind), ("message", .text f.text), ("source", .optional f.source?),
    ("is", .list [.bool f.isNoEndpoints, .bool f.isDeadlineExceeded, .bool f.isCancelled])]
    ++ f.parts)

/-- What a call comes to. -/
def Retry.resultJson : CallResult → Json
  | .ok text => .record [("ok", .text text)]
  | .error f => f.toJson

/-- What can be observed of a call on its way, apart from what is only counted. -/
def CallEvent.toJson? : CallEvent → Option Json
  | .invoked request => some (.texts ["inner", request])
  | .entered layer request => some (.texts ["in", layer, request])
  | .left layer ok => some (.list [.text "out", .text layer, .bool ok])
  | .counted .. => none

/-! ## Discovery -/

def Snapshot.toJson : Snapshot → Json
  | .instances addrs => .texts addrs
  | .failure why => why.toJson

def FeedNote.toJson : FeedNote → Json
  | .number id => .natural id
  | .unowned => .text "no sender"
  | .flag b => .bool b
  | .mail waiting isOpen =>
    .record [("got", .list (waiting.map Snapshot.toJson)),
      ("channel", .text (if isOpen then "open" else "closed"))]
  | .unread => .text "no receiver"

/-- The instances with the index, or the failure. -/
def Answer.toJson : Answer → Json
  | .found instances index =>
    .record [("instances", .texts instances), ("index", .natural index)]
  | .failed why => why.toErrorJson

/-- A request to the agent as the other side sees it. -/
def Agent.Request.toJson (r : Agent.Request) : Json :=
  .record [("method", .text r.method.text), ("target", .text r.url.target),
    ("token", .optional (r.token.map Agent.fieldValue)),
    ("content_type", .optional (r.body.map fun _ => "application/json")),
    ("body", r.body.getD (.text ""))]

/-- An entry of the agent's list. -/
def Agent.Entry.toJson (e : Agent.Entry) : Json :=
  .record [("node", .texts [e.node.name, e.node.address]), ("id", .text e.service.id),
    ("service", .text e.service.service), ("tags", .maybe .texts e.service.tags),
    ("address", .text e.service.address), ("port", .natural e.service.port)]

/-! ## Endpoints -/

/-- An endpoint by address and serial number. -/
def Endpoint.label (e : Endpoint) : String := e.address ++ "#" ++ toString e.serial

/-- The endpoints that were built, and the addresses that could not be dialled. -/
def PoolEvent.builds (events : List PoolEvent) : List String :=
  events.filterMap fun
    | .built e => some e.endpoint.label
    | .refused a => some ("failed " ++ a)
    | .released _ => none

/-- The endpoints whose handles were released, by a text of each. -/
def PoolEvent.releases (text : Endpoint → String) (events : List PoolEvent) : List String :=
  ascending (events.filterMap fun
    | .released e => some (text e)
    | _ => none)

/-! ## Settings and arguments -/

def Backoff.toJson (b : Backoff) : Json :=
  .record [("floor", b.floor.toJson), ("cap", b.cap.toJson), ("current", b.current.toJson)]

def RetryMode.toJson : RetryMode → Json
  | .maxAttempts n => .record [("max_attempts", .natural n)]
  | .forever => .text "forever"

/-- Settings, with the query that they make for a service, and the first decisions of their
policy. -/
def Settings.toJson (s : Settings) (service : String) : Json :=
  .record [("invalidate_on_error", .bool s.grace.isSome),
    ("invalidate_timeout", (s.grace.getD .zero).toJson), ("retry", s.mode.toJson),
    ("policy", .list ((List.range 5).map fun i =>
      .bool (s.policy (i + 1) (.message "attempt failed")).1)),
    ("timeout", s.timeout.toJson), ("backoff", s.backoff.toJson),
    ("query", (s.query service).toJson), ("default", .bool (s == .standard)),
    ("path", .bool s.path.isSome)]

/-- Why settings cannot be read. -/
def Settings.ReadFault.toJson : Settings.ReadFault → Json
  | .unreadable path _ =>
    .record [("error", .text "io"), ("message", .text (Settings.missingMessage path))]
  | .notText => .record [("error", .text "io")]
  | .json => .record [("error", .text "json")]
  | .yaml => .record [("error", .text "yaml")]
  | .invalid why => .record [("error", .text "invalid"), ("message", .text why.message)]

def ServiceArgs.toJson (s : ServiceArgs) : Json :=
  .record [("service", .text s.service), ("tags", .texts s.tags),
    ("passing_only", .bool s.passingOnly)]

def Command.toJson : Command → Json
  | .watch s => .record [("watch", s.toJson)]
  | .call s payload ms =>
    .record [("call", s.toJson), ("payload", .text payload), ("interval_ms", .natural ms)]
  | .register r =>
    .record [("register", .record [("name", .text r.name), ("address", .text r.address),
      ("port", .natural r.port), ("id", .optional r.id), ("tags", .texts r.tags)])]

def CommandLine.toJson (c : CommandLine) : Json :=
  .record [("consul_addr", .text c.consulAddr), ("consul_token", .optional c.consulToken),
    ("datacenter", .optional c.datacenter), ("config_path", .optional c.configPath),
    ("thread_name", .text c.threadName), ("threads", .maybe .natural c.threads),
    ("relay_log", .text c.logFilter), ("command", c.command.toJson),
    ("interval", .maybe Duration.toJson c.command.interval?)]

/-! ## Log lines -/

/-- A log line without its target. -/
def LogLine.toJson (l : LogLine) : Json :=
  .record [("level", .text l.level.text), ("message", .text l.message),
    ("fields", .record (l.fields.map fun f => (f.1, .text f.2)))]

end Switchboard
