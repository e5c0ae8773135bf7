import Switchboard.Retry
import Switchboard.Service
import Switchboard.Settings.Draft
/-!
# Settings of a resolver

The settings that calls are made with, checked against each other, and what the rest of the
library takes from them.

* `RetryMode` — so many attempts, or without end.
* `Settings` — the settings; `Settings.standard` — those for which nothing is written.
* `SettingsFault` — why written settings do not go together.
* `Settings.ofDraft` — the check.
* `Settings.query`, `policy`, `retry`, `grace` — what discovery, calls and pools take from them.
* `Settings.merge` — more filters, given on the command line.
-/

namespace Switchboard

/-- How a call is tried again. -/
inductive RetryMode
  /-- It stops after this many attempts. -/
  | maxAttempts (max : Nat)
  /-- Only the timeout stops it. -/
  | forever
  deriving DecidableEq, Repr, Inhabited

namespace RetryMode

def outline : RetryMode → Text.Outline
  | .maxAttempts n => .tuple "MaxAttempts" [.ofNat n]
  | .forever => .atom "Forever"

def standardAttempts : Nat := 3

end RetryMode

/-- The settings of a resolver. -/
structure Settings where
  /-- How long endpoints outlive a failure of discovery, unless for ever. -/
  grace : Option Duration := none
  mode : RetryMode := .maxAttempts RetryMode.standardAttempts
  timeout : Duration := .ofSeconds 1
  backoff : Backoff := .standard
  tags : List String := []
  passingOnly : Bool := false
  path : Option String := none
  deriving DecidableEq, Repr

namespace Settings

def standard : Settings := {}

instance : Inhabited Settings := ⟨standard⟩

def standardTimeout : Duration := .ofSeconds 1

end Settings

/-- Why written settings do not go together. -/
inductive SettingsFault
  /-- A number of attempts is given, and also that there is no end to them. -/
  | bothModes
  | noTimeout
  | noFloor
  | capBelowFloor (cap floor : Duration)
  deriving DecidableEq, Repr, Inhabited

def SettingsFault.message : SettingsFault → String
  | .bothModes => "retry: `max_attempts` and `forever` are mutually exclusive"
  | .noTimeout => "timeout must be greater than zero"
  | .noFloor => "backoff floor must be greater than zero"
  | .capBelowFloor cap floor => "backoff cap " ++ cap.text ++ " is below floor " ++ floor.text

namespace Settings

/-- The mode that is written, if it is one. -/
def modeOf (r : DraftRetry) : Except SettingsFault RetryMode :=
  match r.maxAttempts, r.forever with
  | some _, true => .error .bothModes
  | some n, false => .ok (.maxAttempts n.count)
  | none, true => .ok .forever
  | none, false => .ok (.maxAttempts RetryMode.standardAttempts)

/-- The settings that are written, with the standard ones for what is left out, if they go
together. -/
def ofDraft (d : Draft) : Except SettingsFault Settings := do
  let mode ← modeOf d.retry
  let timeout := d.timeout.getD standardTimeout
  if timeout.isZero then throw .noTimeout
  let floor := d.backoff.floor.getD Backoff.defaultFloor
  let cap := d.backoff.cap.getD Backoff.defaultCap
  if floor.isZero then throw .noFloor
  if cap < floor then throw (.capBelowFloor cap floor)
  return {
    grace := d.invalidateOnError
    mode, timeout
    backoff := .start floor cap
    tags := d.discovery.tags
    passingOnly := d.discovery.passingOnly }

/-! ## What is taken from settings -/

/-- The query for a service, with the filters of the settings. -/
def query (s : Settings) (service : String) : ServiceQuery :=
  { service, tags := s.tags, passingOnly := s.passingOnly }

/-- The decision after a failed attempt. -/
def policy (s : Settings) : Policy :=
  match s.mode with
  | .maxAttempts n => .maxAttempts n
  | .forever => .always

/-- How calls are tried again. -/
def retry (s : Settings) : Retry := ⟨s.timeout, s.policy, s.backoff⟩

/-! ## More filters -/

/-- Tags with another behind them, unless it is among them. -/
def addTag (tags : List String) (t : String) : List String :=
  if tags.contains t then tags else tags ++ [t]

/-- The settings with more tags and maybe the filter on health, which is never switched off. -/
def merge (s : Settings) (tags : List String) (passingOnly : Bool) : Settings :=
  { s with tags := tags.foldl addTag s.tags, passingOnly := s.passingOnly || passingOnly }

end Settings

end Switchboard
