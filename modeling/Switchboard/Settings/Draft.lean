import Switchboard.Document
import Switchboard.Duration.Grammar
/-!
# Settings as they are written

The settings of a resolver before they are checked against each other: everything may be left
out. Records are closed, so that a misspelt name is a fault.

* `Draft` — the settings, with `DraftRetry`, `DraftBackoff` and `DraftDiscovery`.
* `asDuration` — a duration, in whole seconds or as text.
* `Draft.ofDocument` — the settings that a document holds.
-/

namespace Switchboard

/-- A number of attempts: at least one. -/
structure Attempts where
  count : Nat
  count_pos : 0 < count
  deriving DecidableEq, Repr

/-- How calls are tried again: a number of attempts, or without end. -/
structure DraftRetry where
  maxAttempts : Option Attempts := none
  forever : Bool := false
  deriving DecidableEq, Repr, Inhabited

/-- The bounds of the delays between attempts. -/
structure DraftBackoff where
  floor : Option Duration := none
  cap : Option Duration := none
  deriving DecidableEq, Repr, Inhabited

/-- The filters on instances. -/
structure DraftDiscovery where
  tags : List String := []
  passingOnly : Bool := false
  deriving DecidableEq, Repr, Inhabited

/-- The settings of a resolver as they are written. -/
structure Draft where
  /-- How long endpoints outlive a failure of discovery; for ever if it is left out. -/
  invalidateOnError : Option Duration := none
  retry : DraftRetry := {}
  timeout : Option Duration := none
  backoff : DraftBackoff := {}
  discovery : DraftDiscovery := {}
  deriving DecidableEq, Repr, Inhabited

namespace Draft

/-- A duration: a number of seconds, or a text that denotes one. -/
def asDuration : Document → Option Duration
  | .leaf ⟨.natural n, _, _⟩ => some (.ofSeconds n)
  | .leaf ⟨.text s, _, _⟩ => (Duration.read s).toOption
  | _ => none

def asOptionalDuration (d : Document) : Option (Option Duration) := d.asOptional asDuration

def asAttempts (d : Document) : Option Attempts :=
  match d.asNatural Text.maxWord64 with
  | some n => if h : 0 < n then some ⟨n, h⟩ else none
  | none => none

/-- How calls are tried again. Written as a list, the number of attempts has to stand in it. -/
def asRetry (d : Document) : Option DraftRetry := do
  let f ← d.fields ["max_attempts", "forever"] false
  return {
    maxAttempts := ← f.optional 0 asAttempts
    forever := ← f.defaulted 1 Document.asTruth false }

def asBackoff (d : Document) : Option DraftBackoff := do
  let f ← d.fields ["floor", "cap"] false
  return {
    floor := ← f.defaulted 0 asOptionalDuration none
    cap := ← f.defaulted 1 asOptionalDuration none }

def asDiscovery (d : Document) : Option DraftDiscovery := do
  let f ← d.fields ["tags", "passing_only"] false
  return {
    tags := ← f.defaulted 0 (Document.asList Document.asText) []
    passingOnly := ← f.defaulted 1 Document.asTruth false }

/-- The settings that a document holds. -/
def ofDocument (d : Document) : Option Draft := do
  let f ← d.fields ["invalidate_on_error", "retry", "timeout", "backoff", "discovery"] false
  return {
    invalidateOnError := ← f.defaulted 0 asOptionalDuration none
    retry := ← f.defaulted 1 asRetry {}
    timeout := ← f.defaulted 2 asOptionalDuration none
    backoff := ← f.defaulted 3 asBackoff {}
    discovery := ← f.defaulted 4 asDiscovery {} }

end Draft

end Switchboard
