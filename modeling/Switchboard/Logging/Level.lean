import Switchboard.Logging.Layout
import Switchboard.Text.Numeral
/-!
# Levels and thresholds

How important a log line is, and how far down in importance lines are let through.

* `LogLevel` — how important a line is.
* `LogThreshold` — from nothing at all down to everything.
* `LogThreshold.read` — a threshold by its name or number.
* `LogThreshold.lets` — is a line of a level let through?
-/

namespace Switchboard

/-- How important a log line is. -/
inductive LogLevel
  | error
  | warn
  | info
  deriving DecidableEq, Repr, Inhabited

/-- How far down in importance lines are let through. -/
inductive LogThreshold
  | off
  | error
  | warn
  | info
  | debug
  | trace
  deriving DecidableEq, Repr, Inhabited

namespace LogThreshold

def text : LogThreshold → String
  | .off => "off"
  | .error => "error"
  | .warn => "warn"
  | .info => "info"
  | .debug => "debug"
  | .trace => "trace"

def all : List LogThreshold := [.off, .error, .warn, .info, .debug, .trace]

/-- The threshold of a name, in capitals or not, or of a number. -/
def read (s : String) : Option LogThreshold :=
  match Text.readNatural Text.maxWord64 s.toList with
  | .ok n => all[n]?
  | .error _ => all.find? fun t => t.text == LogLayout.lowered s

/-- Is a line of this level let through? -/
def lets : LogThreshold → LogLevel → Bool
  | .off, _ => false
  | .error, level => level == .error
  | .warn, level => level != .info
  | _, _ => true

end LogThreshold

end Switchboard
