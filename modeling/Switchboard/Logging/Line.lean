import Switchboard.Json
import Switchboard.Logging.Filter
/-!
# Log lines

One event as it is logged, and its text in each layout. The time in front of it is left to
whoever prints it.

* `LogLine` — level, target, message and fields.
* `LogLine.standard`, `pretty` — its text; a value with line ends makes it several lines.
* `LogLine.json` — it as an object.
* `LogLine.render` — the lines of output in a layout.
-/

namespace Switchboard

def LogLevel.text : LogLevel → String
  | .error => "ERROR"
  | .warn => "WARN"
  | .info => "INFO"

/-- An event as it is logged. -/
structure LogLine where
  level : LogLevel
  /-- The part of the program that logs it. -/
  target : String
  message : String
  fields : List (String × String) := []
  deriving DecidableEq, Repr, Inhabited

namespace LogLine

/-- The level in a column of five, a blank on either side. -/
def levelColumn (l : LogLevel) : String := " " ++ "".pushn ' ' (5 - l.text.length) ++ l.text ++ " "

/-- Level, target and message. -/
def head (l : LogLine) : String := levelColumn l.level ++ l.target ++ ": " ++ l.message

/-- The event on one line. -/
def standard (l : LogLine) : String :=
  l.head ++ String.join (l.fields.map fun f => " " ++ f.1 ++ "=" ++ f.2)

/-- The event for readers. -/
def pretty (l : LogLine) : String :=
  l.head ++ String.join (l.fields.map fun f => ", " ++ f.1 ++ ": " ++ f.2)

/-- The event as an object. -/
def json (l : LogLine) : Json :=
  .record [("level", .text l.level.text),
    ("fields", .record (("message", .text l.message) :: l.fields.map fun f => (f.1, .text f.2))),
    ("target", .text l.target)]

/-- The lines of output; those for readers are followed by an empty one. -/
def render (layout : LogLayout) (l : LogLine) : List String :=
  match layout with
  | .json => [l.json.render]
  | .pretty => l.pretty.splitOn "\n" ++ [""]
  | .standard => l.standard.splitOn "\n"

/-- Is the event let through? -/
def passes (f : LogFilter) (l : LogLine) : Bool :=
  f.lets l.level l.target ("message" :: l.fields.map (·.1))

end LogLine

end Switchboard
