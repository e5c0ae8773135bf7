import Switchboard.Duration
import Switchboard.Text.Blank
import Switchboard.Text.Numeral
import Switchboard.Text.Quoted
/-!
# Durations as text

How durations are written in settings: a whole number and a unit, `250ms`, `10s`, `5m`, `1h`;
a number alone counts seconds. Blanks are allowed around the text and in front of the unit.
The value has to stay below 2^64 milliseconds.

* `Unit` — the units, with their spelling and their length.
* `Fault` — why a text is no duration, in the order in which faults are looked for.
* `read` — the reader.
* `write` — a number of units as text, the other side of `read`.
-/

namespace Switchboard.Duration

/-- A unit of time that may follow a number. -/
inductive Unit
  | milli
  | second
  | minute
  | hour
  deriving DecidableEq, Repr, Inhabited

namespace Unit

def millis : Unit → Nat
  | .milli => 1
  | .second => 1000
  | .minute => 60000
  | .hour => 3600000

def symbol : Unit → String
  | .milli => "ms"
  | .second => "s"
  | .minute => "m"
  | .hour => "h"

/-- The unit that a text names; no text at all names the second. -/
def ofSymbol? : List Char → Option Unit
  | ['m', 's'] => some .milli
  | [] => some .second
  | ['s'] => some .second
  | ['m'] => some .minute
  | ['h'] => some .hour
  | _ => none

/-- A unit is the one its symbol names. -/
theorem ofSymbol?_symbol (u : Unit) : ofSymbol? u.symbol.toList = some u := by
  cases u <;> rfl

end Unit

/-- Why a text is not a duration. -/
inductive Fault
  | empty
  /-- What stands in front of the unit is no number of 64 bits. -/
  | number (cause : Text.NumeralFault)
  | unit (found : String)
  /-- The value has more than 64 bits of milliseconds. -/
  | overflow
  deriving DecidableEq, Repr, Inhabited

namespace Fault

def message : Fault → String
  | .empty => "empty duration string"
  | .number _ => "invalid number"
  | .unit found =>
    "unknown time unit '" ++ found ++ "', only 'h', 'm', 's' or 'ms' are supported"
  | .overflow => "duration value overflow"

/-- The wording of a fault and of what caused it, outermost first. -/
def chain (f : Fault) : List String :=
  match f with
  | .number cause => [f.message, cause.message]
  | _ => [f.message]

end Fault

/-- Reads what is left after trimming: digits, blanks, a unit. -/
def readTrimmed (cs : List Char) : Except Fault Duration :=
  if cs.isEmpty then .error .empty
  else
    match Text.readNatural Text.maxWord64 (cs.takeWhile Text.isDigit) with
    | .error cause => .error (.number cause)
    | .ok n =>
      let unit := Text.trimBlank (cs.dropWhile Text.isDigit)
      match Unit.ofSymbol? unit with
      | none => .error (.unit (String.ofList unit))
      | some u =>
        if Text.maxWord64 < n * u.millis then .error .overflow
        else .ok (ofMillis (n * u.millis))

/-- The duration that a text denotes. -/
def read (s : String) : Except Fault Duration := readTrimmed (Text.trimBlank s.toList)

/-- A number of units as text. -/
def write (n : Nat) (u : Unit) : String := toString n ++ u.symbol

end Switchboard.Duration
