import Switchboard.Fault
import Switchboard.Text.Numeral
/-!
# Settings from variables

A setting that comes from a variable of the surroundings, with a default for when it is not set.
A default is a text like the variable's own and is read the same way.

* `Variable.read` — the setting.
* `Variable.readNamed` — the setting, with the variable's name in a fault.
* `Variable.natural`, `integer`, `truth` — readers of common kinds of settings.
-/

namespace Switchboard.Variable

/-- The setting of a variable that may be set. -/
def read {ε α : Type} (parse : String → Except ε α) (value : Option String) (default : String) :
    Except ε α :=
  parse (value.getD default)

/-- What a fault of the variable is part of. -/
def faultText (name : String) : String := "error parsing env var " ++ name

/-- The setting of a variable, with its name in front of what is wrong with it. -/
def readNamed {α : Type} (parse : String → Except String α) (name : String)
    (value : Option String) (default : String) : Except Fault α :=
  match read parse value default with
  | .ok a => .ok a
  | .error message => .error (.context (faultText name) (.message message))

/-- A natural number of at most `limit`. -/
def natural (limit : Nat) (s : String) : Except String Nat :=
  (Text.readNatural limit s.toList).mapError Text.NumeralFault.message

/-- An integer from `-low` to `high`. -/
def integer (low high : Nat) (s : String) : Except String Int :=
  (Text.readInteger low high s.toList).mapError Text.NumeralFault.message

def truth (s : String) : Except String Bool :=
  if s = "true" then .ok true
  else if s = "false" then .ok false
  else .error "provided string was not `true` or `false`"

end Switchboard.Variable
