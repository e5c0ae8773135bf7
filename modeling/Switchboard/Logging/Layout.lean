import Switchboard.Text.Quoted
/-!
# Layouts of log output

How log lines are laid out, and how a layout is named.

* `LogLayout` — one object per line for machines, several lines for readers, or one line.
* `LogLayout.read` — the layout of a name; the empty name is the default.
-/

namespace Switchboard

/-- How log lines are laid out. -/
inductive LogLayout
  | json
  | pretty
  | standard
  deriving DecidableEq, Repr

namespace LogLayout

instance : Inhabited LogLayout := ⟨standard⟩

def standardName : String := "standard"

/-- The layout for inspection. -/
def label : LogLayout → String
  | .json => "Json"
  | .pretty => "Pretty"
  | .standard => "Standard"

/-- A letter of the Latin alphabet in lower case, any other character as it is. -/
def lowered (s : String) : String := String.ofList (s.toList.map Char.toLower)

/-- The wording for a name that is none. -/
def unknownMessage (name : String) : String :=
  "unknown log format " ++ Text.quoted name ++ ", expected json, pretty or standard"

/-- The layout of a name, in capitals or not. -/
def read (s : String) : Except String LogLayout :=
  match lowered s with
  | "json" => .ok .json
  | "pretty" => .ok .pretty
  | "standard" => .ok .standard
  | "" => .ok .standard
  | other => .error (unknownMessage other)

end LogLayout

end Switchboard
