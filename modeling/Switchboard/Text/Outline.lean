import Switchboard.Text.Quoted
/-!
# Outlines of values

How a value with parts is shown for inspection: its name and its parts, on one line or with one
part per line.

* `Outline` — the shape: a bare text, a record with named parts, a tuple, or a record that keeps
  its parts to itself.
* `Outline.inline` — on one line.
* `Outline.block` — one part per line, four blanks deeper for each level.
-/

namespace Switchboard.Text

/-- A value as it is shown for inspection. -/
inductive Outline
  | atom (text : String)
  | record (name : String) (parts : List (String × Outline))
  | tuple (name : String) (parts : List Outline)
  /-- A value that keeps its parts to itself. -/
  | hidden (name : String)

namespace Outline

instance : Inhabited Outline := ⟨.atom ""⟩

mutual

/-- A value on one line. -/
def inline : Outline → String
  | .atom text => text
  | .record name parts =>
    name ++ " \x7b " ++ String.intercalate ", " (inlineFields parts) ++ " \x7d"
  | .tuple name parts => name ++ "(" ++ String.intercalate ", " (inlineAll parts) ++ ")"
  | .hidden name => name ++ " \x7b .. \x7d"

def inlineFields : List (String × Outline) → List String
  | [] => []
  | (name, part) :: rest => (name ++ ": " ++ part.inline) :: inlineFields rest

def inlineAll : List Outline → List String
  | [] => []
  | part :: rest => part.inline :: inlineAll rest

end

mutual

/-- A value with one part per line, its first line apart `indent` blanks deep. -/
def blockAt (indent : Nat) : Outline → String
  | .atom text => text
  | .record name parts =>
    name ++ " \x7b\n" ++ blockFields (indent + 4) parts ++ "".pushn ' ' indent ++ "\x7d"
  | .tuple name parts =>
    name ++ "(\n" ++ blockAll (indent + 4) parts ++ "".pushn ' ' indent ++ ")"
  | .hidden name => name ++ " \x7b .. \x7d"

def blockFields (indent : Nat) : List (String × Outline) → String
  | [] => ""
  | (name, part) :: rest =>
    "".pushn ' ' indent ++ name ++ ": " ++ part.blockAt indent ++ ",\n" ++ blockFields indent rest

def blockAll (indent : Nat) : List Outline → String
  | [] => ""
  | part :: rest => "".pushn ' ' indent ++ part.blockAt indent ++ ",\n" ++ blockAll indent rest

end

/-- A value with one part per line. -/
def block (o : Outline) : String := o.blockAt 0

/-- A value that may be missing. -/
def ofOption : Option Outline → Outline
  | none => .atom "None"
  | some o => .tuple "Some" [o]

def ofBool (b : Bool) : Outline := .atom (if b then "true" else "false")

def ofNat (n : Nat) : Outline := .atom (toString n)

def ofText (s : String) : Outline := .atom (quoted s)

end Outline

end Switchboard.Text
