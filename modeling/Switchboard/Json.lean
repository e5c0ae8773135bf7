import Switchboard.Text.Quoted
/-!
# JSON values that are written

The values that request bodies and log lines are made of, and their text: no blanks, members in
the order they were given, and every character as it is but quotes, backslashes and controls.

* `Json` — the values.
* `Json.render` — their text.
-/

namespace Switchboard

/-- A JSON value to be written. -/
inductive Json
  | null
  | bool (b : Bool)
  | natural (n : Nat)
  | text (s : String)
  | list (items : List Json)
  | record (members : List (String × Json))
  deriving Repr

namespace Json

instance : Inhabited Json := ⟨null⟩

def texts (ss : List String) : Json := .list (ss.map .text)

/-- A text that may be missing. -/
def optional : Option String → Json
  | none => .null
  | some s => .text s

/-- The two hexadecimal digits of a small number. -/
def twoDigits (n : Nat) : List Char :=
  let ds := Text.hexDigits n
  List.replicate (2 - ds.length) '0' ++ ds

/-- A character as it stands between quotes. -/
def escapedChar (c : Char) : List Char :=
  if c = '"' then ['\\', '"']
  else if c = '\\' then ['\\', '\\']
  else if c = '\n' then ['\\', 'n']
  else if c = '\r' then ['\\', 'r']
  else if c = '\t' then ['\\', 't']
  else if c = '\x08' then ['\\', 'b']
  else if c = '\x0c' then ['\\', 'f']
  else if c.toNat < 32 then ['\\', 'u', '0', '0'] ++ twoDigits c.toNat
  else [c]

/-- A text between quotes. -/
def quoted (s : String) : String := "\"" ++ String.ofList (s.toList.flatMap escapedChar) ++ "\""

mutual

def render : Json → String
  | .null => "null"
  | .bool b => if b then "true" else "false"
  | .natural n => toString n
  | .text s => quoted s
  | .list items => "[" ++ String.intercalate "," (renderItems items) ++ "]"
  | .record members => "\x7b" ++ String.intercalate "," (renderMembers members) ++ "\x7d"

def renderItems : List Json → List String
  | [] => []
  | v :: rest => v.render :: renderItems rest

def renderMembers : List (String × Json) → List String
  | [] => []
  | (name, v) :: rest => (quoted name ++ ":" ++ v.render) :: renderMembers rest

end

end Json

end Switchboard
