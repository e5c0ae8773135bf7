import Switchboard.Text.Printable
/-!
# Quoted text

How a text is shown between double quotes, so that every character of it can be told: quotes
and backslashes get a backslash, the common controls their letter, and whatever does not print
its code point in hexadecimal.

* `escapedChar` — what one character becomes.
* `quoted` — a text between quotes.
* `quotedList` — a list of texts, between brackets.
-/

namespace Switchboard.Text

def hexDigits (n : Nat) : List Char := Nat.toDigits 16 n

/-- A character as it stands between quotes. -/
def escapedChar (c : Char) : List Char :=
  if c = '"' then ['\\', '"']
  else if c = '\\' then ['\\', '\\']
  else if c = '\n' then ['\\', 'n']
  else if c = '\r' then ['\\', 'r']
  else if c = '\t' then ['\\', 't']
  else if c = '\x00' then ['\\', '0']
  else if isExtender c || !isPrintable c then
    ['\\', 'u', '\x7b'] ++ hexDigits c.toNat ++ ['\x7d']
  else [c]

/-- A text between double quotes, with what cannot stand there escaped. -/
def quoted (s : String) : String :=
  String.ofList ('"' :: s.toList.flatMap escapedChar ++ ['"'])

/-- Texts between brackets, each quoted. -/
def quotedList (items : List String) : String :=
  "[" ++ String.intercalate ", " (items.map quoted) ++ "]"

end Switchboard.Text
