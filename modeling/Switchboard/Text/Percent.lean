import Switchboard.Text.Numeral
/-!
# Percent encoding

Characters that may not stand for themselves in a part of a URL are written as their UTF-8 bytes,
each as a percent sign and two hexadecimal digits. What may stand for itself depends on the part.

* `utf8` — the bytes of characters.
* `percentEncoded` — characters, with those of a class written as bytes.
* `percentDecoded` — the bytes that characters stand for, written bytes read back.
* `textOf?` — the text of bytes.
-/

namespace Switchboard.Text

def utf8 (cs : List Char) : List UInt8 := cs.flatMap String.utf8EncodeChar

/-- A hexadecimal digit in upper case. -/
def upperHexDigit (n : Nat) : Char :=
  if n < 10 then Char.ofNat (48 + n) else Char.ofNat (55 + n)

/-- A byte as a percent sign and two digits. -/
def percentByte (b : UInt8) : List Char :=
  ['%', upperHexDigit (b.toNat / 16), upperHexDigit (b.toNat % 16)]

/-- The characters, with those that may not stand for themselves written as bytes. -/
def percentEncoded (isSpecial : Char → Bool) (cs : List Char) : List Char :=
  cs.flatMap fun c => if isSpecial c then (String.utf8EncodeChar c).flatMap percentByte else [c]

/-- The bytes that a text stands for: a percent sign and two hexadecimal digits for the byte
that they write, anything else for its own bytes. -/
def percentDecoded : List Char → List UInt8
  | [] => []
  | '%' :: a :: b :: rest =>
    match digitValue? 16 a, digitValue? 16 b with
    | some x, some y => UInt8.ofNat (16 * x + y) :: percentDecoded rest
    | _, _ => 37 :: percentDecoded (a :: b :: rest)
  | c :: rest => String.utf8EncodeChar c ++ percentDecoded rest

/-- The text of bytes, if they are UTF-8. -/
def textOf? (bytes : List UInt8) : Option String := String.fromUTF8? ⟨bytes.toArray⟩

end Switchboard.Text
