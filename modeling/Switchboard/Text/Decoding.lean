import Switchboard.Text.Percent
/-!
# Bytes that may be no text

Bytes that should be UTF-8 are read character by character. Where they make no character, something
else takes their place, once for as many bytes as could be the beginning of one.

* `charAt?` — the character at the front of bytes.
* `brokenLength` — how many bytes at the front begin a character that does not come.
* `decoded` — the characters of bytes, with a scar where they make none.
* `lossy` — the text of bytes, with the replacement character as the scar.
-/

namespace Switchboard.Text

/-- The character at the front of bytes, if they begin with one. -/
def charAt? (bytes : List UInt8) : Option Char :=
  ByteArray.utf8DecodeChar? ⟨(bytes.take 4).toArray⟩ 0

/-- Is it a byte that only continues a character? -/
def isContinuation (b : UInt8) : Bool := 0x80 ≤ b && b ≤ 0xBF

/-- Is there a character of three or four bytes that begins with these two? -/
def canBegin (first second : UInt8) : Bool :=
  if first = 0xE0 then 0xA0 ≤ second && second ≤ 0xBF
  else if first = 0xED then 0x80 ≤ second && second ≤ 0x9F
  else if first = 0xF0 then 0x90 ≤ second && second ≤ 0xBF
  else if first = 0xF4 then 0x80 ≤ second && second ≤ 0x8F
  else 0xE1 ≤ first && first ≤ 0xF3 && isContinuation second

/-- How many bytes at the front begin a character that does not come, if there is none. -/
def brokenLength : List UInt8 → Nat
  | a :: b :: c :: _ =>
    if !canBegin a b then 1 else if 0xF0 ≤ a && isContinuation c then 3 else 2
  | [a, b] => if canBegin a b then 2 else 1
  | _ => 1

/-- The characters of bytes from behind those that were read already. -/
def decodedFrom (scar : List Char) : (read : Nat) → List UInt8 → List Char
  | _, [] => []
  | read + 1, _ :: rest => decodedFrom scar read rest
  | 0, b :: rest =>
    match charAt? (b :: rest) with
    | some c => c :: decodedFrom scar (c.utf8Size - 1) rest
    | none => scar ++ decodedFrom scar (brokenLength (b :: rest) - 1) rest

/-- The characters of bytes, with `scar` in the place of those that make none. -/
def decoded (scar : List Char) (bytes : List UInt8) : List Char := decodedFrom scar 0 bytes

/-- The text of bytes, whatever they are. -/
def lossy (bytes : List UInt8) : String := String.ofList (decoded ['\uFFFD'] bytes)

theorem charAt?_utf8EncodeChar_append (c : Char) (rest : List UInt8) :
    charAt? (String.utf8EncodeChar c ++ rest) = some c := by
  have hsize : (String.utf8EncodeChar c).length ≤ 4 := by
    rw [String.length_utf8EncodeChar]
    exact c.utf8Size_le_four
  have hbytes (front back : List UInt8) :
      (⟨(front ++ back).toArray⟩ : ByteArray) = front.toByteArray ++ back.toByteArray := by
    rw [← List.toByteArray_append]
    exact ByteArray.ext List.data_toByteArray.symm
  rw [charAt?, List.take_append, List.take_of_length_le hsize, hbytes]
  exact ByteArray.utf8DecodeChar?_utf8EncodeChar_append

theorem decodedFrom_length_append (scar : List Char) (read rest : List UInt8) :
    decodedFrom scar read.length (read ++ rest) = decoded scar rest := by
  induction read with
  | nil => rfl
  | cons b read ih => exact ih

/-- The characters of the bytes of characters are those. -/
theorem decoded_utf8 (scar : List Char) (cs : List Char) : decoded scar (utf8 cs) = cs := by
  induction cs with
  | nil => rfl
  | cons c cs ih =>
    obtain ⟨b, bs, hbytes⟩ := List.exists_cons_of_ne_nil (String.utf8EncodeChar_ne_nil (c := c))
    have hsize : c.utf8Size - 1 = bs.length := by
      rw [← String.length_utf8EncodeChar c, hbytes]
      rfl
    have hchar := charAt?_utf8EncodeChar_append c (utf8 cs)
    rw [hbytes, List.cons_append] at hchar
    show decodedFrom scar 0 (String.utf8EncodeChar c ++ utf8 cs) = _
    rw [hbytes, List.cons_append, decodedFrom, hchar]
    show c :: decodedFrom scar (c.utf8Size - 1) (bs ++ utf8 cs) = _
    rw [hsize, decodedFrom_length_append, ih]

example : lossy [0x61, 0xE2, 0x82, 0x28, 0xC0, 0x80] = "a\uFFFD(\uFFFD\uFFFD" := by decide

end Switchboard.Text
