import Switchboard.Text.Numeral
/-!
# Bodies in chunks

Bodies that are sent piece by piece, each behind a line with its length in hexadecimal. The
chunk of length zero is the last; lines may follow it, up to an empty one.

* `chunkLength` — the length of a chunk, and what follows its line.
* `endsProperly` — is what follows the last chunk as it should be?
* `joined` — the body of chunks, if they are sound.
-/

namespace Switchboard.Agent.Chunked

/-- The bytes with a part in syntax. -/
def tab : UInt8 := 9
@[inherit_doc tab] def lineFeed : UInt8 := 10
@[inherit_doc tab] def carriageReturn : UInt8 := 13
@[inherit_doc tab] def space : UInt8 := 32
@[inherit_doc tab] def semicolon : UInt8 := 59

def digit? (b : UInt8) : Option Nat := Text.digitValue? 16 (Char.ofNat b.toNat)

/-- What follows a line feed that has to be there. -/
def afterLineFeed : List UInt8 → Option (List UInt8)
  | b :: rest => if b = lineFeed then some rest else none
  | [] => none

/-- What follows a carriage return and a line feed that have to be there. -/
def afterLineEnd : List UInt8 → Option (List UInt8)
  | b :: rest => if b = carriageReturn then afterLineFeed rest else none
  | [] => none

/-- What follows an extension of a length, which has no line feed in it. -/
def afterExtension : List UInt8 → Option (List UInt8)
  | [] => none
  | b :: rest =>
    if b = carriageReturn then afterLineFeed rest
    else if b = lineFeed then none
    else afterExtension rest

/-- What follows the line of a length, from behind the digits. -/
def afterLength : List UInt8 → Option (List UInt8)
  | [] => none
  | b :: rest =>
    if b = tab ∨ b = space then afterBlanks rest
    else if b = semicolon then afterExtension rest
    else afterLineEnd (b :: rest)
where
  afterBlanks : List UInt8 → Option (List UInt8)
  | [] => none
  | b :: rest =>
    if b = tab ∨ b = space then afterBlanks rest
    else if b = semicolon then afterExtension rest
    else afterLineEnd (b :: rest)

/-- The length of a chunk, and what follows its line. -/
def chunkLength (bytes : List UInt8) : Option (Nat × List UInt8) :=
  let digits := bytes.takeWhile fun b => (digit? b).isSome
  if digits.isEmpty then none
  else
    (afterLength (bytes.drop digits.length)).map fun rest =>
      (digits.foldl (fun n b => 16 * n + (digit? b).getD 0) 0, rest)

/-- Is what follows the last chunk an empty line, maybe after others? -/
def endsProperly (isLineStart : Bool) : List UInt8 → Bool
  | a :: b :: rest =>
    if a = carriageReturn then b = lineFeed && (isLineStart || endsProperly true rest)
    else endsProperly false (b :: rest)
  | _ => false

/-- The bytes of up to so many chunks. -/
def joinedWithin : Nat → List UInt8 → Option (List UInt8)
  | 0, _ => none
  | chunks + 1, bytes => do
    let (length, rest) ← chunkLength bytes
    if length = 0 then if endsProperly true rest then some [] else none
    else if rest.length < length then none
    else
      let rest' ← afterLineEnd (rest.drop length)
      return rest.take length ++ (← joinedWithin chunks rest')

/-- The body of chunks: there are no more of them than bytes. -/
def joined (bytes : List UInt8) : Option (List UInt8) := joinedWithin bytes.length bytes

end Switchboard.Agent.Chunked
