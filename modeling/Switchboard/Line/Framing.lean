/-!
# Lines on a connection

How texts travel as lines. A text is sent as its bytes and a line feed. What comes back arrives
in pieces: a reader keeps the bytes that it has seen, and looks for the first line feed among as
many of them as a line may have; a carriage return in front of it is no part of the line. At the
end of the connection the bytes that are left are a line of their own.

* `written` — the bytes that a line is sent as.
* `Reader` — the bytes seen so far, and how many of them were searched.
* `Reader.feed`, `Reader.finish` — a piece arrives; the connection ends.
* `Reader.readAll` — the pieces of a connection one by one.
-/

namespace Switchboard.Line

/-- The most bytes that a line may have. -/
def maxLength : Nat := 65536

/-- The byte at the end of a line. -/
def lineFeed : UInt8 := 10

/-- The byte that may stand in front of a line feed. -/
def carriageReturn : UInt8 := 13

def bytesOf (line : String) : List UInt8 := line.toUTF8.data.toList

/-- The bytes that a line is sent as. -/
def written (line : String) : List UInt8 := bytesOf line ++ [lineFeed]

/-- Why there is no line where one is expected. -/
inductive LineFault
  | tooLong
  | notText
  deriving DecidableEq, Repr, Inhabited

def LineFault.text : LineFault → String
  | .tooLong => "max line length exceeded"
  | .notText => "Unable to decode input as UTF8"

/-- The bytes without a carriage return at their end. -/
def withoutReturn (bytes : List UInt8) : List UInt8 :=
  if bytes.getLast? = some carriageReturn then bytes.dropLast else bytes

/-- The line of the bytes in front of its end. -/
def lineOf (bytes : List UInt8) : Except LineFault String :=
  match String.fromUTF8? ⟨(withoutReturn bytes).toArray⟩ with
  | some line => .ok line
  | none => .error .notText

/-- A reader of one line. -/
structure Reader where
  received : List UInt8 := []
  /-- How many of them hold no line feed for sure. -/
  searched : Nat := 0
  deriving DecidableEq, Repr, Inhabited

/-- What a reader makes of the bytes seen so far. -/
inductive Reading
  | done (line : Except LineFault String)
  | more (r : Reader)
  deriving Inhabited

namespace Reader

/-- The reader looks at the bytes that it has not searched. -/
def look (limit : Nat) (r : Reader) : Reading :=
  let window := r.received.take (limit + 1)
  match (window.drop r.searched).findIdx? (· == lineFeed) with
  | some i => .done (lineOf (window.take (r.searched + i)))
  | none =>
    if limit < r.received.length then .done (.error .tooLong)
    else .more { r with searched := window.length }

/-- A piece arrives. -/
def feed (limit : Nat) (r : Reader) (piece : List UInt8) : Reading :=
  look limit { r with received := r.received ++ piece }

/-- The connection ends. What is left is a line, unless nothing is, or a carriage return only. -/
def finish (limit : Nat) (r : Reader) : Option (Except LineFault String) :=
  match r.look limit with
  | .done line => some line
  | .more r =>
    if r.received = [] ∨ r.received = [carriageReturn] then none else some (lineOf r.received)

/-- What becomes of a line that is waited for. -/
inductive Ending
  | done (line : Except LineFault String)
  | closed
  | waiting
  deriving Inhabited

/-- The pieces of a connection arrive one by one, and then it ends or it does not. -/
def readAll (limit : Nat) (ends : Bool) (r : Reader) : List (List UInt8) → Ending
  | [] =>
    if ends then
      match r.finish limit with
      | some line => .done line
      | none => .closed
    else .waiting
  | piece :: rest =>
    match r.feed limit piece with
    | .done line => .done line
    | .more r => readAll limit ends r rest

end Reader

end Switchboard.Line
