import Switchboard.Agent.Chunked
import Switchboard.Agent.Entry
import Switchboard.Agent.Request
import Switchboard.Document.Json
import Switchboard.Text.Blank
import Switchboard.Text.Decoding
/-!
# Replies of the agent

What is made of a reply: it is a success or a fault, and of a listing everything has to be right,
status, index and body in this order, or it is a fault.

* `Reply` — status, headers and body.
* `Reply.isReadable` — can it be read at all?
* `Reply.content?` — what it says.
* `Reply.checked` — the reply, if its status is a success.
* `Reply.index` — the index in it.
* `Reply.entries` — the entries in its body.
* `Reply.listed` — the answer that a reply to a listing amounts to.
-/

namespace Switchboard.Agent

/-- A reply of the agent, as bytes. -/
structure Reply where
  status : Nat
  headers : List (List UInt8 × List UInt8) := []
  body : List UInt8 := []
  deriving DecidableEq, Repr, Inhabited

namespace Reply

/-! ## Headers -/

def charOf (b : UInt8) : Char := Char.ofNat b.toNat

/-- The byte behind the name of a header. -/
def colon : UInt8 := 58

/-- May the byte stand in the name of a header? -/
def isNameByte (b : UInt8) : Bool :=
  (charOf b).isAlphanum || "!#$%&'*+-.^_`|~".toList.contains (charOf b)

/-- May the byte stand in the value of a header? -/
def isValueByte (b : UInt8) : Bool := (32 ≤ b && b != 127) || b == 9

/-- Is the byte white space in a header? -/
def isBlankByte (b : UInt8) : Bool := b == Chunked.space || b == Chunked.tab

/-- The value of a header without the white space at its ends. -/
def trimmedValue (value : List UInt8) : List UInt8 :=
  ((value.dropWhile isBlankByte).reverse.dropWhile isBlankByte).reverse

/-- A header's line: the name ends at the first colon. -/
def fieldOf? (line : List UInt8) : Option (String × List UInt8) :=
  let name := line.takeWhile (· ≠ colon)
  match line.drop name.length with
  | _ :: value =>
    if !name.isEmpty && name.all isNameByte && value.all isValueByte then
      some (String.ofList (name.map charOf), trimmedValue value)
    else none
  | [] => none

/-- The lines of a header; a line feed starts a line of its own. -/
def linesOf (h : List UInt8 × List UInt8) : List (List UInt8) :=
  ((h.1 ++ colon :: Chunked.space :: h.2).splitOn Chunked.lineFeed).map fun line =>
    if line.getLast? = some Chunked.carriageReturn then line.dropLast else line

/-- The headers as they are read, if they are sound. -/
def fields? (r : Reply) : Option (List (String × List UInt8)) :=
  (r.headers.flatMap linesOf).mapM fieldOf?

def fields (r : Reply) : List (String × List UInt8) := r.fields?.getD []

/-- The values of the headers of a name, in whatever case the name is written. -/
def values (r : Reply) (name : String) : List (List UInt8) :=
  (r.fields.filter fun h => h.1.toLower == name).map (·.2)

/-- The value of the first header of a name. -/
def header? (r : Reply) (name : String) : Option (List UInt8) := (r.values name).head?

/-- Is the character one that shows? -/
def isVisible (c : Char) : Bool := (32 ≤ c.toNat && c.toNat < 127) || c == '\t'

/-- The text of a header's value, if every character of it shows. -/
def visible? (value : List UInt8) : Option String :=
  (Text.textOf? value).filter (·.toList.all isVisible)

/-! ## The body -/

/-- Is it only a notice that the reply is on its way? -/
def isNotice (r : Reply) : Bool := r.status < 200 && r.status != 101

/-- Some statuses come without a body, whatever is sent after them. -/
def isBare (r : Reply) : Bool := r.status = 101 || r.status = 204 || r.status = 304

/-- The parts of a header's value between commas; there are none if not all of it shows. -/
def parts (value : List UInt8) : List String :=
  match visible? value with
  | some text => (text.splitOn ",").map Text.trimmed
  | none => []

/-- How the body was sent: the encodings of the last header that tells. -/
def encodings (r : Reply) : Option (List String) :=
  (r.values "transfer-encoding").getLast?.map parts

/-- Was the body sent in chunks? -/
def isChunked (r : Reply) : Bool :=
  r.encodings.any fun es => es.getLast?.any (·.toLower == "chunked")

/-- Does the length that is given agree with that of the body? With an encoding no length
counts. -/
def hasRightLength (r : Reply) : Bool :=
  r.encodings.isSome || r.isBare ||
    (r.values "content-length").all fun value =>
      (visible? value).isSome && (parts value).all fun part =>
        part != "" && part.toList.all Text.isDigit && part.toNat? == some r.body.length

/-- The most headers that a reply may have; two go with every reply. -/
def maxHeaders : Nat := 100

/-- Can it be read at all? -/
def isReadable (r : Reply) : Bool :=
  !r.isNotice && 100 ≤ r.status && r.status ≤ 999 && r.fields?.isSome
    && r.fields.length + 2 ≤ maxHeaders && r.hasRightLength

/-- What the reply says, unless it is sent in chunks that are not sound. -/
def content? (r : Reply) : Option (List UInt8) :=
  if r.isBare then some []
  else if r.isChunked then Chunked.joined r.body
  else some r.body

/-! ## The status -/

def isSuccess (r : Reply) : Bool := 200 ≤ r.status && r.status < 300

/-- The reply if it is a success. -/
def checked (r : Reply) : Except AgentFault Reply :=
  if r.isSuccess then .ok r
  else .error (.status r.status (Text.trimmed (Text.lossy (r.content?.getD []))))

/-! ## The index -/

/-- The name of the header with the index. -/
def indexHeader : String := "x-consul-index"

/-- A byte of a header's value as it is shown. -/
def shownByte (b : UInt8) : List Char :=
  if b == 34 then ['\\', '"']
  else if isVisible (charOf b) then [charOf b]
  else '\\' :: 'x' :: Text.hexDigits b.toNat

/-- The value of a header as it is shown: between quotes, and byte by byte. -/
def shown (value : List UInt8) : String :=
  String.ofList ('"' :: value.flatMap shownByte ++ ['"'])

/-- The index that the value of a header denotes. -/
def indexOf (value : List UInt8) : Option Nat := do
  let text ← visible? value
  (Text.readNatural Text.maxWord64 text.toList).toOption

/-- The index of the reply; without one it is that of no answer. -/
def index (r : Reply) : Except AgentFault Nat :=
  match r.header? indexHeader with
  | none => .ok noIndex
  | some value =>
    match indexOf value with
    | some n => .ok n
    | none => .error (.badIndex (shown value))

/-! ## The entries -/

def undecodable : AgentFault := .codec "error decoding response body"

def entries (r : Reply) : Except AgentFault (List Entry) :=
  match (r.content?.bind Document.ofJsonBytes).bind Entry.listOf with
  | some es => .ok es
  | none => .error undecodable

/-- The answer to a query that a reply amounts to. -/
def listed (r : Reply) (q : ServiceQuery) : Except AgentFault (List String × Nat) := do
  let r ← r.checked
  let index ← r.index
  let entries ← r.entries
  return (Entry.addresses (Entry.kept q.tags entries), index)

end Reply

end Switchboard.Agent
