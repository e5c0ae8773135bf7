import Switchboard.Document
import Switchboard.Text.Decoding
/-!
# Documents in JSON

The reader of JSON text. Numbers are taken as they are written: a natural number of 64 bits
counts as one only without sign, fraction and exponent. A text may hold escapes that stand for
half a character; such a text is no text, but may be passed over. So it is with bytes between quotes
that are not UTF-8.

* `readPieces`, `joinPieces` — what stands between two quotes, and the text it makes.
* `readNumber` — a numeral.
* `readValue` — a value at the front of a text.
* `ofJson`, `ofJsonBytes` — the document that a whole text denotes, or that bytes denote.
-/

namespace Switchboard.Document

namespace Json

/-- White space between the parts of a text. -/
def isSpace (c : Char) : Bool := c = ' ' || c = '\n' || c = '\t' || c = '\r'

/-- The text from the first character that is no white space on. -/
def skipSpace (cs : List Char) : List Char := cs.dropWhile isSpace

/-! ## Texts -/

/-- A part of a text: a character, or a code unit of 16 bits that was written as an escape. -/
inductive Piece
  | char (c : Char)
  | unit (n : Nat)
  deriving DecidableEq, Repr, Inhabited

/-- The character that a letter after a backslash stands for. -/
def letterEscape? : Char → Option Char
  | '"' => some '"'
  | '\\' => some '\\'
  | '/' => some '/'
  | 'b' => some '\x08'
  | 'f' => some '\x0c'
  | 'n' => some '\n'
  | 'r' => some '\r'
  | 't' => some '\t'
  | _ => none

/-- The number that four hexadecimal digits stand for. -/
def hex4? (a b c d : Char) : Option Nat := do
  let a ← Text.digitValue? 16 a
  let b ← Text.digitValue? 16 b
  let c ← Text.digitValue? 16 c
  let d ← Text.digitValue? 16 d
  return ((a * 16 + b) * 16 + c) * 16 + d

/-- The parts of a text up to its closing quote, and what follows that. -/
def readPieces : List Char → Option (List Piece × List Char)
  | [] => none
  | '"' :: rest => some ([], rest)
  | '\\' :: 'u' :: a :: b :: c :: d :: rest =>
    match hex4? a b c d, readPieces rest with
    | some n, some (ps, rest) => some (.unit n :: ps, rest)
    | _, _ => none
  | '\\' :: e :: rest =>
    match letterEscape? e, readPieces rest with
    | some c, some (ps, rest) => some (.char c :: ps, rest)
    | _, _ => none
  | c :: rest =>
    if c.toNat < 32 || c = '\\' then none
    else
      match readPieces rest with
      | some (ps, rest) => some (.char c :: ps, rest)
      | none => none

def isLead (n : Nat) : Bool := 0xD800 ≤ n && n ≤ 0xDBFF

def isTrail (n : Nat) : Bool := 0xDC00 ≤ n && n ≤ 0xDFFF

/-- The text that the parts make; none if half a character stands alone. -/
def joinPieces : List Piece → Option (List Char)
  | [] => some []
  | .char c :: rest => (joinPieces rest).map (c :: ·)
  | .unit n :: .unit m :: rest =>
    if isLead n then
      if isTrail m then
        (joinPieces rest).map (Char.ofNat (0x10000 + (n - 0xD800) * 0x400 + (m - 0xDC00)) :: ·)
      else none
    else if isTrail n then none
    else (joinPieces (.unit m :: rest)).map (Char.ofNat n :: ·)
  | .unit n :: rest =>
    if isLead n || isTrail n then none else (joinPieces rest).map (Char.ofNat n :: ·)

/-- A text after its opening quote: none in the answer if half a character stands alone in it. -/
def readText (cs : List Char) : Option (Option String × List Char) :=
  (readPieces cs).map fun p => ((joinPieces p.1).map String.ofList, p.2)

/-! ## Numerals -/

/-- Digits, at least one, and what follows them. -/
def someDigits (cs : List Char) : Option (List Char × List Char) :=
  let ds := cs.takeWhile Text.isDigit
  if ds.isEmpty then none else some (ds, cs.dropWhile Text.isDigit)

/-- The digits in front of the point: a zero stands alone. -/
def readWhole (cs : List Char) : Option (List Char × List Char) :=
  match someDigits cs with
  | some ('0' :: _ :: _, _) => none
  | found => found

/-- What follows a fraction, if there is one; the flag tells. -/
def skipFraction : List Char → Option (Bool × List Char)
  | '.' :: rest => (someDigits rest).map fun p => (true, p.2)
  | cs => some (false, cs)

/-- What follows an exponent, if there is one; the flag tells. -/
def skipExponent : List Char → Option (Bool × List Char)
  | e :: rest =>
    if e = 'e' || e = 'E' then
      let digits := match rest with
        | '+' :: r => r
        | '-' :: r => r
        | r => r
      (someDigits digits).map fun p => (true, p.2)
    else some (false, e :: rest)
  | [] => some (false, [])

/-- What plain digits say. -/
def naturalOf (ds : List Char) : Scalar :=
  match Text.readNatural Text.maxWord64 ds with
  | .ok n => .natural n
  | .error _ => .other

/-- A numeral at the front of a text, and what follows it. -/
def readNumber (cs : List Char) : Option (Scalar × List Char) := do
  let (negative, cs) := match cs with
    | '-' :: rest => (true, rest)
    | cs => (false, cs)
  let (whole, cs) ← readWhole cs
  let (fraction, cs) ← skipFraction cs
  let (exponent, cs) ← skipExponent cs
  return (if negative || fraction || exponent then .other else naturalOf whole, cs)

/-! ## Values -/

/-- A leaf that is no text. -/
def plainLeaf (value : Scalar) : Document := .leaf ⟨value, none, value == .nothing⟩

def textLeaf : Option String → Document
  | some s => .leaf ⟨.text s, some s, false⟩
  | none => .leaf ⟨.other, none, false⟩

mutual

/-- A value at the front of a text, and what follows it. -/
def readValue : Nat → List Char → Option (Document × List Char)
  | 0, _ => none
  | fuel + 1, cs =>
    match skipSpace cs with
    | 'n' :: 'u' :: 'l' :: 'l' :: rest => some (plainLeaf .nothing, rest)
    | 't' :: 'r' :: 'u' :: 'e' :: rest => some (plainLeaf (.truth true), rest)
    | 'f' :: 'a' :: 'l' :: 's' :: 'e' :: rest => some (plainLeaf (.truth false), rest)
    | '"' :: rest => (readText rest).map fun p => (textLeaf p.1, p.2)
    | '[' :: rest =>
      match skipSpace rest with
      | ']' :: rest => some (.list [], rest)
      | rest => (readItems fuel rest).map fun p => (.list p.1, p.2)
    | '\x7b' :: rest =>
      match skipSpace rest with
      | '\x7d' :: rest => some (.record [], rest)
      | rest => (readMembers fuel rest).map fun p => (.record p.1, p.2)
    | rest => (readNumber rest).map fun p => (plainLeaf p.1, p.2)

/-- At least one value, commas between them, and the bracket that ends the list. -/
def readItems : Nat → List Char → Option (List Document × List Char)
  | 0, _ => none
  | fuel + 1, cs =>
    match readValue fuel cs with
    | none => none
    | some (v, rest) =>
      match skipSpace rest with
      | ']' :: rest => some ([v], rest)
      | ',' :: rest => (readItems fuel rest).map fun p => (v :: p.1, p.2)
      | _ => none

/-- At least one name with its value, commas between them, and the brace that ends the record. -/
def readMembers : Nat → List Char → Option (List (Option String × Document) × List Char)
  | 0, _ => none
  | fuel + 1, cs =>
    match skipSpace cs with
    | '"' :: rest =>
      match readText rest with
      | none => none
      | some (name, rest) =>
        match skipSpace rest with
        | ':' :: rest =>
          match readValue fuel rest with
          | none => none
          | some (v, rest) =>
            match skipSpace rest with
            | '\x7d' :: rest => some ([(name, v)], rest)
            | ',' :: rest => (readMembers fuel rest).map fun p => ((name, v) :: p.1, p.2)
            | _ => none
        | _ => none
    | _ => none

end

end Json

/-- The document that a JSON text denotes. -/
def ofJson (s : String) : Option Document :=
  let cs := s.toList
  match Json.readValue (2 * cs.length + 2) cs with
  | some (d, rest) => if (Json.skipSpace rest).isEmpty then some d else none
  | none => none

/-- What stands for bytes that are no text: behind a character that begins neither a value nor an
escape, half a character that nothing completes. -/
def Json.scar : List Char := "x\\udc00".toList

/-- The text that the bytes of a JSON text are read as. -/
def Json.textOf (bytes : List UInt8) : String := String.ofList (Text.decoded Json.scar bytes)

/-- The document that the bytes of a JSON text denote. -/
def ofJsonBytes (bytes : List UInt8) : Option Document := ofJson (Json.textOf bytes)

theorem Json.textOf_utf8 (s : String) : Json.textOf (Text.utf8 s.toList) = s := by
  rw [textOf, Text.decoded_utf8, String.ofList_toList]

end Switchboard.Document
