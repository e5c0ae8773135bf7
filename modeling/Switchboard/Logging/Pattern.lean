import Switchboard.Text.Blank
import Switchboard.Text.Numeral
import Switchboard.Text.Unicode.Letters
/-!
# Patterns

Which texts are patterns, that is regular expressions with groups, classes and flags. A pattern
is read once from left to right. Flags change what is allowed: a pattern speaks of characters
unless a flag makes it speak of bytes, and no table of letters is at hand for characters. So
cases are folded, edges of words found and kinds of characters named among bytes only, and what
could match a part of a character is refused.

* `Nest` — how deep the pieces of a group or class are nested.
* `Mode` — the flags in force.
* `Atom` — what stands for a character, a kind of characters or a place.
* `ClassState`, `readClass` — a class in brackets.
* `State`, `State.step` — a pattern up to some place, and the next piece of it.
* `isPattern` — is a text a pattern? Its groups, classes and repetitions are nested 250 deep at
  most.
-/

namespace Switchboard.Pattern

/-! ## Depth -/

/-- Pieces that follow each other, and how deep each of them is nested. -/
structure Row where
  count : Nat := 0
  /-- The depth of the last piece, if that can be repeated. -/
  last : Option Nat := none
  deepest : Nat := 0
  deriving DecidableEq, Repr, Inhabited

namespace Row

def push (r : Row) (depth : Nat) : Row where
  count := r.count + 1
  last := some depth
  deepest := max r.deepest depth

/-- With a piece that cannot be repeated. -/
def pushFlags (r : Row) : Row := { r with count := r.count + 1, last := none }

/-- With the last piece repeated, which puts it one deeper. -/
def repeat? (r : Row) : Option Row :=
  r.last.map fun depth =>
    { r with last := some (depth + 1), deepest := max r.deepest (depth + 1) }

/-- The depth of the row: one more than that of its pieces, if there are several. -/
def depth (r : Row) : Nat := if r.count ≤ 1 then r.deepest else r.deepest + 1

end Row

/-- What has been read of a group or class: rows side by side, of which the last is open. -/
structure Nest where
  row : Row := {}
  /-- The depth of what stands in front of the last row. -/
  before : Option Nat := none
  deriving DecidableEq, Repr, Inhabited

namespace Nest

def push (n : Nest) (depth : Nat) : Nest := { n with row := n.row.push depth }

/-- The depth of all rows: one more than that of each, if there are several. -/
def depth (n : Nest) : Nat :=
  match n.before with
  | none => n.row.depth
  | some depth => max depth n.row.depth + 1

/-- With another row, as one of any number that are side by side. -/
def alternated (n : Nest) : Nest where
  before := some (max (n.before.getD 0) n.row.depth)

/-- With another row, as the second of two. -/
def paired (n : Nest) : Nest where
  before := some n.depth

end Nest

def maxDepth : Nat := 250

/-! ## Flags -/

/-- The flags in force at some place of a pattern. -/
structure Mode where
  ignoresCase : Bool := false
  /-- Items stand for characters, not for bytes. -/
  isUnicode : Bool := true
  /-- Blanks and remarks may stand between items. -/
  isSpaced : Bool := false
  deriving DecidableEq, Repr, Inhabited

/-- The text behind blanks and remarks; a remark goes from a `#` to the end of the line. -/
def pastRemarks (inRemark : Bool) : List Char → List Char
  | [] => []
  | c :: rest =>
    if inRemark then pastRemarks (c ≠ '\n') rest
    else if c = '#' then pastRemarks true rest
    else if Text.isBlank c then pastRemarks false rest
    else c :: rest

namespace Mode

/-- The text from the next item on. -/
def skip (m : Mode) (cs : List Char) : List Char := if m.isSpaced then pastRemarks false cs else cs

/-- The character that decides whether a dash makes a range: the next one, past blanks and the
sign of a remark. -/
def peek (m : Mode) (cs : List Char) : Option Char :=
  if m.isSpaced then
    match Text.dropBlank cs with
    | '#' :: rest => (Text.dropBlank rest).head?
    | rest => rest.head?
  else cs.head?

/-- Is a character allowed where characters are compared by their codes? -/
def allows (m : Mode) (c : Char) : Bool :=
  if m.isUnicode then !m.ignoresCase else c.toNat < 0x80

/-- Is a kind of characters allowed? All that is not of a kind takes in parts of characters. -/
def allowsKind (m : Mode) (isNegated : Bool) : Bool := !m.isUnicode && !isNegated

/-- Is a class by name allowed, or all but one? -/
def allowsNamed (m : Mode) (isNegated : Bool) : Bool :=
  if m.isUnicode then !m.ignoresCase else !isNegated

/-- The mode after flags are set, and those behind a dash taken back; each flag comes once. -/
def set? (m : Mode) (flags : List Char) : Option Mode :=
  let on := flags.takeWhile (· ≠ '-')
  let off := flags.dropWhile (· ≠ '-')
  let set (flag : Char) (old : Bool) : Bool := on.contains flag || (old && !off.contains flag)
  if flags.Nodup ∧ off ≠ ['-'] ∧ flags.all "-imsUuRx".toList.contains then
    some {
      ignoresCase := set 'i' m.ignoresCase
      isUnicode := set 'u' m.isUnicode
      isSpaced := set 'x' m.isSpaced }
  else none

end Mode

/-! ## Characters -/

/-- What stands for a character, a kind of characters or a place. -/
inductive Atom
  | char (c : Char)
  /-- A character by two digits of its code. -/
  | byte (c : Char)
  /-- Digits, blanks or the characters of words, or all but those. -/
  | kind (isNegated : Bool)
  /-- An end of the text or the edge of a word. -/
  | place (ofWord : Bool)
  deriving DecidableEq, Repr

namespace Atom

/-- May the atom stand outside a class? -/
def isAllowed (m : Mode) : Atom → Bool
  | .char _ => !(m.ignoresCase && m.isUnicode)
  | .byte c => m.allows c
  | .kind isNegated => m.allowsKind isNegated
  | .place ofWord => !(ofWord && m.isUnicode)

/-- May the atom stand in a class? -/
def isMember (m : Mode) : Atom → Bool
  | .char c | .byte c => m.allows c
  | .kind isNegated => m.allowsKind isNegated
  | .place _ => false

def char? : Atom → Option Char
  | .char c | .byte c => some c
  | .kind _ | .place _ => none

end Atom

/-- The character whose code has so many hexadecimal digits more. -/
def readCode (m : Mode) (value : Nat) : Nat → List Char → Option (Char × List Char)
  | 0, rest => if value.isValidChar then some (Char.ofNat value, rest) else none
  | n + 1, cs =>
    match m.skip cs with
    | c :: rest => do readCode m (16 * value + (← Text.digitValue? 16 c)) n rest
    | [] => none

/-- What a backslash stands for with the characters behind it. Signs stand for themselves. -/
def readEscape (m : Mode) : List Char → Option (Atom × List Char)
  | [] => none
  | c :: rest =>
    match c with
    | 'x' => (readCode m 0 2 rest).map fun (c, rest) => (.byte c, rest)
    | 'u' => (readCode m 0 4 rest).map fun (c, rest) => (.char c, rest)
    | 'U' => (readCode m 0 8 rest).map fun (c, rest) => (.char c, rest)
    | 'd' | 's' | 'w' => some (.kind false, rest)
    | 'D' | 'S' | 'W' => some (.kind true, rest)
    | 'A' | 'z' => some (.place false, rest)
    | 'b' | 'B' | '<' | '>' => some (.place true, rest)
    | 'a' => some (.char '\x07', rest)
    | 'f' => some (.char '\x0c', rest)
    | 't' => some (.char '\t', rest)
    | 'n' => some (.char '\n', rest)
    | 'r' => some (.char '\r', rest)
    | 'v' => some (.char '\x0b', rest)
    | _ => if c.toNat < 0x80 ∧ !c.isAlphanum then some (.char c, rest) else none

/-! ## Classes -/

/-- The classes that are known by name. -/
def classNames : List String :=
  ["alnum", "alpha", "ascii", "blank", "cntrl", "digit", "graph", "lower", "print", "punct",
    "space", "upper", "word", "xdigit"]

/-- A class by name behind its bracket, the name between colons: is it all but those? -/
def readNamedClass : List Char → Option (Bool × List Char)
  | ':' :: rest =>
    let isNegated := rest.head? = some '^'
    let rest := if isNegated then rest.drop 1 else rest
    match rest.dropWhile (· ≠ ':') with
    | ':' :: ']' :: after =>
      if classNames.contains (String.ofList (rest.takeWhile (· ≠ ':'))) then some (isNegated, after)
      else none
    | _ => none
  | _ => none

/-- A character of a class, with a backslash or without. -/
def readMember (m : Mode) : List Char → Option (Atom × List Char)
  | '\\' :: rest => readEscape m rest
  | c :: rest => some (.char c, rest)
  | [] => none

/-- A character or a range of them; the first end of a range is not behind the last. A dash at
the end of a class, or before another, makes no range. -/
def readRange (m : Mode) (cs : List Char) : Option (List Char) := do
  let (first, rest) ← readMember m cs
  if !first.isMember m then none
  else
    match m.skip rest with
    | '-' :: after =>
      if m.peek after = some ']' ∨ m.peek after = some '-' then some ('-' :: after)
      else do
        let (last, rest) ← readMember m (m.skip after)
        if last.isMember m ∧ (← first.char?) ≤ (← last.char?) then some rest else none
    | rest => some rest

/-- How far a class has been read. -/
inductive ClassPlace
  | opened
  /-- Up to the accent behind the bracket. -/
  | turned
  /-- Up to dashes in front. -/
  | dashed
  | inside
  | closed
  deriving DecidableEq, Repr

/-- A class that has been read up to some place. -/
structure ClassState where
  place : ClassPlace := .opened
  nest : Nest := {}
  /-- The classes around it, the innermost first. -/
  outer : List Nest := []
  deriving DecidableEq, Repr

namespace ClassState

def withMember (s : ClassState) : ClassState := { s with place := .inside, nest := s.nest.push 0 }

def close (s : ClassState) : ClassState :=
  match s.outer with
  | [] => { s with place := .closed }
  | nest :: outer => { place := .inside, nest := nest.push (s.nest.depth + 1), outer }

/-- The next piece of a class. In front, dashes and a closing bracket are members. -/
def step (m : Mode) (s : ClassState) (cs : List Char) : Option (ClassState × List Char) :=
  match s.place, cs with
  | .opened, '^' :: rest => if m.isUnicode then some ({ s with place := .turned }, rest) else none
  | .opened, '-' :: rest | .turned, '-' :: rest | .dashed, '-' :: rest =>
    if m.allows '-' then some ({ s.withMember with place := .dashed }, rest) else none
  | .opened, ']' :: rest | .turned, ']' :: rest =>
    if m.allows ']' then some (s.withMember, rest) else none
  | _, ']' :: rest => some (s.close, rest)
  | _, '&' :: '&' :: rest | _, '-' :: '-' :: rest | _, '~' :: '~' :: rest =>
    some ({ s with place := .inside, nest := s.nest.paired }, rest)
  | _, '[' :: rest =>
    match readNamedClass rest with
    | some (isNegated, rest) =>
      if m.allowsNamed isNegated then some (s.withMember, rest) else none
    | none => some ({ outer := s.nest :: s.outer }, rest)
  | _, cs => (readRange m cs).map fun rest => (s.withMember, rest)

end ClassState

/-- The depth of a class and the text behind it, from some place in it on. -/
def readClass (m : Mode) (s : ClassState) (cs : List Char) : Option (Nat × List Char) :=
  match s.step m (m.skip cs) with
  | some (s, rest) =>
    if s.place = .closed then some (s.nest.depth + 1, rest)
    else if _h : rest.length < cs.length then readClass m s rest
    else none
  | none => none
termination_by cs.length

/-! ## Groups -/

/-- A group, or the whole pattern, that has been read up to some place. -/
structure Layer where
  mode : Mode := {}
  nest : Nest := {}
  deriving DecidableEq, Repr, Inhabited

/-- A pattern that has been read up to some place. -/
structure State where
  layer : Layer := {}
  outer : List Layer := []
  names : List (List Char) := []
  deriving DecidableEq, Repr, Inhabited

def isName : List Char → Bool
  | [] => false
  | c :: rest =>
    (c = '_' || Text.isLetter c) && rest.all fun c => "_.[]".contains c || Text.isLetterOrNumber c

namespace State

def mode (s : State) : Mode := s.layer.mode

def mapNest (s : State) (f : Nest → Nest) : State :=
  { s with layer := { s.layer with nest := f s.layer.nest } }

/-- After a piece of some depth. -/
def push (s : State) (depth : Nat) : State := s.mapNest (·.push depth)

/-- In a new group of some mode. -/
def opened (s : State) (mode : Mode) : State :=
  { s with layer := { mode }, outer := s.layer :: s.outer }

/-- After flags for the rest of the group. -/
def withMode (s : State) (mode : Mode) : State :=
  let nest := { s.layer.nest with row := s.layer.nest.row.pushFlags }
  { s with layer := { mode, nest } }

/-- After the end of a group, which is a piece of the one around it. -/
def closed? (s : State) : Option State :=
  match s.outer with
  | layer :: outer => some (({ s with layer, outer } : State).push (s.layer.nest.depth + 1))
  | [] => none

/-- A group from its name on; no two groups have the same. -/
def readName (s : State) (cs : List Char) : Option (State × List Char) :=
  let name := cs.takeWhile (· ≠ '>')
  match cs.dropWhile (· ≠ '>') with
  | _ :: rest =>
    if isName name ∧ !s.names.contains name then
      some ({ s.opened s.mode with names := name :: s.names }, rest)
    else none
  | [] => none

/-- A group from its flags on, or flags for the rest of the group that they stand in. -/
def readFlags (s : State) (cs : List Char) : Option (State × List Char) := do
  let ends (c : Char) : Bool := c = ':' || c = ')'
  let flags := cs.takeWhile fun c => !ends c
  let mode ← s.mode.set? flags
  match cs.dropWhile fun c => !ends c with
  | ':' :: rest => some (s.opened mode, rest)
  | ')' :: rest => if flags = [] then none else some (s.withMode mode, rest)
  | _ => none

/-- A group behind its bracket. -/
def readGroup (s : State) (cs : List Char) : Option (State × List Char) :=
  match s.mode.skip cs with
  | '?' :: 'P' :: '<' :: rest | '?' :: '<' :: rest => s.readName rest
  | '?' :: rest => s.readFlags rest
  | rest => some (s.opened s.mode, rest)

/-! ## Patterns -/

/-- A sign of repetition, and the question mark that makes it take as little as it can. -/
def readRepetition (s : State) (cs : List Char) : Option (State × List Char) :=
  s.layer.nest.row.repeat?.map fun row =>
    (s.mapNest fun nest => { nest with row }, if cs.head? = some '?' then cs.drop 1 else cs)

def readAtom (s : State) : Atom × List Char → Option (State × List Char)
  | (atom, rest) => if atom.isAllowed s.mode then some (s.push 0, rest) else none

/-- The next piece of a pattern. Repetitions are not counted. -/
def step (s : State) : List Char → Option (State × List Char)
  | [] => none
  | c :: rest =>
    match c with
    | '(' => s.readGroup rest
    | ')' => s.closed?.map fun s => (s, rest)
    | '|' => some (s.mapNest (·.alternated), rest)
    | '[' => (readClass s.mode {} rest).map fun (depth, rest) => (s.push depth, rest)
    | '*' | '+' | '?' => s.readRepetition rest
    | '\x7b' => none
    | '\\' => (readEscape s.mode rest).bind s.readAtom
    | '.' => if s.mode.isUnicode then some (s.push 0, rest) else none
    | '^' | '$' => some (s.push 0, rest)
    | c => s.readAtom (.char c, rest)

/-- Is the rest of the text a rest of the pattern? All groups have to be closed. -/
def completes (s : State) (cs : List Char) : Bool :=
  match s.mode.skip cs with
  | [] => s.outer.isEmpty && s.layer.nest.depth ≤ maxDepth
  | c :: after =>
    match s.step (c :: after) with
    | some (s, rest) => if _h : rest.length < cs.length then s.completes rest else false
    | none => false
termination_by cs.length

end State

/-- Is the text a pattern? -/
def isPattern (s : String) : Bool := ({} : State).completes s.toList

end Switchboard.Pattern
