/-!
# A place in a YAML text

The text that is left, and where it begins: how many characters lie before it, in which line
and in which column. A line ends at a line feed, a carriage return, or both; only a line feed
moves the place to the next line.

* `isBreak`, `isBlank`, `isWord`, `isFlow` — the classes of characters that the notation knows.
* `beginsBlank`, `beginsFlow` — with which of them a text begins.
* `Cursor` — the place; `skip`, `skipMany`, `skipLine`, `skipWhile` — moving on.
* `Cursor.isMarker` — does one of the markers `---` and `...` stand here?
-/

namespace Switchboard.Yaml

/-- Does the character end a line? -/
def isBreak (c : Char) : Bool := c = '\n' || c = '\r'

/-- Is the character a blank or a tab? -/
def isBlank (c : Char) : Bool := c = ' ' || c = '\t'

/-- Can the character stand in a name? -/
def isWord (c : Char) : Bool :=
  ('0' ≤ c && c ≤ '9') || ('a' ≤ c && c ≤ 'z') || ('A' ≤ c && c ≤ 'Z') || c = '_' || c = '-'

/-- Does the character belong to the brackets and commas of a collection in brackets? -/
def isFlow (c : Char) : Bool :=
  c = ',' || c = '[' || c = ']' || c = '\x7b' || c = '\x7d'

/-- Does the text begin with a blank or a line end, or is there none? -/
def beginsBlank : List Char → Bool
  | [] => true
  | c :: _ => isBlank c || isBreak c

/-- Does the text begin with a bracket or comma of a collection in brackets? -/
def beginsFlow : List Char → Bool
  | [] => false
  | c :: _ => isFlow c

/-- A place in a text. -/
structure Cursor where
  rest : List Char
  index : Nat := 0
  line : Nat := 0
  /-- The number of characters since the last line feed. -/
  column : Nat := 0
  deriving DecidableEq, Repr, Inhabited

namespace Cursor

/-- The place after the next character. -/
def skip (c : Cursor) : Cursor :=
  match c.rest with
  | [] => c
  | '\n' :: rest => ⟨rest, c.index + 1, c.line + 1, 0⟩
  | _ :: rest => ⟨rest, c.index + 1, c.line, c.column + 1⟩

/-- The place after `n` characters. -/
def skipMany : Nat → Cursor → Cursor
  | 0, c => c
  | n + 1, c => skipMany n c.skip

@[simp] theorem rest_skip (c : Cursor) : c.skip.rest = c.rest.tail := by
  obtain ⟨rest, index, line, column⟩ := c
  unfold skip
  split <;> simp_all

@[simp] theorem rest_skipMany (n : Nat) (c : Cursor) : (c.skipMany n).rest = c.rest.drop n := by
  induction n generalizing c with
  | zero => rfl
  | succ n ih => rw [skipMany, ih, rest_skip, List.drop_tail]

/-- The place after the characters of a class. -/
def skipWhile (p : Char → Bool) (c : Cursor) : Cursor :=
  c.skipMany (c.rest.takeWhile p).length

@[simp] theorem rest_skipWhile (p : Char → Bool) (c : Cursor) :
    (c.skipWhile p).rest = c.rest.dropWhile p := by
  have hsplit : c.rest.takeWhile p ++ c.rest.dropWhile p = c.rest := List.takeWhile_append_dropWhile
  rw [skipWhile, rest_skipMany]
  conv => lhs; arg 2; rw [← hsplit]
  exact List.drop_left

/-- The place after a line end, if there is one here. -/
def skipLine (c : Cursor) : Cursor :=
  match c.rest with
  | '\r' :: '\n' :: _ => c.skipMany 2
  | '\r' :: _ => c.skip
  | '\n' :: _ => c.skip
  | _ => c

/-- The place after blanks and, if a number sign follows, the comment up to the line's end. -/
def skipComment (c : Cursor) : Cursor :=
  match c.rest with
  | '#' :: _ => c.skipWhile fun x => !isBreak x
  | _ => c

def atEnd (c : Cursor) : Bool := c.rest.isEmpty

def atBreak (c : Cursor) : Bool :=
  match c.rest with
  | x :: _ => isBreak x
  | [] => false

def atBlank (c : Cursor) : Bool :=
  match c.rest with
  | x :: _ => isBlank x
  | [] => false

def at_ (x : Char) (c : Cursor) : Bool := c.rest.head? == some x

/-- Is this the start of a line on which a document begins? -/
def isStart (c : Cursor) : Bool :=
  c.column == 0 &&
    match c.rest with
    | '-' :: '-' :: '-' :: rest => beginsBlank rest
    | _ => false

/-- Is this the start of a line on which a document ends? -/
def isStop (c : Cursor) : Bool :=
  c.column == 0 &&
    match c.rest with
    | '.' :: '.' :: '.' :: rest => beginsBlank rest
    | _ => false

/-- Does one of the markers between documents stand here? -/
def isMarker (c : Cursor) : Bool := c.isStart || c.isStop

end Cursor

end Switchboard.Yaml
