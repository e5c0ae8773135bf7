import Switchboard.Text.Numeral
import Switchboard.Yaml.Cursor
/-!
# Scalars in a YAML text

The three ways to write a scalar: plain, between quotes, and as a block of lines. Line ends
within a plain or quoted scalar are folded: a single one counts as a blank, and of several the
first is dropped.

* `Gap` — blanks and line ends between two words, and the text that is left of them.
* `readPlain` — a plain scalar.
* `readQuoted` — a scalar between single or double quotes.
* `readBlock` — a scalar of whole lines, taken as they are or folded.

The readers take as fuel any number above the length of the text that is left: every step uses
up a character, or is the last.
-/

namespace Switchboard.Yaml

/-! ## Gaps between words -/

/-- What stands between two words: blanks, or line ends among blanks. -/
inductive Gap
  | blanks (cs : List Char)
  /-- Line ends; the first of them may have been escaped and counts for nothing. -/
  | breaks (escaped : Bool) (more : Nat)
  deriving DecidableEq, Repr, Inhabited

namespace Gap

/-- Nothing at all. -/
def none : Gap := .blanks []

/-- Does the gap go over the end of a line? -/
def isBreaks : Gap → Bool
  | .blanks _ => false
  | .breaks .. => true

/-- The text that is left of a gap. -/
def folded : Gap → List Char
  | .blanks cs => cs
  | .breaks escaped more =>
    if !escaped && more == 0 then [' '] else List.replicate more '\n'

def addBlank (g : Gap) (c : Char) : Gap :=
  match g with
  | .blanks cs => .blanks (cs ++ [c])
  | g => g

def addBreak : Gap → Gap
  | .blanks _ => .breaks false 0
  | .breaks escaped more => .breaks escaped (more + 1)

end Gap

/-- The gap that begins here, and the place after it. In front of column `indent` of a further
line no tab is allowed. -/
def readGap (indent : Nat) : Nat → Gap → Cursor → Option (Gap × Cursor)
  | 0, _, _ => none
  | fuel + 1, g, c =>
    match c.rest with
    | [] => some (g, c)
    | x :: _ =>
      if isBlank x then
        if g.isBreaks && c.column < indent && x = '\t' then none
        else readGap indent fuel (g.addBlank x) c.skip
      else if isBreak x then readGap indent fuel g.addBreak c.skipLine
      else some (g, c)

/-! ## Plain scalars -/

/-- The word at the front of a text. It ends at a blank or line end and at a colon in front of
one; within brackets also at their signs, and at a colon in front of one. -/
def plainWord (inFlow : Bool) : List Char → List Char
  | [] => []
  | x :: rest =>
    if isBlank x || isBreak x then []
    else if x = ':' && (beginsBlank rest || (inFlow && beginsFlow rest)) then []
    else if inFlow && isFlow x then []
    else x :: plainWord inFlow rest

/-- A plain scalar from here on, after the text and the gap read so far: its text, the place
after it, and whether it ended after the end of a line. -/
def readPlain (inFlow : Bool) (indent : Nat) :
    Nat → List Char → Gap → Cursor → Option (List Char × Cursor × Bool)
  | 0, _, _, _ => none
  | fuel + 1, text, gap, c =>
    if c.isMarker || c.at_ '#' then some (text, c, gap.isBreaks)
    else
      let word := plainWord inFlow c.rest
      let text := if word.isEmpty then text else text ++ gap.folded ++ word
      let gap := if word.isEmpty then gap else .none
      let c := c.skipMany word.length
      if c.atBlank || c.atBreak then
        match readGap indent (fuel + 1) gap c with
        | none => none
        | some (gap, c) =>
          if !inFlow && c.column < indent then some (text, c, gap.isBreaks)
          else readPlain inFlow indent fuel text gap c
      else some (text, c, gap.isBreaks)

/-! ## Quoted scalars -/

/-- What a character after a backslash begins. -/
inductive Escape
  | char (c : Char)
  /-- A character by its code, in so many hexadecimal digits. -/
  | code (digits : Nat)
  deriving DecidableEq, Repr, Inhabited

/-- The meaning of a character after a backslash. -/
def escape? : Char → Option Escape
  | '0' => some (.char '\x00')
  | 'a' => some (.char '\x07')
  | 'b' => some (.char '\x08')
  | 't' => some (.char '\t')
  | '\t' => some (.char '\t')
  | 'n' => some (.char '\n')
  | 'v' => some (.char '\x0b')
  | 'f' => some (.char '\x0c')
  | 'r' => some (.char '\r')
  | 'e' => some (.char '\x1b')
  | ' ' => some (.char ' ')
  | '"' => some (.char '"')
  | '\'' => some (.char '\'')
  | '\\' => some (.char '\\')
  | 'N' => some (.char '\u0085')
  | '_' => some (.char '\u00a0')
  | 'L' => some (.char '\u2028')
  | 'P' => some (.char '\u2029')
  | 'x' => some (.code 2)
  | 'u' => some (.code 4)
  | 'U' => some (.code 8)
  | _ => none

def hexValue? (ds : List Char) : Option Nat :=
  ds.foldlM (fun n d => (Text.digitValue? 16 d).map (16 * n + ·)) 0

/-- The character of a code, if it is one. -/
def charOf? (n : Nat) : Option Char :=
  if h : n.isValidChar then some (Char.ofNatAux n h) else none

/-- The character that `digits` hexadecimal digits at the front of a text stand for. -/
def codedChar? (digits : Nat) (cs : List Char) : Option Char :=
  if cs.length < digits then none else (hexValue? (cs.take digits)).bind charOf?

/-- Characters up to a blank, a line end or the closing quote, after those read so far. A
backslash at the end of a line takes the line end with it, and ends the run; the flag tells. -/
def readRun (single : Bool) : Nat → List Char → Cursor → Option (List Char × Cursor × Bool)
  | 0, _, _ => none
  | fuel + 1, text, c =>
    match c.rest with
    | [] => some (text, c, false)
    | x :: rest =>
      if isBlank x || isBreak x then some (text, c, false)
      else if single then
        if x = '\'' then
          if rest.head? == some '\'' then readRun single fuel (text ++ ['\'']) (c.skipMany 2)
          else some (text, c, false)
        else readRun single fuel (text ++ [x]) c.skip
      else if x = '"' then some (text, c, false)
      else if x = '\\' then
        match rest with
        | [] => none
        | y :: more =>
          if isBreak y then some (text, c.skip.skipLine, true)
          else
            match escape? y with
            | none => none
            | some (.char z) => readRun single fuel (text ++ [z]) (c.skipMany 2)
            | some (.code digits) =>
              match codedChar? digits more with
              | none => none
              | some z => readRun single fuel (text ++ [z]) (c.skipMany (2 + digits))
      else readRun single fuel (text ++ [x]) c.skip

def quoteOf (single : Bool) : Char := if single then '\'' else '"'

/-- A quoted scalar after its opening quote and the text read so far, with its closing quote. -/
def readQuoted (single : Bool) : Nat → List Char → Cursor → Option (List Char × Cursor)
  | 0, _, _ => none
  | fuel + 1, text, c =>
    if c.isMarker || c.atEnd then none
    else
      match readRun single (fuel + 1) text c with
      | none => none
      | some (text, c, escaped) =>
        if c.at_ (quoteOf single) then some (text, c.skip)
        else
          match readGap 0 (fuel + 1) (if escaped then .breaks true 0 else .none) c with
          | none => none
          | some (gap, c) => readQuoted single fuel (text ++ gap.folded) c

/-! ## Blocks of lines -/

/-- What becomes of the line ends at the end of a block. -/
inductive Chomp
  | strip
  /-- The last line keeps its end. -/
  | clip
  | keep
  deriving DecidableEq, Repr, Inhabited

/-- The sign of a way to chomp. -/
def chomp? : Char → Option Chomp
  | '+' => some .keep
  | '-' => some .strip
  | _ => none

/-- The digit that says how far a block is indented: not zero. -/
def indentDigit? (x : Char) : Option Nat :=
  if '1' ≤ x && x ≤ '9' then some (x.toNat - 48) else none

/-- The head of a block: how to chomp, how far it is indented if it says so, and the place
after both, which come in either order. -/
def readHead (c : Cursor) : Option (Chomp × Nat × Cursor) :=
  match c.rest with
  | [] => some (.clip, 0, c)
  | x :: rest =>
    match chomp? x with
    | some how =>
      match rest with
      | y :: _ =>
        if y = '0' then none
        else
          match indentDigit? y with
          | some n => some (how, n, c.skipMany 2)
          | none => some (how, 0, c.skip)
      | [] => some (how, 0, c.skip)
    | none =>
      if x = '0' then none
      else
        match indentDigit? x with
        | none => some (.clip, 0, c)
        | some n =>
          match rest.head?.bind chomp? with
          | some how => some (how, n, c.skipMany 2)
          | none => some (.clip, n, c.skip)

/-- Empty lines and the indentation of the next line: their number, and the place after them.
With `indent` zero the indentation is still to be found, and any number of blanks is taken. -/
def readEmptyLines (indent : Nat) : Nat → Nat → Nat → Cursor → Option (Nat × Nat × Cursor)
  | 0, _, _, _ => none
  | fuel + 1, count, widest, c =>
    let blanks := (c.rest.takeWhile (· = ' ')).length
    let c := c.skipMany (if indent = 0 then blanks else min blanks (indent - c.column))
    let widest := max widest c.column
    if (indent = 0 || c.column < indent) && c.at_ '\t' then none
    else if c.atBreak then readEmptyLines indent fuel (count + 1) widest c.skipLine
    else some (count, widest, c)

/-- Where the lines of a block begin, if its head does not say: as far right as the empty lines
and the first line reach, but within what holds the block. -/
def foundIndent (floor widest : Nat) : Nat := max 1 (max floor widest)

/-- The lines of a block from here on, after the text read so far. `ends` says whether a line
end is still to be written and `empty` how many empty lines follow it; `indented` whether the
last line began with a blank, so that its end is not folded. -/
def readLines (literal : Bool) (indent : Nat) :
    Nat → List Char → Bool → Nat → Bool → Cursor → Option (List Char × Bool × Nat × Cursor)
  | 0, _, _, _, _, _ => none
  | fuel + 1, text, ends, empty, indented, c =>
    if c.column = indent && !c.atEnd then
      let blank := c.atBlank
      let join : List Char :=
        if !literal && ends && !indented && !blank then
          if empty = 0 then [' '] else []
        else if ends then ['\n'] else []
      let words := c.rest.takeWhile fun x => !isBreak x
      let text := text ++ join ++ List.replicate empty '\n' ++ words
      let c := c.skipMany words.length
      if c.atEnd then some (text, false, 0, c)
      else
        match readEmptyLines indent (fuel + 1) 0 0 c.skipLine with
        | none => none
        | some (empty, _, c) => readLines literal indent fuel text true empty blank c
    else some (text, ends, empty, c)

/-- A block after its sign: its text and the place after it. `floor` is the first column that
the lines may begin in. -/
def readBlock (literal : Bool) (floor fuel : Nat) (c : Cursor) : Option (List Char × Cursor) := do
  let (how, increment, c) ← readHead c
  let c := (c.skipWhile isBlank).skipComment
  guard (c.atEnd || c.atBreak)
  let c := c.skipLine
  let told := if increment = 0 then 0 else if floor = 0 then increment else floor - 1 + increment
  let (empty, widest, c) ← readEmptyLines told fuel 0 0 c
  let indent := if told = 0 then foundIndent floor widest else told
  let (text, ends, empty, c) ← readLines literal indent fuel [] false empty false c
  let text := if how ≠ .strip && ends then text ++ ['\n'] else text
  return (if how = .keep then text ++ List.replicate empty '\n' else text, c)

end Switchboard.Yaml
