import Switchboard.Yaml.Text
/-!
# Tokens of a YAML text

The text is cut into tokens from left to right. Indentation opens and closes collections, so
that tokens stand for places where a column changes too; and whether a scalar is a key shows
only at the colon behind it, so that the mark of a key is put in front of tokens cut earlier.

* `Token` — the tokens.
* `KeyPlace` — where a key may turn out to have begun.
* `Scanner` — the state: the place, the tokens so far, the columns of the open collections.
* `Scanner.next` — one more token, or the end.
* `tokens` — all tokens of a text.
-/

namespace Switchboard.Yaml

inductive Token
  /-- A line for the reader of the text itself. -/
  | directive
  | start
  | stop
  | openList
  | openRecord
  | close
  | bracket
  | endBracket
  | brace
  | endBrace
  | item
  | comma
  | key
  | value
  | alias_ (name : String)
  | anchor (name : String)
  | tag (handle name : String)
  /-- A scalar, plain or not. -/
  | scalar (plain : Bool) (text : String)
  deriving DecidableEq, Repr, Inhabited

/-- A place where a key may turn out to have begun. -/
structure KeyPlace where
  /-- Can it still turn out so? -/
  possible : Bool := false
  /-- Is it a fault if it does not? -/
  required : Bool := false
  /-- The number of tokens in front of it. -/
  number : Nat := 0
  index : Nat := 0
  line : Nat := 0
  column : Nat := 0
  deriving DecidableEq, Repr, Inhabited

/-- How far behind its key a colon may stand. -/
def keyReach : Nat := 1024

/-- A text being cut into tokens. -/
structure Scanner where
  place : Cursor
  tokens : Array Token := #[]
  /-- The places of keys, that of the innermost brackets first. -/
  keys : List KeyPlace := [{}]
  keyAllowed : Bool := true
  /-- The place right behind a quoted scalar, where a colon needs no blank after it. -/
  adjacent : Nat := 0
  /-- One more than the column of the innermost collection by indentation; zero without one. -/
  floor : Nat := 0
  /-- The same of the collections around it. -/
  floors : List Nat := []
  depth : Nat := 0
  deriving Repr, Inhabited

namespace Scanner

def push (s : Scanner) (t : Token) : Scanner := { s with tokens := s.tokens.push t }

/-- The character here is a token of its own. -/
def pushSkip (s : Scanner) (t : Token) : Scanner :=
  { s with tokens := s.tokens.push t, place := s.place.skip }

def moved (s : Scanner) (c : Cursor) : Scanner := { s with place := c }

/-- Are there open brackets? -/
def inFlow (s : Scanner) : Bool := s.depth != 0

/-! ## Indentation -/

/-- A collection opens at a column, unless one is open there; its token comes after `before`
others. -/
def indent (s : Scanner) (column : Nat) (before : Nat) (t : Token) : Scanner :=
  if s.inFlow || column < s.floor then s
  else
    { s with
      floors := s.floor :: s.floors, floor := column + 1
      tokens := s.tokens.insertIdxIfInBounds before t }

/-- The collections close whose column is at `floor` or to the right of it. -/
def closeTo (floor : Nat) : List Nat → Scanner → Scanner
  | [], s => s
  | outer :: floors, s =>
    if floor < s.floor then
      closeTo floor floors { s with floor := outer, floors, tokens := s.tokens.push .close }
    else s

/-- The text goes on at a column: collections further to the right close. -/
def dedent (s : Scanner) (floor : Nat) : Scanner :=
  if s.inFlow then s else closeTo floor s.floors s

/-! ## Keys -/

/-- Keys whose colon would come too late are given up. -/
def dropStale (s : Scanner) : Option Scanner := do
  let keys ← s.keys.mapM fun k =>
    if k.possible && (k.line < s.place.line || k.index + keyReach < s.place.index) then
      if k.required then none else some { k with possible := false }
    else some k
  return { s with keys }

/-- No key begins where one might have. -/
def dropKey (s : Scanner) : Option Scanner :=
  match s.keys with
  | [] => some s
  | k :: keys =>
    if k.possible && k.required then none
    else some { s with keys := { k with possible := false } :: keys }

/-- A key may begin here, if keys are allowed. -/
def saveKey (s : Scanner) : Option Scanner :=
  if s.keyAllowed then do
    let s ← s.dropKey
    let k : KeyPlace :=
      { possible := true
        required := s.inFlow && s.floor == s.place.column + 1
        number := s.tokens.size
        index := s.place.index, line := s.place.line, column := s.place.column }
    return { s with keys := k :: s.keys.drop 1 }
  else some s

/-! ## Single tokens -/

/-- Blanks, line ends and comments are passed over; after a line end a key may begin. -/
def skipBlank : Nat → Scanner → Scanner
  | 0, s => s
  | fuel + 1, s =>
    match s.place.rest with
    | [] => s
    | x :: _ =>
      if x = ' ' || (x = '\t' && (s.inFlow || !s.keyAllowed)) then
        skipBlank fuel (s.moved s.place.skip)
      else if isBreak x then
        skipBlank fuel { s with place := s.place.skipLine, keyAllowed := s.keyAllowed || !s.inFlow }
      else if x = '#' then skipBlank fuel (s.moved s.place.skipComment)
      else s

def isTagChar (x : Char) : Bool :=
  isWord x || [';', '/', '?', ':', '@', '&', '=', '+', '$', ',', '.', '!', '~', '*', '\'', '(',
    ')', '[', ']', '%'].contains x

/-- The number of bytes that a character takes whose first byte is this. -/
def sequenceLength? (byte : Nat) : Option Nat :=
  if byte < 0x80 then some 1
  else if byte < 0xC0 then none
  else if byte < 0xE0 then some 2
  else if byte < 0xF0 then some 3
  else if byte < 0xF8 then some 4
  else none

/-- The bytes of one escaped character, strung together to a number; `left` of them to come. -/
def readOctets : Nat → Nat → List Char → Option (Nat × List Char)
  | 0, code, cs => some (code, cs)
  | left + 1, code, '%' :: a :: b :: rest =>
    match Text.digitValue? 16 a, Text.digitValue? 16 b with
    | some a, some b =>
      let byte := 16 * a + b
      if byte / 64 = 2 then readOctets left (256 * code + byte) rest else none
    | _, _ => none
  | _ + 1, _, _ => none

/-- One escaped character of a tag, and how many characters it takes. -/
def readTagEscape : List Char → Option (Char × Nat)
  | '%' :: a :: b :: rest => do
    let a ← Text.digitValue? 16 a
    let b ← Text.digitValue? 16 b
    let length ← sequenceLength? (16 * a + b)
    let (code, _) ← readOctets (length - 1) (16 * a + b) rest
    return (← charOf? code, 3 * length)
  | _ => none

/-- The characters of a tag's name from here on, after those read so far. -/
def readTagChars : Nat → List Char → Cursor → Option (List Char × Cursor)
  | 0, _, _ => none
  | fuel + 1, text, c =>
    match c.rest with
    | [] => some (text, c)
    | x :: _ =>
      if x = '%' then
        match readTagEscape c.rest with
        | some (y, n) => readTagChars fuel (text ++ [y]) (c.skipMany n)
        | none => none
      else if isTagChar x then readTagChars fuel (text ++ [x]) c.skip
      else some (text, c)

/-- The handle in front of a tag's name: an exclamation mark, a word, and maybe another mark. -/
def readHandle (directive : Bool) (c : Cursor) : Option (List Char × Cursor) :=
  if c.at_ '!' then
    let word := c.skip.rest.takeWhile isWord
    let after := c.skip.skipMany word.length
    if after.at_ '!' then some ('!' :: word ++ ['!'], after.skip)
    else if directive && !word.isEmpty then none
    else some ('!' :: word, after)
  else none

def readTag (fuel : Nat) (c : Cursor) : Option (Token × Cursor) := do
  let (t, c) : Token × Cursor ←
    match c.rest with
    | '!' :: '<' :: _ =>
      let (name, c) ← readTagChars fuel [] (c.skipMany 2)
      guard (!name.isEmpty && c.at_ '>')
      pure (.tag "" (String.ofList name), c.skip)
    | _ =>
      let (handle, c) ← readHandle false c
      if 2 ≤ handle.length && handle.getLast? == some '!' then
        let (name, c) ← readTagChars fuel [] c
        guard (!name.isEmpty)
        pure (.tag (String.ofList handle) (String.ofList name), c)
      else
        let (name, c) ← readTagChars fuel (handle.drop 1) c
        pure (if name.isEmpty then .tag "" "!" else .tag "!" (String.ofList name), c)
  guard (beginsBlank c.rest)
  return (t, c)

/-- The name of an anchor or an alias, after its sign. -/
def readName (c : Cursor) : Option (String × Cursor) :=
  let word := c.rest.takeWhile isWord
  let c := c.skipMany word.length
  let ends := beginsBlank c.rest || ['?', ':', ',', ']', '\x7d', '%', '@', '`'].any c.at_
  if word.isEmpty || !ends then none else some (String.ofList word, c)

/-- Digits of a version, at most nine. -/
def skipVersion (c : Cursor) : Option Cursor :=
  let n := (c.rest.takeWhile Text.isDigit).length
  if n = 0 || 9 < n then none else some (c.skipMany n)

/-- A directive after its sign: a name, what the directive of that name needs, and the rest of
the line. -/
def readDirective (fuel : Nat) (c : Cursor) : Option Cursor := do
  let name := c.rest.takeWhile isWord
  let c := c.skipMany name.length
  guard (!name.isEmpty && beginsBlank c.rest)
  let c ←
    if name = ['Y', 'A', 'M', 'L'] then
      let c ← skipVersion (c.skipWhile isBlank)
      guard (c.at_ '.')
      skipVersion c.skip
    else if name = ['T', 'A', 'G'] then
      let (_, c) ← readHandle true (c.skipWhile isBlank)
      let (uri, c) ← readTagChars fuel [] (c.skipWhile isBlank)
      guard (!uri.isEmpty && beginsBlank c.rest)
      pure c
    else pure (c.skipWhile fun x => !isBreak x)
  let c := (c.skipWhile isBlank).skipComment
  guard (c.atEnd || c.atBreak)
  return c.skipLine

def quotedScalar (fuel : Nat) (single : Bool) (s : Scanner) : Option Scanner := do
  let s ← s.saveKey
  let (text, c) ← readQuoted single fuel [] s.place.skip
  return { s with
    keyAllowed := false, place := c, adjacent := c.index
    tokens := s.tokens.push (.scalar false (String.ofList text)) }

/-- A plain scalar; a key may begin after it if it ended after the end of a line. -/
def plainScalar (fuel : Nat) (s : Scanner) : Option Scanner := do
  let s ← s.saveKey
  let (text, c, ended) ← readPlain s.inFlow s.floor fuel [] .none s.place
  return { s with
    keyAllowed := ended, place := c
    tokens := s.tokens.push (.scalar true (String.ofList text)) }

def blockScalar (fuel : Nat) (literal : Bool) (s : Scanner) : Option Scanner := do
  let s ← s.saveKey
  let (text, c) ← readBlock literal s.floor fuel s.place.skip
  return { s with
    keyAllowed := true, place := c
    tokens := s.tokens.push (.scalar false (String.ofList text)) }

/-- A colon: what came before it was a key, or else nothing was. -/
def valueMark (s : Scanner) : Option Scanner :=
  match s.keys with
  | [] => none
  | k :: keys =>
    if k.possible then
      let s := { s with tokens := s.tokens.insertIdxIfInBounds k.number .key }
      let s := s.indent k.column k.number .openRecord
      some ({ s with keys := { k with possible := false } :: keys, keyAllowed := false }.pushSkip
        .value)
    else if s.inFlow then some ({ s with keyAllowed := false }.pushSkip .value)
    else if s.keyAllowed then
      some ((s.indent s.place.column s.tokens.size .openRecord).pushSkip .value)
    else none

/-- A question mark in front of a key. -/
def keyMark (s : Scanner) : Option Scanner := do
  guard (s.inFlow || s.keyAllowed)
  let s := s.indent s.place.column s.tokens.size .openRecord
  let s ← s.dropKey
  return { s with keyAllowed := !s.inFlow }.pushSkip .key

/-- A dash in front of an item. -/
def itemMark (s : Scanner) : Option Scanner := do
  guard (!s.inFlow && s.keyAllowed)
  let s := s.indent s.place.column s.tokens.size .openList
  let s ← s.dropKey
  return { s with keyAllowed := true }.pushSkip .item

def openFlow (s : Scanner) (t : Token) : Option Scanner := do
  let s ← s.saveKey
  return { s with keys := {} :: s.keys, depth := s.depth + 1, keyAllowed := true }.pushSkip t

def closeFlow (s : Scanner) (t : Token) : Option Scanner := do
  let s ← s.dropKey
  let keys := if s.inFlow then s.keys.drop 1 else s.keys
  return { s with keys, depth := s.depth - 1, keyAllowed := false }.pushSkip t

def marker (s : Scanner) (t : Token) : Option Scanner := do
  let s ← (s.dedent 0).dropKey
  return { s with keyAllowed := false, place := s.place.skipMany 3 }.push t

/-! ## All tokens -/

/-- The next token, which begins with the character `x` at the place. -/
def token (fuel : Nat) (x : Char) (rest : List Char) (s : Scanner) : Option Scanner :=
  let blank := beginsBlank rest
  if x = '[' then s.openFlow .bracket
  else if x = '\x7b' then s.openFlow .brace
  else if x = ']' then s.closeFlow .endBracket
  else if x = '\x7d' then s.closeFlow .endBrace
  else if x = ',' then do
    let s ← s.dropKey
    return { s with keyAllowed := true }.pushSkip .comma
  else if x = '-' && blank then s.itemMark
  else if x = '?' && blank then s.keyMark
  else if x = ':' && (blank || (s.inFlow && (beginsFlow rest || s.place.index == s.adjacent))) then
    s.valueMark
  else if x = '*' || x = '&' then do
    let s ← s.saveKey
    let (name, c) ← readName s.place.skip
    return { s with keyAllowed := false, place := c }.push
      (if x = '*' then .alias_ name else .anchor name)
  else if x = '!' then do
    let s ← s.saveKey
    let (t, c) ← readTag fuel s.place
    return { s with keyAllowed := false, place := c }.push t
  else if x = '|' && !s.inFlow then s.blockScalar fuel true
  else if x = '>' && !s.inFlow then s.blockScalar fuel false
  else if x = '\'' then s.quotedScalar fuel true
  else if x = '"' then s.quotedScalar fuel false
  else if x = '%' || x = '@' || x = '`' then none
  else s.plainScalar fuel

/-- One more token after blanks; at the end of the text only what is still open closes. The flag
says whether the text goes on. -/
def next (fuel : Nat) (s : Scanner) : Option (Bool × Scanner) := do
  let s ← (skipBlank fuel s).dropStale
  let s := s.dedent (s.place.column + 1)
  match s.place.rest with
  | [] => return (false, ← (s.dedent 0).dropKey)
  | x :: rest =>
    if s.place.column == 0 && x = '%' then
      let s ← (s.dedent 0).dropKey
      let c ← readDirective fuel s.place.skip
      return (true, { s with keyAllowed := false, place := c }.push .directive)
    else if s.place.isStart then return (true, ← s.marker .start)
    else if s.place.isStop then return (true, ← s.marker .stop)
    else return (true, ← s.token fuel x rest)

def run : Nat → Scanner → Option Scanner
  | 0, _ => none
  | fuel + 1, s =>
    match s.next (fuel + 1) with
    | none => none
    | some (true, s) => run fuel s
    | some (false, s) => some s

end Scanner

/-- The tokens of a text; the character zero ends it. -/
def tokens (s : String) : Option (List Token) :=
  let cs := s.toList.takeWhile (· ≠ '\x00')
  ((Scanner.run (cs.length + 2) { place := { rest := cs } }).map fun s => s.tokens.toList)

end Switchboard.Yaml
