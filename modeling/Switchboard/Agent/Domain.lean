import Switchboard.Agent.Domain.Mapping
import Switchboard.Text.Punycode
import Switchboard.Text.Unicode.Composition
import Switchboard.Text.Unicode.Direction
import Switchboard.Text.Unicode.Joining
/-!
# Domain names

Names of hosts in any script, and the names of letters, digits and hyphens that they are looked
up by. Characters are mapped and composed, and each label between dots has to be one that can be
told from others on sight; labels beyond ASCII are then written in punycode.

* `Label.decoded?` — a label in its own script.
* `Label.isProper` — may the label stand in a name?
* `Label.keepsDirection` — the same for labels of a name that is written in both directions.
* `asciiName?` — the name that a name is looked up by.
-/

namespace Switchboard.Agent.Domain

open Text

/-! ## Labels -/

namespace Label

/-- What a label in punycode begins with. -/
def mark : List Char := "xn--".toList

def isCoded (label : List Char) : Bool := mark.isPrefixOf label

/-- The longest label in punycode that is read, and the longest label that is written in it. -/
def maxCoded : Nat := 2000
@[inherit_doc maxCoded] def maxPlain : Nat := 1000

/-- A label in its own script. What is written in punycode has to need it, and to be as mapping
and composing would leave it. -/
def decoded? (label : List Char) : Option (List Char) :=
  if isCoded label then
    let coded := label.drop mark.length
    if maxCoded < coded.length then none
    else
      (Punycode.decode coded).filter fun plain =>
        !plain.all Punycode.isBasic && plain.all isValid && composed plain == plain
  else some label

/-- A label in ASCII. -/
def ascii? (label : List Char) : Option (List Char) :=
  if label.all Punycode.isBasic then some label
  else if maxPlain < label.length then none
  else some (mark ++ Punycode.encode label)

/-! ### Joiners -/

/-- Does the nearest letter join on a side? Letters that are passed over do not count. -/
def joins (side : Joining) : List Char → Bool
  | [] => false
  | c :: rest =>
    match joining c with
    | .transparent => joins side rest
    | j => j == side || j == .both

/-- Do joiners stand only where they make a difference? `before` is what is in front, the nearest
first: a joiner follows a mark that takes away a vowel, and one that keeps letters apart may also
stand between letters that would join. -/
def joinersFit (before : List Char) : List Char → Bool
  | [] => true
  | c :: rest =>
    let fits :=
      if c = '\u200d' then before.head?.any isVirama
      else if c = '\u200c' then
        before.head?.any isVirama || (joins .left before && joins .right rest)
      else true
    fits && joinersFit (c :: before) rest

/-- May the label stand in a name? It does not begin with a mark, and joiners fit. -/
def isProper (label : List Char) : Bool :=
  label.all Punycode.isBasic || (!label.head?.any isMark && joinersFit [] label)

/-! ### Directions -/

/-- Is the character of a kind that makes the whole name one of both directions? -/
def isLeftward (c : Char) : Bool :=
  direction c == .leftward || direction c == .arabicNumber

/-- Does the label read in one direction? A label that begins from right to left has no letters
of the other direction and no digits of two kinds, and ends with a letter or digit; one that
begins from left to right likewise. Marks at the end do not count. -/
def keepsDirection (label : List Char) : Bool :=
  let kinds := label.map direction
  let final := (kinds.reverse.dropWhile (· == .mark)).head?
  match kinds.head? with
  | none => true
  | some .leftward =>
    kinds.all [.leftward, .arabicNumber, .europeanNumber, .neutral, .mark].contains
      && final.any [.leftward, .arabicNumber, .europeanNumber].contains
      && !(kinds.contains .arabicNumber && kinds.contains .europeanNumber)
  | some .rightward =>
    kinds.all [.rightward, .europeanNumber, .neutral, .mark].contains
      && final.any [.rightward, .europeanNumber].contains
  | some _ => false

end Label

/-! ## Names -/

def labelsOf (name : List Char) : List (List Char) := name.splitOn '.'

def ofLabels (labels : List (List Char)) : List Char := ['.'].intercalate labels

/-- The name that a name of any script is looked up by. -/
def coded? (name : List Char) : Option (List Char) := do
  let mapped ← name.mapM mappedChar?
  let labels ← (labelsOf (composed mapped.flatten)).mapM Label.decoded?
  if labels.all Label.isProper
      && (!labels.any (·.any Label.isLeftward) || labels.all Label.keepsDirection) then
    return ofLabels (← labels.mapM Label.ascii?)
  else none

/-- The name that a name is looked up by. A name in ASCII without punycode is only put in small
letters. -/
def asciiName? (name : List Char) : Option (List Char) :=
  let lower := name.map Char.toLower
  if name.all Punycode.isBasic && !(labelsOf lower).any Label.isCoded then some lower
  else coded? name

end Switchboard.Agent.Domain
