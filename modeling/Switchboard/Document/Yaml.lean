import Switchboard.Document
import Switchboard.Yaml.Node
/-!
# Documents in YAML

What the scalars of a YAML text say. A plain scalar without a tag is looked at: `~` and `null`
say that there is no value, `true` and `false` are truth values, and numerals may be decimal or
have a base in front. Every scalar is the text it was written as where a text is wanted.

* `plainValue`, `taggedValue` — what a scalar says by itself, and under a tag.
* `ofNode` — the document of a node.
* `ofYaml` — the document that a whole text denotes.
-/

namespace Switchboard.Document

namespace Yaml

open Switchboard.Yaml (Node)

/-- The largest whole number of 64 bits with a sign, and how far the negative ones reach. -/
def maxSigned64 : Nat := 9223372036854775807

/-- A scalar that is a whole number: of no use if it is negative. -/
def integerValue (n : Int) : Scalar := if 0 ≤ n then .natural n.toNat else .other

/-- The bases with the letters that announce them. -/
def baseOf? : Char → Option Nat
  | 'x' => some 16
  | 'o' => some 8
  | 'b' => some 2
  | _ => none

/-- A numeral with its base in front of it. -/
def baseNumeral? (cs : List Char) : Option Scalar :=
  let unsigned (b : Char) (digits : List Char) : Option Scalar := do
    let base ← baseOf? b
    let n ← (Text.readNaturalIn base Text.maxWord64 digits).toOption
    return .natural n
  match cs with
  | '0' :: b :: digits => unsigned b digits
  | '+' :: '0' :: b :: digits => unsigned b digits
  | '-' :: '0' :: b :: digits => do
    let base ← baseOf? b
    let n ← (Text.readIntegerIn base (maxSigned64 + 1) maxSigned64 ('-' :: digits)).toOption
    return integerValue n
  | _ => none

/-- The characters after a sign. -/
def afterSigns (cs : List Char) : List Char := cs.dropWhile fun c => c = '+' || c = '-'

/-- Digits with a zero in front of others are no numeral. -/
def isPadded (cs : List Char) : Bool :=
  match afterSigns cs with
  | '0' :: d :: ds => (d :: ds).all Text.isDigit
  | _ => false

/-- A numeral in decimal digits. -/
def decimal? (cs : List Char) : Option Scalar :=
  if isPadded cs then none
  else
    match Text.readNatural Text.maxWord64 cs with
    | .ok n => some (.natural n)
    | .error _ =>
      match Text.readInteger (maxSigned64 + 1) maxSigned64 cs with
      | .ok n => some (integerValue n)
      | .error _ => none

/-- What a plain scalar without a tag says. -/
def plainValue (s : String) : Scalar :=
  if s = "~" || s = "null" then .nothing
  else if s = "true" then .truth true
  else if s = "false" then .truth false
  else
    match baseNumeral? s.toList with
    | some value => value
    | none => (decimal? s.toList).getD (.text s)

/-- What a scalar says under a tag; a tag that is not one of the notation's own makes a text. -/
def taggedValue (handle name s : String) : Scalar :=
  if handle ≠ "!!" then .text s
  else
    match name with
    | "bool" => if s = "true" then .truth true else if s = "false" then .truth false else .other
    | "int" =>
      match Text.readInteger (maxSigned64 + 1) maxSigned64 s.toList with
      | .ok n => integerValue n
      | .error _ => .other
    | "float" => .other
    | "null" => if s = "~" || s = "null" then .nothing else .other
    | _ => .text s

def leafOf (plain : Bool) (tag : Option (String × String)) (s : String) : Leaf :=
  let bare := s = "~" || s = "null"
  match tag with
  | none => ⟨if plain then plainValue s else .text s, some s, plain && bare⟩
  | some (handle, name) =>
    ⟨taggedValue handle name s, some s, plain && handle = "!!" && name = "null" && bare⟩

/-- The name that a key gives to a field. -/
def nameOf : Node → Option String
  | .scalar _ _ s => some s
  | _ => none

mutual

/-- The document of a node. -/
def ofNode : Node → Document
  | .scalar plain tag s => .leaf (leafOf plain tag s)
  | .list items => .list (ofNodes items)
  | .record entries => .record (ofEntries entries)

def ofNodes : List Node → List Document
  | [] => []
  | n :: ns => ofNode n :: ofNodes ns

/-- The documents of the entries of a record, with their names. -/
def ofEntries : List (Node × Node) → List (Option String × Document)
  | [] => []
  | (k, v) :: rest => (nameOf k, ofNode v) :: ofEntries rest

end

end Yaml

/-- The document that a YAML text denotes. -/
def ofYaml (s : String) : Option Document := (Switchboard.Yaml.Node.read s).map Yaml.ofNode

end Switchboard.Document
