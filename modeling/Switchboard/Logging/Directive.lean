import Switchboard.Logging.Level
import Switchboard.Logging.Pattern
import Switchboard.Text.Binary64
/-!
# Directives

What a filter on log lines is made of: a threshold with the lines that it is for. They are told
by the beginning of their target's name, by the span that they are in, and by a field of the
line or span.

* `FieldValue` — what a field is asked to be: a truth value, a number or a pattern.
* `Directive` — a threshold for a target, for spans, or for all.
* `Directive.read` — a directive from text, by one pass over its characters.
* `Directive.text` — the directive as it is written.
* `Directive.covers`, `rank` — which lines it is for, and how specific it is.
-/

namespace Switchboard

/-! ## Fields -/

/-- What a field is asked to be. -/
inductive FieldValue
  | truth (b : Bool)
  | natural (n : Nat)
  | integer (i : Int)
  | number (x : Text.Binary64)
  | pattern (s : String)
  deriving DecidableEq, Repr, Inhabited

namespace FieldValue

/-- A value from text: what it can be read as first. What is no pattern is no value. -/
def read (s : String) : Option FieldValue :=
  match s with
  | "true" => some (.truth true)
  | "false" => some (.truth false)
  | _ =>
    let cs := s.toList
    match Text.readNatural Text.maxWord64 cs, Text.readInteger 0x8000000000000000 0 cs,
        Text.Binary64.read? cs with
    | .ok n, _, _ => some (.natural n)
    | _, .ok i, _ => some (.integer i)
    | _, _, some x => some (.number x)
    | _, _, none => if Pattern.isPattern s then some (.pattern s) else none

def text : FieldValue → String
  | .truth b => if b then "true" else "false"
  | .natural n => toString n
  | .integer i => toString i
  | .number x => x.text
  | .pattern s => s

/-- Do two values ask for the same? The two zeros are one number. -/
def same : FieldValue → FieldValue → Bool
  | .number (.finite _ 0 _), .number (.finite _ 0 _) => true
  | a, b => a == b

end FieldValue

/-- A field of a line or span, and what it is asked to be, if anything. -/
structure FieldTest where
  name : String
  value : Option FieldValue := none
  deriving DecidableEq, Repr, Inhabited

namespace FieldTest

def text (f : FieldTest) : String :=
  match f.value with
  | none => f.name
  | some value => f.name ++ "=" ++ value.text

/-- A name, and a value behind an equals sign; what follows another one does not count. -/
def read (s : String) : Option FieldTest :=
  match s.splitOn "=" with
  | name :: value :: _ => (FieldValue.read value).map fun value => { name, value }
  | _ => if s = "" then none else some { name := s }

/-- Are two fields asked for the same? -/
def same (a b : FieldTest) : Bool :=
  a.name == b.name &&
    match a.value, b.value with
    | none, none => true
    | some v, some w => v.same w
    | _, _ => false

end FieldTest

/-! ## Directives -/

/-- A threshold with the lines it is for. -/
structure Directive where
  /-- The beginning of the target's name. -/
  target : Option String := none
  span : Option String := none
  field : Option FieldTest := none
  threshold : LogThreshold := .trace
  deriving DecidableEq, Repr, Inhabited

namespace Directive

/-- Can the directive be judged by the line alone? -/
def isStatic (d : Directive) : Bool := d.span.isNone && (d.field.bind (·.value)).isNone

/-- Does the directive look at spans or fields? -/
def isDynamic (d : Directive) : Bool := d.span.isSome || d.field.isSome

def text (d : Directive) : String :=
  let field := (d.field.map fun f => "\x7b" ++ f.text ++ "\x7d").getD ""
  let spans := if d.isDynamic then "[" ++ d.span.getD "" ++ field ++ "]" else ""
  let scope := d.target.getD "" ++ spans
  if d.target.isSome || d.isDynamic then scope ++ "=" ++ d.threshold.text else d.threshold.text

/-- Do two directives cover the same lines? -/
def sameScope (a b : Directive) : Bool :=
  a.target == b.target && a.span == b.span &&
    match a.field, b.field with
    | none, none => true
    | some f, some g => f.same g
    | _, _ => false

/-- Does the directive cover a line of a target with these fields? -/
def covers (d : Directive) (target : String) (fields : List String) : Bool :=
  (d.target.map fun t => t.toList.isPrefixOf target.toList).getD true
    && (d.field.map fun f => fields.contains f.name).getD true

/-- How two directives that are judged by lines alone rank: by the length of the target, then by
whether a field is asked for, then in alphabetical order. -/
def rank (a b : Directive) : Ordering :=
  let length (d : Directive) : Nat := (d.target.map fun t => t.utf8ByteSize + 1).getD 0
  let fieldName (d : Directive) : Option String := d.field.map (·.name)
  compare (length a) (length b)
    |>.then (compare (fieldName a).isSome.toNat (fieldName b).isSome.toNat)
    |>.then (compare (a.target.getD "") (b.target.getD ""))
    |>.then (compare ((fieldName a).getD "") ((fieldName b).getD ""))

/-! ## Reading -/

/-- What the next character of a directive belongs to, and the byte where that began. -/
inductive Place
  | front
  /-- A target, or a threshold alone. -/
  | name (first : Nat)
  | span (first : Nat)
  | field (first : Nat)
  | fieldEnd
  | spanEnd
  | threshold (first : Nat)
  deriving DecidableEq, Repr

/-- Can the character begin a directive that has no span in front? -/
def begins (c : Char) : Bool := c = '-' || c = ':' || c = '_' || Text.isLetterOrNumber c

/-- The text between two bytes, unless that cuts a character. -/
def piece? (s : String) (first last : Nat) : Option String :=
  String.fromUTF8? (s.toUTF8.extract first last)

/-- The directive after one more character, which is at byte `i`. Its parts are taken from the
whole text by their bytes. -/
def step (whole : String) (i : Nat) (d : Directive) (place : Place) (c : Char) :
    Option (Directive × Place) :=
  match place, c with
  | .front, '[' => some (d, .span (i + 1))
  | .front, c => if begins c then some (d, .name i) else none
  | .name first, '=' => do
    return ({ d with target := some (← piece? whole first i) }, .threshold (i + 1))
  | .name first, '[' => do
    return ({ d with target := some (← piece? whole first i) }, .span (i + 1))
  | .span first, ']' => do
    return ({ d with span := some (← piece? whole first i) }, .spanEnd)
  | .span first, '\x7b' => do
    let span ← piece? whole first i
    return ({ d with span := if span = "" then none else some span }, .field (i + 1))
  | .field first, '\x7d' => do
    return ({ d with field := some (← FieldTest.read (← piece? whole first i)) }, .fieldEnd)
  | .fieldEnd, ']' => some (d, .spanEnd)
  | .fieldEnd, _ => none
  | .spanEnd, '=' => some (d, .threshold (i + 1))
  | .spanEnd, _ => none
  | place, _ => some (d, place)

/-- The directive and the place after some characters, of which the first is at byte `i`. -/
def steps (whole : String) (i : Nat) (d : Directive) (place : Place) :
    List Char → Option (Directive × Place)
  | [] => some (d, place)
  | c :: rest => do
    let (d, place) ← step whole i d place c
    steps whole (i + c.utf8Size) d place rest

/-- The directive at the end of its text. A name alone is a threshold if it can be one; a
threshold that is left empty is the widest. -/
def complete (whole : String) : Directive × Place → Option Directive
  | (d, .name first) => do
    let name ← piece? whole first whole.utf8ByteSize
    return match LogThreshold.read name with
      | some threshold => { d with threshold }
      | none => { d with target := some name }
  | (d, .threshold first) => do
    let name ← piece? whole first whole.utf8ByteSize
    if name = "" then some d
    else return { d with threshold := ← LogThreshold.read name }
  | (d, .spanEnd) => some d
  | _ => none

/-- The directive of a text. Blanks around it do not count when the places of its parts are found,
but do when the parts are taken: a part is as many bytes further in front as there are blanks. -/
def read (s : String) : Option Directive :=
  (steps s 0 {} .front (Text.trimmed s).toList).bind (complete s)

end Directive

end Switchboard
