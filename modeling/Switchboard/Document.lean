/-!
# Documents

What the notations for settings and answers have in common: leaves, lists and records, whatever
text they were read from. A record may be written with its fields by name, or as a list of its
fields in order.

* `Document` — the tree; `Leaf` — what a scalar says, and the text it stands for.
* `Document.asText`, `asTruth`, `asNatural`, `asList`, `asOptional` — a document read as a value
  of a kind; nothing if it is not of that kind.
* `Document.fields` — the fields of a record; `Fields.required`, `defaulted`, `optional` — a
  field read as a value, with what stands in for one that is missing.
-/

namespace Switchboard

/-- What a scalar says where its kind is not known beforehand. -/
inductive Scalar
  | nothing
  | truth (b : Bool)
  | natural (n : Nat)
  | text (s : String)
  /-- A value of no use here: a negative number, a fraction, or a text that is none. -/
  | other
  deriving DecidableEq, Repr, Inhabited

/-- A scalar as it stands in a document. -/
structure Leaf where
  value : Scalar
  /-- The text it is where a text is wanted. -/
  written : Option String
  /-- Does it leave an optional value out? -/
  isAbsent : Bool
  deriving DecidableEq, Repr, Inhabited

/-- A tree of leaves, lists and records. -/
inductive Document
  | leaf (l : Leaf)
  | list (items : List Document)
  /-- Documents with their names, in order; a name that is no text is left out. -/
  | record (entries : List (Option String × Document))
  deriving Repr

namespace Document

instance : Inhabited Document := ⟨.list []⟩

def asText : Document → Option String
  | .leaf l => l.written
  | _ => none

def asTruth : Document → Option Bool
  | .leaf ⟨.truth b, _, _⟩ => some b
  | _ => none

/-- The document as a natural number of at most `limit`. -/
def asNatural (limit : Nat) : Document → Option Nat
  | .leaf ⟨.natural n, _, _⟩ => if n ≤ limit then some n else none
  | _ => none

/-- The document as a list of values. -/
def asList {α : Type} (read : Document → Option α) : Document → Option (List α)
  | .list items => items.mapM read
  | _ => none

/-- The document as a value that may be left out. -/
def asOptional {α : Type} (read : Document → Option α) (d : Document) : Option (Option α) :=
  match d with
  | .leaf ⟨_, _, true⟩ => some none
  | d => (read d).map some

/-! ## Records -/

/-- The fields of a record, in a fixed order. -/
structure Fields where
  /-- Was the record written as a list? -/
  listed : Bool
  values : List (Option Document)
  deriving Repr, Inhabited

/-- The fields of these names. A list gives them in order and may stop early. A record gives
each at most once; other names are allowed in it only if the record is open to them. -/
def fields (names : List String) (open_ : Bool) : Document → Option Fields
  | .leaf _ => none
  | .list items =>
    if items.length ≤ names.length then
      some ⟨true, items.map some ++ List.replicate (names.length - items.length) none⟩
    else none
  | .record entries =>
    let known := entries.all fun e =>
      match e.1 with
      | some name => open_ || names.contains name
      | none => false
    let once := names.all fun name => entries.countP (fun e => e.1 == some name) ≤ 1
    if known && once then
      some ⟨false, names.map fun name => entries.lookup (some name)⟩
    else none

namespace Fields

/-- The document of the field at a position. -/
def at? (f : Fields) (i : Nat) : Option Document := (f.values[i]?).join

def required {α : Type} (f : Fields) (i : Nat) (read : Document → Option α) : Option α :=
  (f.at? i).bind read

/-- A field with a value that stands in for it when it is missing. -/
def defaulted {α : Type} (f : Fields) (i : Nat) (read : Document → Option α) (fallback : α) :
    Option α :=
  match f.at? i with
  | some d => read d
  | none => some fallback

/-- A field whose value may be left out; in a list it still has its place. -/
def optional {α : Type} (f : Fields) (i : Nat) (read : Document → Option α) :
    Option (Option α) :=
  match f.at? i with
  | some d => d.asOptional read
  | none => if f.listed then none else some none

end Fields

end Document

end Switchboard
