import Switchboard.Yaml.Token
/-!
# Nodes of a YAML text

The tree that the tokens of a text make: scalars, lists and records. A node may carry a name and
stand again wherever its name is called, as long as it is complete there. A text holds exactly
one document.

* `Node` — the tree, with the tag of each scalar.
* `Names` — the nodes that can be called by name.
* `readNode` and the readers beside it — a node at the front of a list of tokens, and the parts
  of lists and records.
* `Node.ofTokens` — the one document of a text.
-/

namespace Switchboard.Yaml

/-- A node of the tree. -/
inductive Node
  /-- A scalar: whether it was plain, its tag by handle and name, and its text. -/
  | scalar (plain : Bool) (tag : Option (String × String)) (text : String)
  | list (items : List Node)
  /-- A record, whose keys may be any nodes. -/
  | record (entries : List (Node × Node))
  deriving Repr

namespace Node

def blank : Node := .scalar true none "~"

instance : Inhabited Node := ⟨blank⟩

end Node

/-- The names given to nodes so far. A name given again stands for the later node. -/
structure Names where
  /-- Each name with the number of its node, the latest first. -/
  given : List (String × Nat) := []
  complete : List (Nat × Node) := []
  deriving Repr, Inhabited

namespace Names

/-- A name for a node that begins here, and the number of the node. -/
def give (n : Names) (name : String) : Nat × Names :=
  (n.given.length, { n with given := (name, n.given.length) :: n.given })

def finish (n : Names) (number : Nat) (node : Node) : Names :=
  { n with complete := (number, node) :: n.complete }

/-- The complete node that a name stands for. -/
def call (n : Names) (name : String) : Option Node :=
  (n.given.lookup name).bind fun number => n.complete.lookup number

end Names

/-- The tokens that are left, and the names given so far. -/
structure Feeder where
  rest : List Token
  names : Names := {}
  deriving Repr, Inhabited

namespace Feeder

def drop (f : Feeder) (n : Nat) : Feeder := { f with rest := f.rest.drop n }

end Feeder

mutual

/-- A node at the front of the tokens. Collections by indentation are allowed in it only if
`block`, and dashes without indentation only if `dashes`. -/
def readNode : Nat → Bool → Bool → Feeder → Option (Node × Feeder)
  | 0, _, _, _ => none
  | fuel + 1, block, dashes, f =>
    match f.rest with
    | .alias_ name :: _ => (f.names.call name).map fun node => (node, f.drop 1)
    | .anchor name :: .tag handle suffix :: _ =>
      readNamed fuel block dashes name (some (handle, suffix)) (f.drop 2)
    | .tag handle suffix :: .anchor name :: _ =>
      readNamed fuel block dashes name (some (handle, suffix)) (f.drop 2)
    | .anchor name :: _ => readNamed fuel block dashes name none (f.drop 1)
    | .tag handle suffix :: _ =>
      readContent fuel block dashes false (some (handle, suffix)) (f.drop 1)
    | _ => readContent fuel block dashes false none f

/-- A node that is given a name. -/
def readNamed : Nat → Bool → Bool → String → Option (String × String) → Feeder →
    Option (Node × Feeder)
  | 0, _, _, _, _, _ => none
  | fuel + 1, block, dashes, name, tag, f =>
    let (number, names) := f.names.give name
    match readContent fuel block dashes true tag { f with names } with
    | none => none
    | some (node, f) => some (node, { f with names := f.names.finish number node })

/-- A node without its name and tag. Where there is one of these, the node may be empty. -/
def readContent : Nat → Bool → Bool → Bool → Option (String × String) → Feeder →
    Option (Node × Feeder)
  | 0, _, _, _, _, _ => none
  | fuel + 1, block, dashes, named, tag, f =>
    match f.rest with
    | .scalar plain text :: _ => some (.scalar plain tag text, f.drop 1)
    | .bracket :: _ => (readBracket fuel true (f.drop 1)).map fun p => (.list p.1, p.2)
    | .brace :: _ => (readBrace fuel true (f.drop 1)).map fun p => (.record p.1, p.2)
    | t :: _ =>
      if t = .item && dashes then (readDashes fuel f).map fun p => (.list p.1, p.2)
      else if t = .openList && block then
        (readItems fuel (f.drop 1)).map fun p => (.list p.1, p.2)
      else if t = .openRecord && block then
        (readEntries fuel (f.drop 1)).map fun p => (.record p.1, p.2)
      else if named || tag.isSome then some (.scalar true tag "", f)
      else none
    | [] => if named || tag.isSome then some (.scalar true tag "", f) else none

/-- A node, or nothing where one of the tokens follows that cannot begin it. -/
def readOrBlank : Nat → Bool → Bool → List Token → Feeder → Option (Node × Feeder)
  | 0, _, _, _, _ => none
  | fuel + 1, block, dashes, stops, f =>
    match f.rest with
    | t :: _ =>
      if stops.contains t then some (.blank, f) else readNode fuel block dashes f
    | [] => readNode fuel block dashes f

/-- The entries of a record by indentation, after the token that opens it. -/
def readEntries : Nat → Feeder → Option (List (Node × Node) × Feeder)
  | 0, _ => none
  | fuel + 1, f =>
    let key : Option (Option (Node × Feeder)) :=
      match f.rest with
      | .key :: _ => some (readOrBlank fuel true true [.key, .value, .close] (f.drop 1))
      | .value :: _ => some (some (.blank, f))
      | _ => none
    match key with
    | some none => none
    | some (some (k, f)) =>
      let value : Option (Node × Feeder) :=
        match f.rest with
        | .value :: _ => readOrBlank fuel true true [.key, .value, .close] (f.drop 1)
        | _ => some (.blank, f)
      match value with
      | none => none
      | some (v, f) => (readEntries fuel f).map fun p => ((k, v) :: p.1, p.2)
    | none =>
      match f.rest with
      | .close :: _ => some ([], f.drop 1)
      | _ => none

def readItems : Nat → Feeder → Option (List Node × Feeder)
  | 0, _ => none
  | fuel + 1, f =>
    match f.rest with
    | .close :: _ => some ([], f.drop 1)
    | .item :: _ =>
      match readOrBlank fuel true false [.item, .close] (f.drop 1) with
      | none => none
      | some (node, f) => (readItems fuel f).map fun p => (node :: p.1, p.2)
    | _ => none

/-- The items of a list whose dashes stand in the column of the record around it. -/
def readDashes : Nat → Feeder → Option (List Node × Feeder)
  | 0, _ => none
  | fuel + 1, f =>
    match f.rest with
    | .item :: _ =>
      match readOrBlank fuel true false [.item, .key, .value, .close] (f.drop 1) with
      | none => none
      | some (node, f) => (readDashes fuel f).map fun p => (node :: p.1, p.2)
    | _ => some ([], f)

/-- The items of a list in brackets. An item may be a record of a single entry without braces. -/
def readBracket : Nat → Bool → Feeder → Option (List Node × Feeder)
  | 0, _, _ => none
  | fuel + 1, first, f =>
    let next : Option Feeder :=
      match f.rest with
      | .endBracket :: _ => some f
      | .comma :: _ => if first then some f else some (f.drop 1)
      | _ => if first then some f else none
    match next with
    | none => none
    | some f =>
      match f.rest with
      | .endBracket :: _ => some ([], f.drop 1)
      | .key :: _ =>
        match readPair fuel (f.drop 1) with
        | none => none
        | some (node, f) => (readBracket fuel false f).map fun p => (node :: p.1, p.2)
      | _ =>
        match readNode fuel false false f with
        | none => none
        | some (node, f) => (readBracket fuel false f).map fun p => (node :: p.1, p.2)

/-- A record of a single entry within brackets, after the token of its key. -/
def readPair : Nat → Feeder → Option (Node × Feeder)
  | 0, _ => none
  | fuel + 1, f =>
    let key : Option (Node × Feeder) :=
      match f.rest with
      | t :: _ =>
        if t = .value || t = .comma || t = .endBracket then some (.blank, f.drop 1)
        else readNode fuel false false f
      | [] => none
    match key with
    | none => none
    | some (k, f) =>
      let value : Option (Node × Feeder) :=
        match f.rest with
        | .value :: _ => readOrBlank fuel false false [.comma, .endBracket] (f.drop 1)
        | _ => some (.blank, f)
      value.map fun p => (.record [(k, p.1)], p.2)

/-- The entries of a record in braces. -/
def readBrace : Nat → Bool → Feeder → Option (List (Node × Node) × Feeder)
  | 0, _, _ => none
  | fuel + 1, first, f =>
    let next : Option Feeder :=
      match f.rest with
      | .endBrace :: _ => some f
      | .comma :: _ => if first then some f else some (f.drop 1)
      | _ => if first then some f else none
    match next with
    | none => none
    | some f =>
      match f.rest with
      | .endBrace :: _ => some ([], f.drop 1)
      | _ =>
        let marked := f.rest.head? == some .key
        let key : Option (Node × Feeder) :=
          match f.rest with
          | .key :: _ => readOrBlank fuel false false [.value, .comma, .endBrace] (f.drop 1)
          | .value :: _ => some (.blank, f)
          | _ => readNode fuel false false f
        match key with
        | none => none
        | some (k, g) =>
          let value : Option (Node × Feeder) :=
            match g.rest with
            | .value :: _ =>
              if marked || f.rest.head? == some .value then
                readOrBlank fuel false false [.comma, .endBrace] (g.drop 1)
              else some (.blank, g)
            | _ => some (.blank, g)
          match value with
          | none => none
          | some (v, f) => (readBrace fuel false f).map fun p => ((k, v) :: p.1, p.2)

end

/-- The tokens without the directives in front of them. -/
def dropDirectives (ts : List Token) : List Token := ts.dropWhile (· == .directive)

/-- The node of a document after its marker; nothing need be there. -/
def readDocument (fuel : Nat) (f : Feeder) : Option (Node × Feeder) :=
  match f.rest with
  | [] => some (.blank, f)
  | t :: _ =>
    if t = .directive || t = .start || t = .stop then some (.blank, f)
    else readNode fuel true false f

/-- The one document that the tokens of a text make. -/
def Node.ofTokens (ts : List Token) : Option Node :=
  let fuel := 4 * ts.length + 4
  let document : Option (Node × Feeder) :=
    match ts with
    | [] => none
    | .directive :: _ =>
      match dropDirectives ts with
      | .start :: ts => readDocument fuel { rest := ts }
      | _ => none
    | .start :: ts => readDocument fuel { rest := ts }
    | ts => readNode fuel true false { rest := ts }
  match document with
  | none => none
  | some (node, f) => if (f.rest.dropWhile (· == .stop)).isEmpty then some node else none

/-- The one document of a text. -/
def Node.read (s : String) : Option Node := (tokens s).bind Node.ofTokens

end Switchboard.Yaml
