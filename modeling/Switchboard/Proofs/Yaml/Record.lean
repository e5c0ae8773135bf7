import Switchboard.Document.Yaml
import Switchboard.Proofs.Yaml.Block
/-!
# Reading records by indentation

A record that is written by indentation is read back: the tree of its tokens is the record again, whatever
records are within it.

* `Block.node`, `Entries.nodes` — the tree; `Block.document`, `Entries.document` — the document.
* `readNode_block`, `readEntries_entries` — the tree from the tokens, with four units of fuel for each.
* `ofYaml_text` — the document that a text by indentation denotes.
-/

namespace Switchboard.Yaml

mutual

/-- The node of a value. -/
def Block.node : Block → Node
  | .scalar style word => .scalar style.isPlain none word.text
  | .record entries => .record entries.nodes

/-- The nodes of entries. -/
def Entries.nodes : Entries → List (Node × Node)
  | .last key value => [(.scalar true none key.text, value.node)]
  | .cons key value rest => (.scalar true none key.text, value.node) :: rest.nodes

end

mutual

/-- The document of a value. -/
def Block.document : Block → Document
  | .scalar style word => .leaf (Document.Yaml.leafOf style.isPlain none word.text)
  | .record entries => .record entries.documents

/-- The documents of entries, with their names. -/
def Entries.documents : Entries → List (Option String × Document)
  | .last key value => [(some key.text, value.document)]
  | .cons key value rest => (some key.text, value.document) :: rest.documents

end

mutual

theorem Block.ofNode_node : ∀ b : Block, Document.Yaml.ofNode b.node = b.document
  | .scalar _ _ => rfl
  | .record es => congrArg Document.record es.ofEntries_nodes

theorem Entries.ofEntries_nodes : ∀ es : Entries, Document.Yaml.ofEntries es.nodes = es.documents
  | .last key value => congrArg (fun d => [(some key.text, d)]) value.ofNode_node
  | .cons key value rest => by
    rw [Entries.nodes, Document.Yaml.ofEntries, value.ofNode_node, rest.ofEntries_nodes]
    rfl

end

/-! ## Nodes from tokens -/

/-- A value begins with no token that would end the entry before. -/
theorem Block.readOrBlank_eq (b : Block) (fuel : Nat) (rest : List Token) (names : Names) :
    readOrBlank (fuel + 1) true true [.key, .value, .close] ⟨b.tokens ++ rest, names⟩
      = readNode fuel true true ⟨b.tokens ++ rest, names⟩ := by
  cases b with
  | scalar | record => rfl

/-- The key of an entry, and its value behind it. -/
theorem readEntries_key (fuel : Nat) (k : Name) (ts : List Token) (names : Names) :
    readEntries (fuel + 4) ⟨.key :: .scalar true k.text :: .value :: ts, names⟩
      = match readOrBlank (fuel + 3) true true [.key, .value, .close] ⟨ts, names⟩ with
        | none => none
        | some (v, f) => (readEntries (fuel + 3) f).map fun p =>
          ((.scalar true none k.text, v) :: p.1, p.2) := rfl

-- Four units of fuel for each token suffice, since an entry has three tokens before its value and no more
-- than four units are used until that is read.
mutual

theorem readNode_block (dashes : Bool) (rest : List Token) (names : Names) : ∀ (b : Block) (fuel : Nat),
    4 * b.tokens.length ≤ fuel →
    readNode fuel true dashes ⟨b.tokens ++ rest, names⟩ = some (b.node, ⟨rest, names⟩)
  | .scalar style w, fuel, hfuel => by
    obtain ⟨fuel, rfl⟩ : ∃ n, fuel = n + 2 := ⟨fuel - 2, by
      rw [Block.tokens, List.length_singleton] at hfuel
      omega⟩
    rfl
  | .record es, fuel, hfuel => by
    rw [Block.tokens, List.length_cons, List.length_append, List.length_singleton] at hfuel
    obtain ⟨fuel, rfl⟩ : ∃ n, fuel = n + 2 := ⟨fuel - 2, by omega⟩
    rw [Block.tokens, List.cons_append, List.append_assoc]
    show (readEntries fuel ⟨es.tokens ++ .close :: rest, names⟩).map _ = _
    rw [readEntries_entries rest names es fuel (by omega)]
    rfl

theorem readEntries_entries (rest : List Token) (names : Names) : ∀ (es : Entries) (fuel : Nat),
    4 * es.tokens.length ≤ fuel →
    readEntries fuel ⟨es.tokens ++ .close :: rest, names⟩ = some (es.nodes, ⟨rest, names⟩)
  | .last key value, fuel, hfuel => by
    simp only [Entries.tokens, List.length_cons] at hfuel
    obtain ⟨fuel, rfl⟩ : ∃ n, fuel = n + 4 := ⟨fuel - 4, by omega⟩
    rw [Entries.tokens, List.cons_append, List.cons_append, List.cons_append, readEntries_key,
      value.readOrBlank_eq, readNode_block true _ names value (fuel + 2) (by omega)]
    rfl
  | .cons key value more, fuel, hfuel => by
    simp only [Entries.tokens, List.length_cons, List.length_append] at hfuel
    obtain ⟨fuel, rfl⟩ : ∃ n, fuel = n + 4 := ⟨fuel - 4, by omega⟩
    rw [Entries.tokens, List.cons_append, List.cons_append, List.cons_append, List.append_assoc,
      readEntries_key, value.readOrBlank_eq, readNode_block true _ names value (fuel + 2) (by omega)]
    dsimp only
    rw [readEntries_entries rest names more (fuel + 3) (by omega)]
    rfl

end

/-- **A record by indentation is read back** as the document that says the same. -/
theorem ofYaml_text (es : Entries) : Document.ofYaml es.text = some (.record es.documents) := by
  have hnode : Node.ofTokens (.openRecord :: (es.tokens ++ [.close])) = some (.record es.nodes) := by
    have hread := readNode_block false [] {} (.record es)
      (4 * (Token.openRecord :: (es.tokens ++ [.close])).length + 4) (Nat.le_add_right _ 4)
    rw [List.append_nil] at hread
    unfold Node.ofTokens
    dsimp only
    have hread : readNode (4 * (Token.openRecord :: (es.tokens ++ [.close])).length + 4) true false
      { rest := .openRecord :: (es.tokens ++ [.close]) } = _ := hread
    rw [hread]
    rfl
  rw [Document.ofYaml, Node.read, tokens_text, Option.bind_some, hnode]
  exact congrArg some (Block.ofNode_node (.record es))

end Switchboard.Yaml
