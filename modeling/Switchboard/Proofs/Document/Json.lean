import Mathlib.Data.String.Basic
import Switchboard.Json
import Switchboard.Proofs.Document.Reading
/-!
# Reading what was written

A JSON value that is written is read back as the document that says the same: texts come back
whatever is escaped in them, numbers as long as they have 64 bits, and lists and records in their
order. What is written is JSON, as the grammar has it, and that is read.

* `Json.document` — the document that a value is read as.
* `writesText_quoted`, `writesNumber_toDigits` — leaves.
* `writes_render` — a value is written as the grammar has it.
* `ofJson_render` — a value that is written is read back.
-/

namespace Switchboard

/-! ## Documents of values -/

namespace Json

mutual

/-- The document that a value is read as. -/
def document : Json → Document
  | .null => Document.Json.plainLeaf .nothing
  | .bool b => Document.Json.plainLeaf (.truth b)
  | .natural n => Document.Json.plainLeaf (if n ≤ Text.maxWord64 then .natural n else .other)
  | .text s => Document.Json.textLeaf (some s)
  | .list items => .list (documents items)
  | .record members => .record (memberDocuments members)

/-- The documents that items are read as. -/
def documents : List Json → List Document
  | [] => []
  | v :: rest => v.document :: documents rest

/-- The documents that members are read as, with their names. -/
def memberDocuments : List (String × Json) → List (Option String × Document)
  | [] => []
  | (name, v) :: rest => (some name, v.document) :: memberDocuments rest

end

end Json

namespace Document.Json

open Switchboard.Json

/-! ## Texts -/

/-- The part that a character is read back as. -/
def pieceOf (c : Char) : Piece :=
  if c.toNat < 32 ∧ c ∉ ['\n', '\r', '\t', '\x08', '\x0c'] then .unit c.toNat else .char c

theorem hex4?_twoDigits {n : Nat} (h : n < 32) :
    ∃ a b, twoDigits n = [a, b] ∧ hex4? '0' '0' a b = some n := by
  have hall : ∀ m < 32, twoDigits m = [(twoDigits m).headD '0', (twoDigits m).getLastD '0'] ∧
      hex4? '0' '0' ((twoDigits m).headD '0') ((twoDigits m).getLastD '0') = some m := by decide
  exact ⟨_, _, hall n h⟩

/-- A character is read back, however it was written. -/
theorem writesPieces_escapedChar (c : Char) {cs : List Char} {ps : List Piece}
    (h : WritesPieces cs ps) : WritesPieces (escapedChar c ++ cs) (pieceOf c :: ps) := by
  unfold escapedChar
  split_ifs with hquote hslash hn hr ht hb hf hcontrol
  · subst hquote
    exact .letter rfl h
  · subst hslash
    exact .letter rfl h
  · subst hn
    exact .letter rfl h
  · subst hr
    exact .letter rfl h
  · subst ht
    exact .letter rfl h
  · subst hb
    exact .letter rfl h
  · subst hf
    exact .letter rfl h
  · obtain ⟨a, b, hdigits, hvalue⟩ := hex4?_twoDigits hcontrol
    have hpiece : pieceOf c = .unit c.toNat := if_pos ⟨hcontrol, by simp [hn, hr, ht, hb, hf]⟩
    rw [hdigits, hpiece]
    exact .unit hvalue h
  · have hpiece : pieceOf c = .char c := if_neg fun h => hcontrol h.1
    rw [hpiece]
    exact .char (Nat.le_of_not_lt hcontrol) hquote hslash h

theorem writesPieces_escaped (s : List Char) :
    WritesPieces (s.flatMap escapedChar) (s.map pieceOf) := by
  induction s with
  | nil => exact .nil
  | cons c s ih => exact writesPieces_escapedChar c ih

theorem joinPieces_unit {n : Nat} (h : n < 32) (pieces : List Piece) :
    joinPieces (.unit n :: pieces) = (joinPieces pieces).map (Char.ofNat n :: ·) := by
  have hlead : isLead n = false := by
    rw [isLead, decide_eq_false (by omega), Bool.false_and]
  have htrail : isTrail n = false := by
    rw [isTrail, decide_eq_false (by omega), Bool.false_and]
  cases pieces with
  | nil => simp [joinPieces, hlead, htrail]
  | cons piece rest =>
    cases piece with
    | char c => simp [joinPieces, hlead, htrail]
    | unit m => simp [joinPieces, hlead, htrail]

theorem joinPieces_pieceOf (s : List Char) : joinPieces (s.map pieceOf) = some s := by
  induction s with
  | nil => rfl
  | cons c s ih =>
    rw [List.map_cons]
    by_cases hc : c.toNat < 32 ∧ c ∉ ['\n', '\r', '\t', '\x08', '\x0c']
    · rw [pieceOf, if_pos hc, joinPieces_unit hc.1, ih, Option.map_some, Char.ofNat_toNat]
    · rw [pieceOf, if_neg hc, joinPieces, ih]
      rfl

theorem toList_quoted (s : String) :
    (quoted s).toList = '"' :: (s.toList.flatMap escapedChar ++ ['"']) := by
  simp only [quoted, String.toList_append, String.toList_ofList, List.append_assoc]
  rfl

/-- A text is read back. -/
theorem writesText_quoted (s : String) : WritesText (quoted s).toList (some s) := by
  have htext := WritesText.quoted (writesPieces_escaped s.toList)
  rwa [joinPieces_pieceOf, Option.map_some, String.ofList_toList, ← toList_quoted] at htext

/-! ## Numerals -/

/-- No zero stands in front of other digits. -/
theorem head?_toDigits {n : Nat} (h : 0 < n) : (Nat.toDigits 10 n).head? ≠ some '0' := by
  induction n using Nat.strongRecOn with
  | ind n ih =>
    by_cases hn : n < 10
    · have hall : ∀ d < 10, 0 < d → [Nat.digitChar d].head? ≠ some '0' := by decide
      rw [Nat.toDigits_of_lt_base hn]
      exact hall n hn h
    · rw [Nat.toDigits_of_base_le (by omega) (by omega), List.head?_append_of_ne_nil]
      · exact ih (n / 10) (by omega) (by omega)
      · exact Nat.toDigits_ne_nil

theorem isWhole_toDigits (n : Nat) : IsWhole (Nat.toDigits 10 n) where
  isDigits := ⟨Nat.toDigits_ne_nil, (Text.isNumeral_toDigits n).isDigit⟩
  alone := by
    intro rest h
    rcases Nat.eq_zero_or_pos n with rfl | hpos
    · exact (List.cons.inj h).2.symm
    · exact absurd (by rw [h]; rfl) (head?_toDigits hpos)

/-- A number is read back, if it has 64 bits. -/
theorem writesNumber_toDigits (n : Nat) :
    WritesNumber (Nat.toDigits 10 n) (if n ≤ Text.maxWord64 then .natural n else .other) := by
  have hnumber := WritesNumber.plain (isWhole_toDigits n)
  rw [Nat.ofDigitChars_ten_toDigits] at hnumber
  by_cases hn : n ≤ Text.maxWord64
  · have hlt : n < 2 ^ 64 := Nat.lt_succ_of_le hn
    rw [if_pos hlt] at hnumber
    rwa [if_pos hn]
  · have hge : ¬ n < 2 ^ 64 := fun hlt => hn (Nat.le_of_lt_succ hlt)
    rw [if_neg hge] at hnumber
    rwa [if_neg hn]

/-! ## Values -/

theorem toList_natural (n : Nat) : (Json.natural n).render.toList = Nat.toDigits 10 n := by
  rw [render, Nat.toString_eq_ofList_toDigits, String.toList_ofList]

/-- The characters of items with commas between them. -/
def itemsText (items : List Json) : List Char := (String.intercalate "," (renderItems items)).toList

/-- The characters of members with commas between them. -/
def membersText (members : List (String × Json)) : List Char :=
  (String.intercalate "," (renderMembers members)).toList

theorem itemsText_singleton (v : Json) : itemsText [v] = v.render.toList := by
  rw [itemsText, renderItems, renderItems, String.intercalate_singleton]

theorem itemsText_cons (v next : Json) (rest : List Json) :
    itemsText (v :: next :: rest) = v.render.toList ++ ',' :: itemsText (next :: rest) := by
  rw [itemsText, renderItems, renderItems, String.intercalate_cons_cons, String.toList_append,
    String.toList_append, List.append_assoc, itemsText, renderItems]
  rfl

theorem toList_list (items : List Json) :
    (Json.list items).render.toList = '[' :: (itemsText items ++ [']']) := by
  rw [render, String.toList_append, String.toList_append, List.append_assoc]
  rfl

theorem membersText_singleton (name : String) (v : Json) :
    membersText [(name, v)] = (quoted name).toList ++ ':' :: v.render.toList := by
  rw [membersText, renderMembers, renderMembers, String.intercalate_singleton,
    String.toList_append, String.toList_append, List.append_assoc]
  rfl

theorem membersText_cons (name : String) (v : Json) (next : String × Json)
    (rest : List (String × Json)) : membersText ((name, v) :: next :: rest)
      = ((quoted name).toList ++ ':' :: v.render.toList) ++ ',' :: membersText (next :: rest) := by
  rw [membersText, renderMembers, renderMembers, String.intercalate_cons_cons, membersText,
    renderMembers]
  simp only [String.toList_append, List.append_assoc]
  rfl

theorem toList_record (members : List (String × Json)) :
    (Json.record members).render.toList = '\x7b' :: (membersText members ++ ['\x7d']) := by
  rw [render, String.toList_append, String.toList_append, List.append_assoc]
  rfl

theorem Writes.alone {cs : List Char} {d : Document} (h : Writes cs (.value d)) :
    Writes cs (.spaced d) := by
  have hspaced := Writes.spaced isSpaces_nil h isSpaces_nil
  rwa [List.nil_append, List.append_nil] at hspaced

theorem writes_member {name : String} {v : Json} {d : Document}
    (h : Writes v.render.toList (.value d)) :
    Writes ((quoted name).toList ++ ':' :: v.render.toList) (.member (some name, d)) := by
  have hmember := Writes.member isSpaces_nil (writesText_quoted name) isSpaces_nil h.alone
  rwa [List.nil_append, List.nil_append] at hmember

mutual

/-- A value is written as the grammar has it. -/
theorem writes_render : ∀ v : Json, Writes v.render.toList (.value v.document)
  | .null => .null
  | .bool true => .truth
  | .bool false => .untruth
  | .natural n => by
    rw [toList_natural]
    exact .number (writesNumber_toDigits n)
  | .text s => .text (writesText_quoted s)
  | .list [] => .emptyList isSpaces_nil
  | .list (v :: vs) => by
    rw [toList_list]
    exact .list (writes_items (v :: vs) (List.cons_ne_nil _ _))
  | .record [] => .emptyRecord isSpaces_nil
  | .record (m :: ms) => by
    rw [toList_record]
    exact .record (writes_members (m :: ms) (List.cons_ne_nil _ _))

theorem writes_items : ∀ items : List Json, items ≠ [] →
    Writes (itemsText items) (.items (documents items))
  | [], h => absurd rfl h
  | [v], _ => by
    rw [itemsText_singleton]
    exact .lastItem (writes_render v).alone
  | v :: next :: vs, _ => by
    rw [itemsText_cons]
    exact .item (writes_render v).alone (writes_items (next :: vs) (List.cons_ne_nil _ _))

theorem writes_members : ∀ members : List (String × Json), members ≠ [] →
    Writes (membersText members) (.members (memberDocuments members))
  | [], h => absurd rfl h
  | [(name, v)], _ => by
    rw [membersText_singleton]
    exact .lastMember (writes_member (writes_render v))
  | (name, v) :: next :: ms, _ => by
    rw [membersText_cons]
    exact .nextMember (writes_member (writes_render v))
      (writes_members (next :: ms) (List.cons_ne_nil _ _))

end

end Document.Json

/-- **A value that is written is read back** as the document that says the same. -/
theorem Document.ofJson_render (v : Json) : ofJson v.render = some v.document :=
  ofJson_eq_some_iff.mpr (Json.writes_render v).alone

end Switchboard
