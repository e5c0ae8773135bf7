import Mathlib.Data.List.DropRight
import Switchboard.Proofs.Document.Grammar
/-!
# Reading JSON

The reader finds in a text what the grammar says is written there, and finds it whenever it is
written. The reader goes down one level, or on by one item, with each unit of its fuel, and a phrase
has at least half as many characters as that takes.

* `readOn`, `readWithin` — the items of a list and the members of a record, read in the same way.
* `Phrase.IsRead`, `Writes.isRead` — what is written is read, by induction on how it is written.
* `ReadsWritten`, `readsWritten` — only what is written is read, by induction on the fuel.
* `ofJson_eq_some_iff` — what a text denotes.
* `joinPieces_scar` — between quotes, bytes that are no text make one that is none.
-/

namespace Switchboard.Document

namespace Json

/-! ## Spaces -/

theorem isSpaces_nil : IsSpaces [] := fun _ hc => absurd hc List.not_mem_nil

theorem IsSpaces.skipSpace_append {ws : List Char} (h : IsSpaces ws) (cs : List Char) :
    skipSpace (ws ++ cs) = skipSpace cs :=
  List.dropWhile_append_of_pos h

theorem skipSpace_cons {c : Char} (h : isSpace c = false) (cs : List Char) :
    skipSpace (c :: cs) = c :: cs :=
  List.dropWhile_cons_of_neg (by rw [h]; exact Bool.false_ne_true)

theorem exists_spaces (cs : List Char) : ∃ ws, IsSpaces ws ∧ cs = ws ++ skipSpace cs :=
  ⟨cs.takeWhile isSpace, fun _ hc => List.all_eq_true.mp List.all_takeWhile _ hc,
    List.takeWhile_append_dropWhile.symm⟩

theorem isSpaces_of_skipSpace {cs : List Char} (h : skipSpace cs = []) : IsSpaces cs := by
  obtain ⟨ws, hws, hcs⟩ := exists_spaces cs
  rw [h, List.append_nil] at hcs
  exact hcs ▸ hws

theorem IsSpaces.halts_append {ws rest : List Char} (h : IsSpaces ws) (hrest : Halts rest) :
    Halts (ws ++ rest) := by
  cases ws with
  | nil => exact hrest
  | cons c ws =>
    intro c' hc
    obtain rfl := Option.some_inj.mp hc
    have hspace := h c List.mem_cons_self
    simp only [isSpace, Bool.or_eq_true, decide_eq_true_eq] at hspace
    rcases hspace with ((rfl | rfl) | rfl) | rfl <;> decide

/-! ## One by one -/

/-- What follows one of several: the end, or a comma and more of them. -/
def readOn {α : Type} (stop : Char) (more : List Char → Option (List α × List Char)) (v : α)
    (cs : List Char) : Option (List α × List Char) :=
  match skipSpace cs with
  | [] => none
  | c :: rest =>
    if c = stop then some ([v], rest)
    else if c = ',' then (more rest).map fun p => (v :: p.1, p.2)
    else none

/-- What stands in brackets: nothing, or several. -/
def readWithin {α : Type} (stop : Char) (more : List Char → Option (List α × List Char))
    (cs : List Char) : Option (List α × List Char) :=
  match skipSpace cs with
  | [] => more []
  | c :: rest => if c = stop then some ([], rest) else more (c :: rest)

section Several

variable {α : Type} {stop : Char} {more : List Char → Option (List α × List Char)} {v : α}
  {cs rest : List Char}

theorem readOn_stop (h : skipSpace cs = stop :: rest) :
    readOn stop more v cs = some ([v], rest) := by
  rw [readOn, h]
  exact if_pos rfl

theorem readOn_comma (hstop : ',' ≠ stop) (h : skipSpace cs = ',' :: rest) :
    readOn stop more v cs = (more rest).map fun p => (v :: p.1, p.2) := by
  rw [readOn, h]
  exact (if_neg hstop).trans (if_pos rfl)

theorem readOn_of_ne (hend : ∀ rest, skipSpace cs ≠ stop :: rest)
    (hcomma : ∀ rest, skipSpace cs ≠ ',' :: rest) : readOn stop more v cs = none := by
  rw [readOn]
  cases hcs : skipSpace cs with
  | nil => rfl
  | cons c rest =>
    have hc : c ≠ stop := fun heq => hend rest (heq ▸ hcs)
    have hc' : c ≠ ',' := fun heq => hcomma rest (heq ▸ hcs)
    exact (if_neg hc).trans (if_neg hc')

theorem readWithin_stop (h : skipSpace cs = stop :: rest) :
    readWithin stop more cs = some ([], rest) := by
  rw [readWithin, h]
  exact if_pos rfl

theorem readWithin_of_ne (h : ∀ rest, skipSpace cs ≠ stop :: rest) :
    readWithin stop more cs = more (skipSpace cs) := by
  rw [readWithin]
  cases hcs : skipSpace cs with
  | nil => rfl
  | cons c rest =>
    have hc : c ≠ stop := fun heq => h rest (heq ▸ hcs)
    exact if_neg hc

end Several

/-- The value of a name, and what follows it. -/
def readNamed (fuel : Nat) (name : Option String) (cs : List Char) :
    Option ((Option String × Document) × List Char) :=
  match skipSpace cs with
  | ':' :: rest => (readValue fuel rest).map fun p => ((name, p.1), p.2)
  | _ => none

/-- A name with its value, and what follows it. -/
def readMember (fuel : Nat) (cs : List Char) : Option ((Option String × Document) × List Char) :=
  match skipSpace cs with
  | '"' :: rest => (readText rest).bind fun p => readNamed fuel p.1 p.2
  | _ => none

section Member

variable {fuel : Nat} {name : Option String} {cs rest : List Char}

theorem readNamed_colon (h : skipSpace cs = ':' :: rest) :
    readNamed fuel name cs = (readValue fuel rest).map fun p => ((name, p.1), p.2) := by
  rw [readNamed, h]
  rfl

theorem readNamed_of_ne (h : ∀ rest, skipSpace cs ≠ ':' :: rest) :
    readNamed fuel name cs = none := by
  rw [readNamed]
  split
  · exact absurd ‹_› (h _)
  · rfl

theorem readMember_quote (h : skipSpace cs = '"' :: rest) :
    readMember fuel cs = (readText rest).bind fun p => readNamed fuel p.1 p.2 := by
  rw [readMember, h]
  rfl

theorem readMember_of_ne (h : ∀ rest, skipSpace cs ≠ '"' :: rest) : readMember fuel cs = none := by
  rw [readMember]
  split
  · exact absurd ‹_› (h _)
  · rfl

end Member

theorem readItems_succ (fuel : Nat) (cs : List Char) : readItems (fuel + 1) cs
    = (readValue fuel cs).bind fun p => readOn ']' (readItems fuel) p.1 p.2 := by
  rw [readItems]
  rcases readValue fuel cs with _ | ⟨v, rest⟩
  · rfl
  · dsimp only [Option.bind_some]
    split
    · rw [readOn_stop ‹_›]
    · rw [readOn_comma (by decide) ‹_›]
    · rw [readOn_of_ne ‹_› ‹_›]

theorem readMembers_succ (fuel : Nat) (cs : List Char) : readMembers (fuel + 1) cs
    = (readMember fuel cs).bind fun p => readOn '\x7d' (readMembers fuel) p.1 p.2 := by
  rw [readMembers]
  split
  · rename_i inner hquote
    rw [readMember_quote hquote]
    rcases readText inner with _ | ⟨name, rest⟩
    · rfl
    · dsimp only [Option.bind_some]
      split
      · rename_i after hcolon
        rw [readNamed_colon hcolon]
        rcases readValue fuel after with _ | ⟨v, rest⟩
        · rfl
        · dsimp only [Option.bind_some, Option.map_some]
          split
          · rw [readOn_stop ‹_›]
          · rw [readOn_comma (by decide) ‹_›]
          · rw [readOn_of_ne ‹_› ‹_›]
      · rw [readNamed_of_ne ‹_›]
        rfl
  · rw [readMember_of_ne ‹_›]
    rfl

theorem readValue_list (fuel : Nat) (cs : List Char) : readValue (fuel + 1) ('[' :: cs)
    = (readWithin ']' (readItems fuel) cs).map fun p => (.list p.1, p.2) := by
  rw [readValue, skipSpace_cons rfl]
  -- the bracket decides which branch is taken
  conv_lhs => whnf
  split
  · rw [readWithin_stop ‹_›]
    rfl
  · rw [readWithin_of_ne ‹_›]

theorem readValue_record (fuel : Nat) (cs : List Char) : readValue (fuel + 1) ('\x7b' :: cs)
    = (readWithin '\x7d' (readMembers fuel) cs).map fun p => (.record p.1, p.2) := by
  rw [readValue, skipSpace_cons rfl]
  -- the bracket decides which branch is taken
  conv_lhs => whnf
  split
  · rw [readWithin_stop ‹_›]
    rfl
  · rw [readWithin_of_ne ‹_›]

theorem readValue_text (fuel : Nat) (cs : List Char) : readValue (fuel + 1) ('"' :: cs)
    = (readText cs).map fun p => (textLeaf p.1, p.2) := by
  rw [readValue, skipSpace_cons rfl]
  rfl

/-- The first character of a numeral. -/
def StartsNumber (c : Char) : Prop := Text.isDigit c = true ∨ c = '-'

theorem StartsNumber.ne {c d : Char} (h : StartsNumber c) (hdigit : Text.isDigit d = false)
    (hminus : d ≠ '-') : c ≠ d := by
  rintro rfl
  rcases h with h | h
  · rw [hdigit] at h
    cases h
  · exact hminus h

theorem StartsNumber.isSpace {c : Char} (h : StartsNumber c) : isSpace c = false := by
  have hne {d : Char} (hdigit : Text.isDigit d = false) (hminus : d ≠ '-') :
      decide (c = d) = false :=
    decide_eq_false (h.ne hdigit hminus)
  rw [Json.isSpace, hne rfl (by decide), hne rfl (by decide), hne rfl (by decide),
    hne rfl (by decide)]
  rfl

theorem readValue_number {c : Char} (h : StartsNumber c) (fuel : Nat) (cs : List Char) :
    readValue (fuel + 1) (c :: cs) = (readNumber (c :: cs)).map fun p => (plainLeaf p.1, p.2) := by
  have hne {d : Char} (hdigit : Text.isDigit d = false) (hminus : d ≠ '-') {a b : List Char} :
      c :: a ≠ d :: b := fun heq => h.ne hdigit hminus (List.cons.inj heq).1
  rw [readValue, skipSpace_cons h.isSpace]
  split
  all_goals first
    | rfl
    | exact absurd ‹_› (hne rfl (by decide))

/-! ### Spaces in front -/

section Front

variable {cs cs' : List Char} (h : skipSpace cs = skipSpace cs')

include h

theorem readValue_congr (fuel : Nat) : readValue fuel cs = readValue fuel cs' := by
  cases fuel with
  | zero => rfl
  | succ fuel => rw [readValue, readValue, h]

theorem readMember_congr (fuel : Nat) : readMember fuel cs = readMember fuel cs' := by
  rw [readMember, readMember, h]

theorem readItems_congr (fuel : Nat) : readItems fuel cs = readItems fuel cs' := by
  cases fuel with
  | zero => rfl
  | succ fuel => rw [readItems_succ, readItems_succ, readValue_congr h]

theorem readMembers_congr (fuel : Nat) : readMembers fuel cs = readMembers fuel cs' := by
  cases fuel with
  | zero => rfl
  | succ fuel => rw [readMembers_succ, readMembers_succ, readMember_congr h]

end Front

theorem skipSpace_skipSpace (cs : List Char) : skipSpace (skipSpace cs) = skipSpace cs :=
  List.dropWhile_idempotent isSpace cs

/-! ## What is written is read -/

theorem WritesNumber.front {cs : List Char} {s : Scalar} (h : WritesNumber cs s) :
    ∃ c cs', cs = c :: cs' ∧ StartsNumber c := by
  have hwhole {ds : List Char} (h : IsWhole ds) : ∃ c ds', ds = c :: ds' ∧ StartsNumber c := by
    obtain ⟨c, ds', rfl⟩ := List.exists_cons_of_ne_nil h.isDigits.ne_nil
    exact ⟨c, ds', rfl, .inl (h.isDigits.all c List.mem_cons_self)⟩
  cases h with
  | plain h => exact hwhole h
  | other hsign h =>
    rcases hsign with rfl | rfl
    · obtain ⟨c, ds', rfl, hc⟩ := hwhole h
      exact ⟨c, _, rfl, hc⟩
    · exact ⟨'-', _, rfl, .inr rfl⟩

/-- Whatever is written has a character that is no space, and the first of these ends nothing. -/
theorem Writes.front {cs : List Char} {p : Phrase} (h : Writes cs p) :
    ∃ ws c cs', cs = ws ++ c :: cs' ∧ IsSpaces ws ∧ isSpace c = false ∧ c ≠ ']' ∧ c ≠ '\x7d' := by
  induction h with
  | null => exact ⟨[], 'n', _, rfl, isSpaces_nil, by decide⟩
  | truth => exact ⟨[], 't', _, rfl, isSpaces_nil, by decide⟩
  | untruth => exact ⟨[], 'f', _, rfl, isSpaces_nil, by decide⟩
  | text h =>
    obtain ⟨inner, rfl, -⟩ := h.exists_eq
    exact ⟨[], '"', _, rfl, isSpaces_nil, by decide⟩
  | number h =>
    obtain ⟨c, cs', rfl, hc⟩ := h.front
    exact ⟨[], c, _, rfl, isSpaces_nil, hc.isSpace, hc.ne rfl (by decide), hc.ne rfl (by decide)⟩
  | emptyList | list => exact ⟨[], '[', _, rfl, isSpaces_nil, by decide⟩
  | emptyRecord | record => exact ⟨[], '\x7b', _, rfl, isSpaces_nil, by decide⟩
  | @spaced front _ back _ hfront _ _ ih =>
    obtain ⟨ws, c, cs', rfl, hws, hc⟩ := ih
    refine ⟨front ++ ws, c, cs' ++ back, ?_, List.forall_mem_append.mpr ⟨hfront, hws⟩, hc⟩
    simp only [List.append_assoc, List.cons_append]
  | lastItem _ ih | lastMember _ ih => exact ih
  | item _ _ ih | nextMember _ _ ih =>
    obtain ⟨ws, c, cs', rfl, hws, hc⟩ := ih
    exact ⟨ws, c, _, by rw [List.append_assoc, List.cons_append], hws, hc⟩
  | member hfront hname _ _ _ =>
    obtain ⟨inner, rfl, -⟩ := hname.exists_eq
    exact ⟨_, '"', _, rfl, hfront, by decide⟩

theorem Writes.length_pos {cs : List Char} {p : Phrase} (h : Writes cs p) : 0 < cs.length := by
  obtain ⟨ws, c, cs', rfl, -⟩ := h.front
  rw [List.length_append, List.length_cons]
  omega

theorem Writes.readWithin_append {α : Type} {stop : Char}
    {more : List Char → Option (List α × List Char)} {cs : List Char} {p : Phrase}
    (h : Writes cs p) (hstop : stop ∈ [']', '\x7d']) (rest : List Char) :
    readWithin stop more (cs ++ rest) = more (skipSpace (cs ++ rest)) := by
  obtain ⟨ws, c, cs', rfl, hws, hspace, hbracket, hbrace⟩ := h.front
  refine readWithin_of_ne fun after heq => ?_
  rw [List.append_assoc, hws.skipSpace_append, List.cons_append, skipSpace_cons hspace] at heq
  have hc : c = stop := (List.cons.inj heq).1
  simp only [List.mem_cons, List.not_mem_nil, or_false] at hstop
  rcases hstop with rfl | rfl
  · exact hbracket hc
  · exact hbrace hc

theorem halts_cons {c : Char} (h : c ∈ [',', ']', '\x7d']) (rest : List Char) :
    Halts (c :: rest) := by
  intro c' hc
  obtain rfl := Option.some_inj.mp hc
  exact List.mem_append_right [' ', '\n', '\t', '\r'] h

theorem IsSpaces.skipSpace_append_cons {ws : List Char} (h : IsSpaces ws) {c : Char}
    (hc : isSpace c = false) (rest : List Char) : skipSpace (ws ++ c :: rest) = c :: rest := by
  rw [h.skipSpace_append, skipSpace_cons hc]

/-- A phrase is read, whatever follows it, with twice as much fuel as it has characters. -/
def Phrase.IsRead (cs : List Char) : Phrase → Prop
  | .value d => ∀ fuel rest, 2 * cs.length ≤ fuel + 1 → Halts rest →
    readValue (fuel + 1) (cs ++ rest) = some (d, rest)
  | .spaced d => ∀ fuel rest, 2 * cs.length ≤ fuel + 1 → Halts rest →
    ∃ back, IsSpaces back ∧ readValue (fuel + 1) (cs ++ rest) = some (d, back ++ rest)
  | .items ds => ∀ fuel rest, 2 * cs.length ≤ fuel →
    readItems (fuel + 1) (cs ++ ']' :: rest) = some (ds, rest)
  | .member m => ∀ fuel rest, 2 * cs.length ≤ fuel + 1 → Halts rest →
    ∃ back, IsSpaces back ∧ readMember (fuel + 1) (cs ++ rest) = some (m, back ++ rest)
  | .members ms => ∀ fuel rest, 2 * cs.length ≤ fuel →
    readMembers (fuel + 1) (cs ++ '\x7d' :: rest) = some (ms, rest)

namespace Phrase.IsRead

variable {cs more : List Char} {d : Document} {ds : List Document} {m : Option String × Document}
  {ms : List (Option String × Document)}

theorem text {s : Option String} (h : WritesText cs s) : IsRead cs (.value (textLeaf s)) := by
  intro fuel rest _ _
  obtain ⟨inner, rfl, hread⟩ := h.exists_eq
  rw [List.cons_append, readValue_text, hread]
  rfl

theorem number {s : Scalar} (h : WritesNumber cs s) : IsRead cs (.value (plainLeaf s)) := by
  intro fuel rest _ hrest
  obtain ⟨c, cs', rfl, hc⟩ := h.front
  rw [List.cons_append, readValue_number hc, ← List.cons_append, h.readNumber_eq hrest]
  rfl

theorem emptyList {ws : List Char} (h : IsSpaces ws) :
    IsRead ('[' :: (ws ++ [']'])) (.value (.list [])) := by
  intro fuel rest _ _
  rw [List.cons_append, List.append_assoc, List.singleton_append, readValue_list,
    readWithin_stop (h.skipSpace_append_cons rfl rest)]
  rfl

theorem list (h : Writes cs (.items ds)) (ih : IsRead cs (.items ds)) :
    IsRead ('[' :: (cs ++ [']'])) (.value (.list ds)) := by
  intro fuel rest hfuel _
  -- the brackets pay for the level
  rw [List.length_cons, List.length_append, List.length_singleton] at hfuel
  obtain ⟨fuel, rfl⟩ := Nat.exists_eq_add_of_le' (by omega : 1 ≤ fuel)
  rw [List.cons_append, List.append_assoc, List.singleton_append, readValue_list,
    h.readWithin_append (by decide), readItems_congr (skipSpace_skipSpace _),
    ih fuel rest (by omega)]
  rfl

theorem emptyRecord {ws : List Char} (h : IsSpaces ws) :
    IsRead ('\x7b' :: (ws ++ ['\x7d'])) (.value (.record [])) := by
  intro fuel rest _ _
  rw [List.cons_append, List.append_assoc, List.singleton_append, readValue_record,
    readWithin_stop (h.skipSpace_append_cons rfl rest)]
  rfl

theorem record (h : Writes cs (.members ms)) (ih : IsRead cs (.members ms)) :
    IsRead ('\x7b' :: (cs ++ ['\x7d'])) (.value (.record ms)) := by
  intro fuel rest hfuel _
  rw [List.length_cons, List.length_append, List.length_singleton] at hfuel
  obtain ⟨fuel, rfl⟩ := Nat.exists_eq_add_of_le' (by omega : 1 ≤ fuel)
  rw [List.cons_append, List.append_assoc, List.singleton_append, readValue_record,
    h.readWithin_append (by decide), readMembers_congr (skipSpace_skipSpace _),
    ih fuel rest (by omega)]
  rfl

theorem spaced {front back : List Char} (hfront : IsSpaces front) (ih : IsRead cs (.value d))
    (hback : IsSpaces back) : IsRead (front ++ (cs ++ back)) (.spaced d) := by
  intro fuel rest hfuel hrest
  -- the spaces in front are skipped, and those behind are left
  rw [List.length_append, List.length_append] at hfuel
  refine ⟨back, hback, ?_⟩
  rw [List.append_assoc, List.append_assoc, readValue_congr (hfront.skipSpace_append _)]
  exact ih fuel (back ++ rest) (by omega) (hback.halts_append hrest)

theorem lastItem (hpos : 0 < cs.length) (ih : IsRead cs (.spaced d)) : IsRead cs (.items [d]) := by
  intro fuel rest hfuel
  obtain ⟨fuel, rfl⟩ := Nat.exists_eq_add_of_le' (by omega : 1 ≤ fuel)
  obtain ⟨back, hback, hread⟩ := ih fuel (']' :: rest) hfuel (halts_cons (by decide) rest)
  rw [readItems_succ, hread]
  exact readOn_stop (hback.skipSpace_append_cons rfl rest)

theorem item (hpos : 0 < cs.length) (ih : IsRead cs (.spaced d)) (hmore : IsRead more (.items ds)) :
    IsRead (cs ++ ',' :: more) (.items (d :: ds)) := by
  intro fuel rest hfuel
  -- the comma and the item pay for the step to the next item
  rw [List.length_append, List.length_cons] at hfuel
  obtain ⟨fuel, rfl⟩ := Nat.exists_eq_add_of_le' (by omega : 1 ≤ fuel)
  obtain ⟨back, hback, hread⟩ := ih fuel (',' :: (more ++ ']' :: rest)) (by omega)
    (halts_cons (by decide) _)
  rw [List.append_assoc, List.cons_append, readItems_succ, hread]
  show readOn ']' _ d (back ++ ',' :: (more ++ ']' :: rest)) = _
  rw [readOn_comma (by decide) (hback.skipSpace_append_cons rfl _), hmore fuel rest (by omega)]
  rfl

theorem member {front name back : List Char} {s : Option String} (hfront : IsSpaces front)
    (hname : WritesText name s) (hback : IsSpaces back) (ih : IsRead cs (.spaced d)) :
    IsRead (front ++ (name ++ (back ++ ':' :: cs))) (.member (s, d)) := by
  intro fuel rest hfuel hrest
  simp only [List.length_append, List.length_cons] at hfuel
  obtain ⟨inner, rfl, hread⟩ := hname.exists_eq
  obtain ⟨back', hback', hvalue⟩ := ih fuel rest (by omega) hrest
  refine ⟨back', hback', ?_⟩
  simp only [List.append_assoc, List.cons_append]
  rw [readMember_quote (hfront.skipSpace_append_cons rfl _), hread]
  show readNamed (fuel + 1) s (back ++ ':' :: (cs ++ rest)) = _
  rw [readNamed_colon (hback.skipSpace_append_cons rfl _), hvalue]
  rfl

theorem lastMember (hpos : 0 < cs.length) (ih : IsRead cs (.member m)) :
    IsRead cs (.members [m]) := by
  intro fuel rest hfuel
  obtain ⟨fuel, rfl⟩ := Nat.exists_eq_add_of_le' (by omega : 1 ≤ fuel)
  obtain ⟨back, hback, hread⟩ := ih fuel ('\x7d' :: rest) hfuel (halts_cons (by decide) rest)
  rw [readMembers_succ, hread]
  exact readOn_stop (hback.skipSpace_append_cons rfl rest)

theorem nextMember (hpos : 0 < cs.length) (ih : IsRead cs (.member m))
    (hmore : IsRead more (.members ms)) : IsRead (cs ++ ',' :: more) (.members (m :: ms)) := by
  intro fuel rest hfuel
  rw [List.length_append, List.length_cons] at hfuel
  obtain ⟨fuel, rfl⟩ := Nat.exists_eq_add_of_le' (by omega : 1 ≤ fuel)
  obtain ⟨back, hback, hread⟩ := ih fuel (',' :: (more ++ '\x7d' :: rest)) (by omega)
    (halts_cons (by decide) _)
  rw [List.append_assoc, List.cons_append, readMembers_succ, hread]
  show readOn '\x7d' _ m (back ++ ',' :: (more ++ '\x7d' :: rest)) = _
  rw [readOn_comma (by decide) (hback.skipSpace_append_cons rfl _), hmore fuel rest (by omega)]
  rfl

end Phrase.IsRead

/-- What is written is read. The induction is on how it is written. -/
theorem Writes.isRead {cs : List Char} {p : Phrase} (h : Writes cs p) : p.IsRead cs := by
  induction h with
  | null | truth | untruth => exact fun fuel rest _ _ => rfl
  | text h => exact .text h
  | number h => exact .number h
  | emptyList h => exact .emptyList h
  | list h ih => exact .list h ih
  | emptyRecord h => exact .emptyRecord h
  | record h ih => exact .record h ih
  | spaced hfront _ hback ih => exact .spaced hfront ih hback
  | lastItem h ih => exact .lastItem h.length_pos ih
  | item h _ ih hmore => exact .item h.length_pos ih hmore
  | member hfront hname hback _ ih => exact .member hfront hname hback ih
  | lastMember h ih => exact .lastMember h.length_pos ih
  | nextMember h _ ih hmore => exact .nextMember h.length_pos ih hmore

/-! ## What is read is written -/

theorem of_readOn {α : Type} {stop : Char} {more : List Char → Option (List α × List Char)} {v : α}
    {cs rest : List Char} {vs : List α} (h : readOn stop more v cs = some (vs, rest)) :
    (∃ ws, IsSpaces ws ∧ cs = ws ++ stop :: rest ∧ vs = [v]) ∨
      ∃ ws after vs', IsSpaces ws ∧ cs = ws ++ ',' :: after ∧ more after = some (vs', rest) ∧
        vs = v :: vs' := by
  obtain ⟨ws, hws, hcs⟩ := exists_spaces cs
  unfold readOn at h
  split at h
  · cases h
  · rename_i c after hskip
    rw [hskip] at hcs
    split_ifs at h with hstop hcomma
    · obtain ⟨rfl, rfl⟩ := Prod.mk.inj (Option.some_inj.mp h)
      exact .inl ⟨ws, hws, hstop ▸ hcs, rfl⟩
    · obtain ⟨⟨vs', rest'⟩, hmore, heq⟩ := Option.map_eq_some_iff.mp h
      obtain ⟨rfl, rfl⟩ := Prod.mk.inj heq
      exact .inr ⟨ws, after, vs', hws, hcomma ▸ hcs, hmore, rfl⟩

theorem of_readWithin {α : Type} {stop : Char} {more : List Char → Option (List α × List Char)}
    {cs rest : List Char} {vs : List α} (h : readWithin stop more cs = some (vs, rest)) :
    (∃ ws, IsSpaces ws ∧ cs = ws ++ stop :: rest ∧ vs = []) ∨
      more (skipSpace cs) = some (vs, rest) := by
  obtain ⟨ws, hws, hcs⟩ := exists_spaces cs
  unfold readWithin at h
  split at h
  · rename_i hskip
    exact .inr (hskip ▸ h)
  · rename_i c after hskip
    split_ifs at h with hstop
    · obtain ⟨rfl, rfl⟩ := Prod.mk.inj (Option.some_inj.mp h)
      exact .inl ⟨ws, hws, by rw [hcs, hskip, hstop], rfl⟩
    · exact .inr (hskip ▸ h)

/-- With so much fuel, only what is written is read. -/
structure ReadsWritten (fuel : Nat) : Prop where
  value : ∀ {cs rest : List Char} {d : Document}, readValue fuel cs = some (d, rest) →
    ∃ front text, IsSpaces front ∧ cs = front ++ (text ++ rest) ∧ Writes text (.value d)
  items : ∀ {cs rest : List Char} {ds : List Document}, readItems fuel cs = some (ds, rest) →
    ∃ text, cs = text ++ ']' :: rest ∧ Writes text (.items ds)
  members : ∀ {cs rest : List Char} {ms : List (Option String × Document)},
    readMembers fuel cs = some (ms, rest) →
      ∃ text, cs = text ++ '\x7d' :: rest ∧ Writes text (.members ms)

namespace ReadsWritten

variable {fuel : Nat} {cs rest : List Char}

theorem spaced (h : ReadsWritten fuel) {d : Document} {back : List Char} (hback : IsSpaces back)
    (hread : readValue fuel cs = some (d, back ++ rest)) :
    ∃ text, cs = text ++ rest ∧ Writes text (.spaced d) := by
  obtain ⟨front, text, hfront, rfl, htext⟩ := h.value hread
  exact ⟨front ++ (text ++ back), by simp only [List.append_assoc], .spaced hfront htext hback⟩

theorem member (h : ReadsWritten fuel) {m : Option String × Document} {back : List Char}
    (hback : IsSpaces back) (hread : readMember fuel cs = some (m, back ++ rest)) :
    ∃ text, cs = text ++ rest ∧ Writes text (.member m) := by
  obtain ⟨front, hfront, hcs⟩ := exists_spaces cs
  unfold readMember at hread
  split at hread
  · rename_i inner hquote
    obtain ⟨⟨s, after⟩, htext, hnamed⟩ := Option.bind_eq_some_iff.mp hread
    obtain ⟨name, rfl, hname⟩ := writesText_of_readText htext
    obtain ⟨middle, hmiddle, hafter⟩ := exists_spaces after
    unfold readNamed at hnamed
    split at hnamed
    · rename_i value hcolon
      obtain ⟨⟨d, rest'⟩, hvalue, heq⟩ := Option.map_eq_some_iff.mp hnamed
      obtain ⟨rfl, rfl⟩ := Prod.mk.inj heq
      obtain ⟨text, rfl, hspaced⟩ := h.spaced hback hvalue
      refine ⟨front ++ (('"' :: name) ++ (middle ++ ':' :: text)), ?_,
        .member hfront hname hmiddle hspaced⟩
      dsimp only at hafter hcolon
      rw [hcolon] at hafter
      rw [hcs, hquote, hafter]
      simp only [List.append_assoc, List.cons_append]
    · cases hnamed
  · cases hread

theorem items_succ (h : ReadsWritten fuel) {ds : List Document}
    (hread : readItems (fuel + 1) cs = some (ds, rest)) :
    ∃ text, cs = text ++ ']' :: rest ∧ Writes text (.items ds) := by
  rw [readItems_succ] at hread
  obtain ⟨⟨d, after⟩, hvalue, hon⟩ := Option.bind_eq_some_iff.mp hread
  rcases of_readOn hon with ⟨back, hback, rfl, rfl⟩ | ⟨back, more, ds', hback, rfl, hmore, rfl⟩
  · obtain ⟨text, rfl, htext⟩ := h.spaced hback hvalue
    exact ⟨text, rfl, .lastItem htext⟩
  · obtain ⟨text, rfl, htext⟩ := h.spaced hback hvalue
    obtain ⟨text', rfl, htext'⟩ := h.items hmore
    exact ⟨text ++ ',' :: text', by rw [List.append_assoc, List.cons_append], .item htext htext'⟩

theorem members_succ (h : ReadsWritten fuel) {ms : List (Option String × Document)}
    (hread : readMembers (fuel + 1) cs = some (ms, rest)) :
    ∃ text, cs = text ++ '\x7d' :: rest ∧ Writes text (.members ms) := by
  rw [readMembers_succ] at hread
  obtain ⟨⟨m, after⟩, hmember, hon⟩ := Option.bind_eq_some_iff.mp hread
  rcases of_readOn hon with ⟨back, hback, rfl, rfl⟩ | ⟨back, more, ms', hback, rfl, hmore, rfl⟩
  · obtain ⟨text, rfl, htext⟩ := h.member hback hmember
    exact ⟨text, rfl, .lastMember htext⟩
  · obtain ⟨text, rfl, htext⟩ := h.member hback hmember
    obtain ⟨text', rfl, htext'⟩ := h.members hmore
    exact ⟨text ++ ',' :: text', by rw [List.append_assoc, List.cons_append],
      .nextMember htext htext'⟩

theorem list_succ (h : ReadsWritten fuel) {d : Document}
    (hread : readValue (fuel + 1) ('[' :: cs) = some (d, rest)) :
    ∃ text, '[' :: cs = text ++ rest ∧ Writes text (.value d) := by
  rw [readValue_list] at hread
  obtain ⟨⟨ds, rest'⟩, hwithin, heq⟩ := Option.map_eq_some_iff.mp hread
  obtain ⟨rfl, rfl⟩ := Prod.mk.inj heq
  rcases of_readWithin hwithin with ⟨ws, hws, rfl, rfl⟩ | hitems
  · exact ⟨'[' :: (ws ++ [']']), by simp, .emptyList hws⟩
  · -- the spaces behind the bracket belong to the first item
    rw [readItems_congr (skipSpace_skipSpace cs)] at hitems
    obtain ⟨text, rfl, htext⟩ := h.items hitems
    exact ⟨'[' :: (text ++ [']']), by simp, .list htext⟩

theorem record_succ (h : ReadsWritten fuel) {d : Document}
    (hread : readValue (fuel + 1) ('\x7b' :: cs) = some (d, rest)) :
    ∃ text, '\x7b' :: cs = text ++ rest ∧ Writes text (.value d) := by
  rw [readValue_record] at hread
  obtain ⟨⟨ms, rest'⟩, hwithin, heq⟩ := Option.map_eq_some_iff.mp hread
  obtain ⟨rfl, rfl⟩ := Prod.mk.inj heq
  rcases of_readWithin hwithin with ⟨ws, hws, rfl, rfl⟩ | hmembers
  · exact ⟨'\x7b' :: (ws ++ ['\x7d']), by simp, .emptyRecord hws⟩
  · rw [readMembers_congr (skipSpace_skipSpace cs)] at hmembers
    obtain ⟨text, rfl, htext⟩ := h.members hmembers
    exact ⟨'\x7b' :: (text ++ ['\x7d']), by simp, .record htext⟩

theorem value_succ (h : ReadsWritten fuel) {d : Document}
    (hread : readValue (fuel + 1) cs = some (d, rest)) :
    ∃ front text, IsSpaces front ∧ cs = front ++ (text ++ rest) ∧ Writes text (.value d) := by
  obtain ⟨front, hfront, hcs⟩ := exists_spaces cs
  suffices ∃ text, skipSpace cs = text ++ rest ∧ Writes text (.value d) by
    obtain ⟨text, htext, hwrites⟩ := this
    exact ⟨front, text, hfront, by rw [hcs, htext], hwrites⟩
  rw [readValue] at hread
  split at hread
  · rename_i hskip
    obtain ⟨rfl, rfl⟩ := Prod.mk.inj (Option.some_inj.mp hread)
    exact ⟨_, hskip, .null⟩
  · rename_i hskip
    obtain ⟨rfl, rfl⟩ := Prod.mk.inj (Option.some_inj.mp hread)
    exact ⟨_, hskip, .truth⟩
  · rename_i hskip
    obtain ⟨rfl, rfl⟩ := Prod.mk.inj (Option.some_inj.mp hread)
    exact ⟨_, hskip, .untruth⟩
  · rename_i hskip
    obtain ⟨⟨s, rest'⟩, htext, heq⟩ := Option.map_eq_some_iff.mp hread
    obtain ⟨rfl, rfl⟩ := Prod.mk.inj heq
    obtain ⟨inner, rfl, hwrites⟩ := writesText_of_readText htext
    exact ⟨_, hskip, .text hwrites⟩
  · rename_i hskip
    rw [hskip]
    exact h.list_succ hread
  · rename_i hskip
    rw [hskip]
    exact h.record_succ hread
  · obtain ⟨⟨s, rest'⟩, hnumber, heq⟩ := Option.map_eq_some_iff.mp hread
    obtain ⟨rfl, rfl⟩ := Prod.mk.inj heq
    obtain ⟨text, hskip, hwrites⟩ := writesNumber_of_readNumber hnumber
    exact ⟨text, hskip, .number hwrites⟩

end ReadsWritten

/-- Only what is written is read. The induction is on the fuel. -/
theorem readsWritten (fuel : Nat) : ReadsWritten fuel := by
  induction fuel with
  | zero => exact ⟨fun h => (by cases h), fun h => (by cases h), fun h => (by cases h)⟩
  | succ fuel ih => exact ⟨ih.value_succ, ih.items_succ, ih.members_succ⟩

end Json

/-- **What a text denotes**: the reader finds it exactly if the text is JSON. -/
theorem ofJson_eq_some_iff {s : String} {d : Document} : ofJson s = some d ↔ Json.Denotes s d := by
  constructor
  · intro h
    unfold ofJson at h
    extract_lets cs at h
    split at h
    · rename_i d' rest hread
      split_ifs at h with hend
      obtain rfl := Option.some_inj.mp h
      have hback := Json.isSpaces_of_skipSpace (List.isEmpty_iff.mp hend)
      obtain ⟨front, text, hfront, (hs : s.toList = _), htext⟩ := (Json.readsWritten _).value hread
      rw [Json.Denotes, hs]
      exact .spaced hfront htext hback
    · cases h
  · intro h
    obtain ⟨back, hback, hread⟩ := h.isRead (2 * s.toList.length + 1) [] (by omega)
      fun c hc => by cases hc
    rw [List.append_nil, List.append_nil] at hread
    have hend : Json.skipSpace back = [] := by
      rw [← List.append_nil back, hback.skipSpace_append]
      rfl
    simp only [ofJson, hread, hend]
    rfl

/-- Bytes that are no text spoil the text between quotes in which they stand. -/
theorem Json.joinPieces_scar (front back : List Piece) :
    joinPieces (front ++ .char 'x' :: .unit 0xDC00 :: back) = none := by
  have hscar : joinPieces (.char 'x' :: .unit 0xDC00 :: back) = none := by
    cases back with
    | nil => rfl
    | cons p back => cases p <;> rfl
  fun_induction joinPieces front with
  | case1 => exact hscar
  | case2 c rest ih => simp [joinPieces, ih]
  | case3 n m rest hlead htrail ih => simp [joinPieces, hlead, htrail, ih]
  | case4 n m rest hlead htrail | case5 n m rest hlead htrail => simp [joinPieces, hlead, htrail]
  | case6 n m rest hlead htrail ih =>
    rw [List.cons_append] at ih
    simp [joinPieces, hlead, htrail, ih]
  | case7 n rest hnext hhalf | case8 n rest hnext hhalf ih =>
    -- the character in front keeps the half from one that stands in the text
    cases rest with
    | nil => simp_all [joinPieces]
    | cons p rest =>
      cases p with
      | char c => simp_all [joinPieces]
      | unit m => exact absurd rfl (hnext m rest)

end Switchboard.Document
