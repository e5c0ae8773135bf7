import Switchboard.Proofs.Yaml.Scanning
/-!
# Words in a YAML text

How the scalars of a YAML text are read that are single words: letters, digits, underscores and dashes,
plain or between quotes.

* `IsName` — the words; `Begins` — a text that begins with one, or ends here.
* `Cursor.skipMany_append` — the place behind characters of one line.
* `readPlain_colon`, `readPlain_line` — a plain word in front of a colon, and at the end of a line.
* `readQuoted_word` — a word between quotes.
-/

namespace Switchboard.Yaml

/-- A word that can be a key or a scalar by itself. -/
structure IsName (w : List Char) : Prop where
  isWord : ∀ c ∈ w, isWord c = true
  first : ∃ c cs, w = c :: cs ∧ c ≠ '-'
  length_le : w.length ≤ 1024

theorem isName_iff {w : List Char} : IsName w ↔
    w.all isWord = true ∧ w ≠ [] ∧ w.head? ≠ some '-' ∧ w.length ≤ 1024 := by
  rw [List.all_eq_true]
  constructor
  · rintro ⟨hword, ⟨c, cs, rfl, hdash⟩, hlength⟩
    exact ⟨hword, List.cons_ne_nil _ _, fun heq => hdash (Option.some_inj.mp heq), hlength⟩
  · rintro ⟨hword, hne, hdash, hlength⟩
    obtain ⟨c, cs, rfl⟩ := List.exists_cons_of_ne_nil hne
    exact ⟨hword, ⟨c, cs, rfl, fun heq => hdash (congrArg some heq)⟩, hlength⟩

instance : DecidablePred IsName := fun _ => decidable_of_iff _ isName_iff.symm

/-- The text goes on with a word, or ends. -/
def Begins (cs : List Char) : Prop := ∀ c ∈ cs.head?, isWord c = true

theorem ne_of_isWord {c d : Char} (h : isWord c = true) (hd : isWord d = false) : c ≠ d := by
  rintro rfl
  exact Bool.false_ne_true (hd.symm.trans h)

theorem isBlank_of_isWord {c : Char} (h : isWord c = true) : isBlank c = false := by
  rw [isBlank, decide_eq_false (ne_of_isWord h (by decide)),
    decide_eq_false (ne_of_isWord h (by decide))]
  rfl

theorem isBreak_of_isWord {c : Char} (h : isWord c = true) : isBreak c = false := by
  rw [isBreak, decide_eq_false (ne_of_isWord h (by decide)),
    decide_eq_false (ne_of_isWord h (by decide))]
  rfl

theorem IsName.begins {w : List Char} (h : IsName w) (rest : List Char) : Begins (w ++ rest) := by
  obtain ⟨c, cs, rfl, -⟩ := h.first
  intro d hd
  obtain rfl := Option.some_inj.mp hd
  exact h.isWord c List.mem_cons_self

namespace Cursor

/-- The place behind characters of one line. -/
theorem skipMany_append {c : Cursor} {w rest : List Char} (h : c.rest = w ++ rest) (hw : '\n' ∉ w) :
    c.skipMany w.length = ⟨rest, c.index + w.length, c.line, c.column + w.length⟩ := by
  induction w generalizing c with
  | nil =>
    obtain ⟨cs, index, line, column⟩ := c
    exact congrArg (Cursor.mk · index line column) h
  | cons x w ih =>
    have hx : x ≠ '\n' := fun hx => hw (hx ▸ List.mem_cons_self)
    have hskip : c.skip = ⟨w ++ rest, c.index + 1, c.line, c.column + 1⟩ := by
      rw [skip, h, List.cons_append]
      split
      · rename_i heq
        cases heq
      · rename_i heq
        exact absurd (List.cons.inj heq).1 hx
      · rename_i heq
        rw [(List.cons.inj heq).2]
    rw [List.length_cons, skipMany, hskip, ih rfl fun hmem => hw (List.mem_cons_of_mem _ hmem)]
    simp only [Nat.add_assoc, Nat.add_comm 1]

theorem skip_eq {c : Cursor} {x : Char} {rest : List Char} (h : c.rest = x :: rest) (hx : x ≠ '\n') :
    c.skip = ⟨rest, c.index + 1, c.line, c.column + 1⟩ :=
  skipMany_append (w := [x]) h fun hmem => hx (List.mem_singleton.mp hmem).symm

theorem skipLine_eq {c : Cursor} {rest : List Char} (h : c.rest = '\n' :: rest) :
    c.skipLine = ⟨rest, c.index + 1, c.line + 1, 0⟩ := by
  rw [skipLine, h]
  show c.skip = _
  rw [skip, h]
  rfl

theorem isMarker_eq_false {c : Cursor} {x : Char} {rest : List Char} (h : c.rest = x :: rest)
    (hdash : x ≠ '-') (hdot : x ≠ '.') : c.isMarker = false := by
  rw [isMarker, isStart_eq_false, isStop_eq_false]
  · rfl
  · exact fun more hmore => hdot (List.cons.inj (h.symm.trans hmore)).1
  · exact fun more hmore => hdash (List.cons.inj (h.symm.trans hmore)).1

end Cursor

theorem not_lineFeed_mem {w : List Char} (h : ∀ c ∈ w, isWord c = true) : '\n' ∉ w :=
  fun hmem => absurd (h '\n' hmem) (by decide)

/-! ## Plain words -/

theorem plainWord_append {w rest : List Char} (hw : ∀ c ∈ w, isWord c = true)
    (hrest : plainWord false rest = []) : plainWord false (w ++ rest) = w := by
  induction w with
  | nil => exact hrest
  | cons x w ih =>
    have hx := hw x List.mem_cons_self
    rw [List.cons_append, plainWord, isBlank_of_isWord hx, isBreak_of_isWord hx,
      decide_eq_false (ne_of_isWord hx (by decide)), ih fun c hc => hw c (List.mem_cons_of_mem _ hc)]
    rfl

theorem plainWord_colon {rest : List Char} (h : beginsBlank rest = true) :
    plainWord false (':' :: rest) = [] := by
  rw [plainWord, h]
  rfl

/-- No marker and no comment stands where a word begins. -/
theorem IsName.not_stop {w rest : List Char} (hw : IsName w) {c : Cursor} (h : c.rest = w ++ rest) :
    (c.isMarker || c.at_ '#') = false := by
  obtain ⟨x, cs, rfl, hdash⟩ := hw.first
  have hx := hw.isWord x List.mem_cons_self
  have hsign : c.at_ '#' = false := by
    rw [Cursor.at_, h]
    exact beq_eq_false_iff_ne.mpr fun heq =>
      ne_of_isWord hx (by decide) (Option.some_inj.mp heq)
  rw [Cursor.isMarker_eq_false h hdash (ne_of_isWord hx (by decide)), hsign]
  rfl

theorem IsName.isEmpty_eq {w : List Char} (hw : IsName w) : w.isEmpty = false := by
  obtain ⟨x, cs, rfl, -⟩ := hw.first
  rfl

/-- A plain word in front of a colon. -/
theorem readPlain_colon {w rest : List Char} (hw : IsName w) (hrest : beginsBlank rest = true)
    {c : Cursor} (h : c.rest = w ++ ':' :: rest) (indent fuel : Nat) :
    readPlain false indent (fuel + 1) [] .none c = some (w, c.skipMany w.length, false) := by
  have hword : plainWord false c.rest = w := by
    rw [h]
    exact plainWord_append hw.isWord (plainWord_colon hrest)
  have hend : (c.skipMany w.length).rest = ':' :: rest := by
    rw [Cursor.rest_skipMany, h, List.drop_left]
  have hline : ((c.skipMany w.length).atBlank || (c.skipMany w.length).atBreak) = false := by
    rw [Cursor.atBlank, Cursor.atBreak, hend]
    rfl
  rw [readPlain, hw.not_stop h, hword]
  simp only [hw.isEmpty_eq, hline, Bool.false_eq_true, if_false]
  rfl

/-- Blanks at the beginning of a line. -/
theorem readGap_blanks {text : List Char} (htext : Begins text) {indent : Nat} {escaped : Bool}
    {more j fuel : Nat} (hfuel : j < fuel) {c : Cursor}
    (h : c.rest = List.replicate j ' ' ++ text) :
    readGap indent fuel (.breaks escaped more) c = some (.breaks escaped more, c.skipMany j) := by
  induction j generalizing fuel c with
  | zero =>
    obtain ⟨fuel, rfl⟩ : ∃ k, fuel = k + 1 := ⟨fuel - 1, by omega⟩
    rw [readGap]
    split
    · rfl
    · rename_i x rest hrest
      have hx : isWord x = true := htext x (by rw [show text = x :: rest from h.symm.trans hrest]; rfl)
      rw [isBlank_of_isWord hx, isBreak_of_isWord hx]
      rfl
  | succ j ih =>
    obtain ⟨fuel, rfl⟩ : ∃ k, fuel = k + 1 := ⟨fuel - 1, by omega⟩
    have hrest : c.rest = ' ' :: (List.replicate j ' ' ++ text) := h
    rw [readGap, hrest]
    simp only [show isBlank ' ' = true from rfl, if_true, show ¬ (' ' : Char) = '\t' by decide,
      decide_false, Bool.and_false, Bool.false_eq_true, if_false]
    rw [Cursor.skipMany]
    exact ih (by omega) (by rw [Cursor.rest_skip, hrest]; rfl)

/-- A plain word at the end of a line, in front of one that is indented less. -/
theorem readPlain_line {w text : List Char} (hw : IsName w) (htext : Begins text) {j indent : Nat}
    (hj : j < indent) {c : Cursor} (h : c.rest = w ++ '\n' :: (List.replicate j ' ' ++ text)) :
    ∃ p : Cursor, p.rest = text ∧ p.column = j ∧
      ∀ fuel, j + 1 < fuel → readPlain false indent fuel [] .none c = some (w, p, true) := by
  have hend : (c.skipMany w.length).rest = '\n' :: (List.replicate j ' ' ++ text) := by
    rw [Cursor.rest_skipMany, h, List.drop_left]
  have hline := Cursor.skipLine_eq hend
  have hplace : ((c.skipMany w.length).skipLine.skipMany j)
      = ⟨text, (c.skipMany w.length).index + 1 + j, (c.skipMany w.length).line + 1, j⟩ := by
    have hindented : (c.skipMany w.length).skipLine.rest = List.replicate j ' ' ++ text := by
      rw [hline]
    have hskip := Cursor.skipMany_append hindented fun hmem =>
      absurd (List.eq_of_mem_replicate hmem) (by decide)
    rw [List.length_replicate] at hskip
    rw [hskip, hline]
    simp only [Nat.zero_add]
  -- the gap behind the word leads to the next line, and that is indented less
  have hgap (fuel : Nat) (hfuel : j < fuel) : readGap indent (fuel + 1) .none (c.skipMany w.length)
      = some (.breaks false 0, (c.skipMany w.length).skipLine.skipMany j) := by
    rw [readGap, hend]
    exact readGap_blanks htext hfuel (by rw [hline])
  have hword : plainWord false c.rest = w := by
    rw [h]
    exact plainWord_append hw.isWord rfl
  have hline : ((c.skipMany w.length).atBlank || (c.skipMany w.length).atBreak) = true := by
    rw [Cursor.atBlank, Cursor.atBreak, hend]
    rfl
  have hless : (!false && decide (((c.skipMany w.length).skipLine.skipMany j).column < indent)) = true := by
    rw [congrArg Cursor.column hplace]
    exact decide_eq_true hj
  refine ⟨_, congrArg Cursor.rest hplace, congrArg Cursor.column hplace, fun fuel hfuel => ?_⟩
  obtain ⟨fuel, rfl⟩ : ∃ k, fuel = k + 1 := ⟨fuel - 1, by omega⟩
  rw [readPlain, hw.not_stop h, hword]
  simp only [hw.isEmpty_eq, hline, hgap fuel (by omega), hless, Bool.false_eq_true, if_false, if_true]
  rfl

/-! ## Words between quotes -/

theorem readRun_word {single : Bool} {w rest : List Char} (hw : ∀ c ∈ w, isWord c = true)
    (hrest : rest.head? ≠ some '\'') (text : List Char) {c : Cursor}
    (h : c.rest = w ++ quoteOf single :: rest) {fuel : Nat} (hfuel : w.length < fuel) :
    readRun single fuel text c = some (text ++ w, c.skipMany w.length, false) := by
  induction w generalizing c text fuel with
  | nil =>
    obtain ⟨fuel, rfl⟩ : ∃ k, fuel = k + 1 := ⟨fuel - 1, by omega⟩
    rw [readRun, h, List.append_nil]
    cases single with
    | true =>
      -- one more single quote would stand for a quote in the text
      have hquote : (rest.head? == some '\'') = false := beq_eq_false_iff_ne.mpr hrest
      simp [quoteOf, isBlank, isBreak, hquote, Cursor.skipMany]
    | false => simp [quoteOf, isBlank, isBreak, Cursor.skipMany]
  | cons x w ih =>
    obtain ⟨fuel, rfl⟩ : ∃ k, fuel = k + 1 := ⟨fuel - 1, by omega⟩
    have hx := hw x List.mem_cons_self
    have hskip : c.skip.rest = w ++ quoteOf single :: rest := by
      rw [Cursor.rest_skip, h]
      rfl
    have hnext := ih (fun c hc => hw c (List.mem_cons_of_mem _ hc)) (text ++ [x]) hskip
      (Nat.lt_of_succ_lt_succ hfuel)
    rw [List.append_assoc, List.singleton_append] at hnext
    rw [List.length_cons, Cursor.skipMany, ← hnext, readRun, h, List.cons_append]
    dsimp only
    rw [isBlank_of_isWord hx, isBreak_of_isWord hx, if_neg (ne_of_isWord hx (by decide)),
      if_neg (ne_of_isWord hx (by decide)), if_neg (ne_of_isWord hx (by decide))]
    cases single <;> rfl

/-- A word between quotes. -/
theorem readQuoted_word {single : Bool} {w rest : List Char} (hw : IsName w)
    (hrest : rest.head? ≠ some '\'') {c : Cursor} (h : c.rest = w ++ quoteOf single :: rest)
    {fuel : Nat} (hfuel : w.length ≤ fuel) :
    readQuoted single (fuel + 1) [] c = some (w, (c.skipMany w.length).skip) := by
  have hmarker : c.isMarker = false := (Bool.or_eq_false_iff.mp (hw.not_stop h)).1
  have hmore : c.atEnd = false := by
    obtain ⟨x, cs, rfl, -⟩ := hw.first
    rw [Cursor.atEnd, h]
    rfl
  have hquote : (c.skipMany w.length).at_ (quoteOf single) = true := by
    rw [Cursor.at_, Cursor.rest_skipMany, h, List.drop_left]
    exact beq_self_eq_true _
  rw [readQuoted, hmarker, hmore, readRun_word hw.isWord hrest [] h (by omega)]
  simp only [hquote, Bool.or_self, Bool.false_eq_true, if_false, if_true, List.nil_append]

end Switchboard.Yaml
