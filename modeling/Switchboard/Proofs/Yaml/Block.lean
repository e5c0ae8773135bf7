import Switchboard.Proofs.Yaml.Words
/-!
# Records by indentation

YAML as people write it: a record has an entry on each line, its key, a colon and its value, and a record
within a record begins on the next line, two columns further right. What is written so is cut into just
the tokens that it is meant to have.

* `Name`, `Style`, `Block`, `Entries` — what is written; `Block.written`, `Entries.written` — how.
* `Block.tokens`, `Entries.tokens` — the tokens.
* `Scanner.Reaches` — from one state to another, with enough fuel left; `Lands`, `Holds` — where the
  scanner stands between two lines, and what it has cut off by then; `ComesTo` — all of them.
* `reaches_value`, `reaches_scalar`, `reaches_entries` — one key, one scalar, and any number of entries.
* `tokens_text` — all tokens of a text.
-/

namespace Switchboard.Yaml

/-! ## What is written -/

/-- A word with what makes it one. -/
structure Name where
  chars : List Char
  isName : IsName chars

/-- The word as a text. -/
def Name.text (w : Name) : String := String.ofList w.chars

/-- A word begins with no sign. -/
theorem Name.exists_first (w : Name) : ∃ x cs, w.chars = x :: cs ∧ x ∉ signs ∧ isWord x = true := by
  obtain ⟨x, cs, hchars, hdash⟩ := w.isName.first
  have hx := w.isName.isWord x (hchars ▸ List.mem_cons_self)
  have hsigns : signs.all (fun y => y == '-' || !isWord y) = true := by decide
  refine ⟨x, cs, hchars, fun hmem => ?_, hx⟩
  rcases Bool.or_eq_true_iff.mp (List.all_eq_true.mp hsigns x hmem) with hsign | hword
  · exact hdash (beq_iff_eq.mp hsign)
  · rw [hx] at hword
    cases hword

/-- How a scalar is written. -/
inductive Style
  | plain
  | single
  | double
  deriving DecidableEq, Repr

/-- Is it written without quotes? -/
def Style.isPlain : Style → Bool
  | .plain => true
  | _ => false

/-- The scalar as it is written. -/
def Style.write : Style → List Char → List Char
  | .plain, w => w
  | .single, w => '\'' :: (w ++ ['\''])
  | .double, w => '"' :: (w ++ ['"'])

mutual

/-- A value: a scalar or a record. -/
inductive Block
  | scalar (style : Style) (word : Name)
  | record (entries : Entries)

/-- The entries of a record, of which there is at least one. -/
inductive Entries
  | last (key : Name) (value : Block)
  | cons (key : Name) (value : Block) (rest : Entries)

end

/-- The beginning of the next line. -/
def newLine (column : Nat) : List Char := '\n' :: List.replicate column ' '

mutual

/-- What follows the colon behind a key in this column. -/
def Block.written (column : Nat) : Block → List Char
  | .scalar style word => ' ' :: style.write word.chars
  | .record entries => newLine (column + 2) ++ entries.written (column + 2)

/-- The entries of a record in this column, from the first key on. -/
def Entries.written (column : Nat) : Entries → List Char
  | .last key value => key.chars ++ ':' :: value.written column
  | .cons key value rest =>
    key.chars ++ ':' :: (value.written column ++ (newLine column ++ rest.written column))

end

/-- A text that is a record. -/
def Entries.text (entries : Entries) : String := String.ofList (entries.written 0 ++ ['\n'])

theorem Entries.begins (es : Entries) (column : Nat) (rest : List Char) :
    Begins (es.written column ++ rest) := by
  cases es with
  | last key | cons key =>
    rw [Entries.written, List.append_assoc]
    exact key.isName.begins _

theorem Block.beginsBlank_written (b : Block) (column : Nat) (rest : List Char) :
    beginsBlank (b.written column ++ rest) = true := by
  cases b with
  | scalar | record => rfl

mutual

/-- The tokens of a value. -/
def Block.tokens : Block → List Token
  | .scalar style word => [.scalar style.isPlain word.text]
  | .record entries => .openRecord :: (entries.tokens ++ [.close])

/-- The tokens of entries. -/
def Entries.tokens : Entries → List Token
  | .last key value => .key :: .scalar true key.text :: .value :: value.tokens
  | .cons key value rest =>
    .key :: .scalar true key.text :: .value :: (value.tokens ++ rest.tokens)

end

namespace Scanner

/-! ## Steps of a run -/

/-- The run leads from one state to another, if there is fuel for the text that is left. -/
def Reaches (s s' : Scanner) : Prop :=
  ∀ fuel, s.place.rest.length + 2 ≤ fuel →
    ∃ fuel', s'.place.rest.length + 2 ≤ fuel' ∧ run fuel s = run fuel' s'

theorem Reaches.trans {s t u : Scanner} (h : s.Reaches t) (h' : t.Reaches u) : s.Reaches u := by
  intro fuel hfuel
  obtain ⟨fuel', hfuel', hrun⟩ := h fuel hfuel
  obtain ⟨fuel'', hfuel'', hrun'⟩ := h' fuel' hfuel'
  exact ⟨fuel'', hfuel'', hrun.trans hrun'⟩

/-- One more token, of at least one character. -/
theorem reaches_of_next {s s' : Scanner}
    (h : ∀ fuel, s.place.rest.length + 2 ≤ fuel → s.next fuel = some (true, s'))
    (hless : s'.place.rest.length < s.place.rest.length) : s.Reaches s' := by
  intro fuel hfuel
  obtain ⟨fuel, rfl⟩ : ∃ k, fuel = k + 1 := ⟨fuel - 1, by omega⟩
  refine ⟨fuel, by omega, ?_⟩
  rw [run, h _ hfuel]

/-- Outside of brackets, and with no key to come. -/
structure IsCold (s : Scanner) : Prop where
  depth_eq : s.depth = 0
  keys_eq : ∃ k, s.keys = [k] ∧ k.possible = false

theorem IsCold.inFlow_eq {s : Scanner} (h : s.IsCold) : s.inFlow = false := by
  rw [inFlow, h.depth_eq]
  rfl

theorem dropStale_singleton {s : Scanner} {k : KeyPlace} (hkeys : s.keys = [k])
    (hfresh : (k.possible && (k.line < s.place.line || k.index + keyReach < s.place.index)) = false) :
    s.dropStale = some s := by
  cases s
  subst hkeys
  simp only [dropStale, List.mapM_cons, List.mapM_nil, hfresh, Bool.false_eq_true, if_false]
  rfl

theorem IsCold.dropStale_eq {s : Scanner} (h : s.IsCold) : s.dropStale = some s := by
  obtain ⟨k, hkeys, hk⟩ := h.keys_eq
  exact dropStale_singleton hkeys (by rw [hk]; rfl)

theorem IsCold.dropKey_eq {s : Scanner} (h : s.IsCold) : ∃ keys, s.dropKey = some { s with keys } := by
  obtain ⟨k, hkeys, hk⟩ := h.keys_eq
  refine ⟨[{ k with possible := false }], ?_⟩
  rw [dropKey, hkeys]
  simp only [hk, Bool.false_and, Bool.false_eq_true, if_false]

section

variable {s t : Scanner} {k w : Name} {text rest : List Char} {column f j : Nat}
  {ts opening : List Token} {floors before outer : List Nat}

/-! ## Blanks -/

/-- Nothing is passed over in front of a character that is neither a blank nor the sign of a comment. -/
theorem skipBlank_eq_self {x : Char} (h : s.place.rest = x :: rest) (hblank : isBlank x = false)
    (hbreak : isBreak x = false) (hsign : x ≠ '#') (fuel : Nat) : skipBlank fuel s = s := by
  cases fuel with
  | zero => rfl
  | succ fuel =>
    rw [isBlank, Bool.or_eq_false_iff] at hblank
    rw [skipBlank, h]
    simp only [hblank.1, hblank.2, hbreak, hsign, Bool.false_and, Bool.or_self, Bool.false_eq_true,
      if_false]

theorem skipBlank_begins (h : Begins s.place.rest) (fuel : Nat) : skipBlank fuel s = s := by
  cases hrest : s.place.rest with
  | nil =>
    cases fuel with
    | zero => rfl
    | succ fuel => rw [skipBlank, hrest]
  | cons x rest =>
    have hx : isWord x = true := h x (by rw [hrest]; rfl)
    exact skipBlank_eq_self hrest (isBlank_of_isWord hx) (isBreak_of_isWord hx)
      (ne_of_isWord hx (by decide)) fuel

theorem skipBlank_blanks (htext : Begins text) {j fuel : Nat}
    (h : s.place.rest = List.replicate j ' ' ++ text) (hfuel : j ≤ fuel) :
    skipBlank fuel s = s.moved (s.place.skipMany j) := by
  induction j generalizing fuel s with
  | zero => exact skipBlank_begins (by rwa [h]) fuel
  | succ j ih =>
    obtain ⟨fuel, rfl⟩ : ∃ k, fuel = k + 1 := ⟨fuel - 1, by omega⟩
    have hrest : s.place.rest = ' ' :: (List.replicate j ' ' ++ text) := h
    rw [skipBlank, hrest]
    simp only [decide_true, Bool.true_or, if_true]
    rw [ih (s := s.moved s.place.skip) (by rw [moved, Cursor.rest_skip, hrest]; rfl) (by omega)]
    rfl

/-- Between two lines: at the first word of the next one, or at the end of the last. -/
inductive Lands (s : Scanner) (text : List Char) (column : Nat) : Prop
  | here (hrest : s.place.rest = text) (hcolumn : s.place.column = column)
      (hkey : s.keyAllowed = true)
  | above (hrest : s.place.rest = newLine column ++ text)

theorem Lands.length_le (h : s.Lands text column) : text.length ≤ s.place.rest.length := by
  cases h with
  | here hrest => exact Nat.le_of_eq (congrArg List.length hrest.symm)
  | above hrest =>
    rw [hrest, List.length_append]
    exact Nat.le_add_left _ _

/-- Blanks lead to the first word of the line. -/
theorem Lands.skipBlank_eq (h : s.Lands text column) (hcold : s.IsCold) (htext : Begins text) :
    ∃ p : Cursor, p.rest = text ∧ p.column = column ∧ ∀ fuel, s.place.rest.length ≤ fuel →
      skipBlank fuel s = { s with place := p, keyAllowed := true } := by
  cases h with
  | here hrest hcolumn hkey =>
    refine ⟨s.place, hrest, hcolumn, fun fuel _ => ?_⟩
    rw [skipBlank_begins (by rwa [hrest])]
    cases s
    subst hkey
    rfl
  | above hrest =>
    have hrest : s.place.rest = '\n' :: (List.replicate column ' ' ++ text) := hrest
    have hline := Cursor.skipLine_eq hrest
    have hblanks : s.place.skipLine.rest = List.replicate column ' ' ++ text := by rw [hline]
    have hplace := Cursor.skipMany_append hblanks fun hmem =>
      absurd (List.eq_of_mem_replicate hmem) (by decide)
    rw [List.length_replicate] at hplace
    refine ⟨_, congrArg Cursor.rest hplace, ?_, fun fuel hfuel => ?_⟩
    · rw [hplace, hline]
      exact Nat.zero_add column
    · rw [hrest, List.length_cons, List.length_append, List.length_replicate] at hfuel
      obtain ⟨fuel, rfl⟩ : ∃ k, fuel = k + 1 := ⟨fuel - 1, by omega⟩
      have hkey : (s.keyAllowed || !s.inFlow) = true := by
        rw [hcold.inFlow_eq]
        exact Bool.or_true _
      have hskip : skipBlank (fuel + 1) s
          = skipBlank fuel { s with place := s.place.skipLine, keyAllowed := true } := by
        rw [skipBlank, hrest]
        show skipBlank fuel { s with place := _, keyAllowed := s.keyAllowed || !s.inFlow } = _
        rw [hkey]
      rw [hskip]
      exact skipBlank_blanks htext hblanks (by omega)

/-! ## Collections that close -/

theorem closeTo_eq {floor : Nat} {inner : List Nat} (hopen : s.floor :: s.floors = inner ++ f :: floors)
    (hinner : ∀ g ∈ inner, floor < g) (hf : f ≤ floor) : ∃ ts : Array Token,
      ts.toList = s.tokens.toList ++ List.replicate inner.length .close ∧
        closeTo floor s.floors s = { s with floor := f, floors, tokens := ts } := by
  induction inner generalizing s with
  | nil =>
    obtain ⟨rfl, rfl⟩ := List.cons.inj hopen
    refine ⟨s.tokens, (List.append_nil _).symm, ?_⟩
    cases hfloors : s.floors with
    | nil =>
      cases s
      subst hfloors
      rfl
    | cons g gs =>
      rw [closeTo, if_neg (Nat.not_lt_of_le hf), ← hfloors]
  | cons g inner ih =>
    obtain ⟨rfl, hfloors⟩ := List.cons.inj hopen
    obtain ⟨outer, rest, hrest⟩ : ∃ outer rest, s.floors = outer :: rest :=
      List.exists_cons_of_ne_nil (by rw [hfloors]; exact List.append_ne_nil_of_right_ne_nil _ nofun)
    obtain ⟨ts, hts, hclose⟩ := ih
      (s := { s with floor := outer, floors := rest, tokens := s.tokens.push .close })
      (hrest.symm.trans hfloors) fun g hg => hinner g (List.mem_cons_of_mem _ hg)
    refine ⟨ts, ?_, ?_⟩
    · rw [hts, Array.toList_push, List.append_assoc]
      rfl
    · rw [hrest, closeTo, if_pos (hinner _ List.mem_cons_self)]
      exact hclose

/-- What was cut off by the time the scanner goes on in a column, with what closes there; the other
collections stay open. -/
structure Holds (s : Scanner) (ts : List Token) (floors : List Nat) (column : Nat) : Prop where
  isOpen : ∃ inner, s.floor :: s.floors = inner ++ floors ∧ (∀ g ∈ inner, column + 1 < g) ∧
    s.tokens.toList ++ List.replicate inner.length .close = ts

theorem Holds.dedent_eq (h : s.Holds ts (f :: floors) column) (hcold : s.IsCold) (hf : f ≤ column + 1) :
    ∃ tokens : Array Token, tokens.toList = ts ∧
      s.dedent (column + 1) = { s with floor := f, floors, tokens } := by
  obtain ⟨inner, hopen, hinner, rfl⟩ := h.isOpen
  obtain ⟨tokens, htokens, hclose⟩ := closeTo_eq hopen hinner hf
  refine ⟨tokens, htokens, ?_⟩
  rw [dedent, hcold.inFlow_eq]
  exact hclose

/-- Nothing closes in the column of a collection or to the right of it. -/
theorem dedent_eq_self (hcold : s.inFlow = false) {floor : Nat} (h : s.floor ≤ floor) :
    s.dedent floor = s := by
  rw [dedent, hcold, if_neg Bool.false_ne_true]
  cases s.floors with
  | nil => rfl
  | cons g gs => rw [closeTo, if_neg (Nat.not_lt_of_le h)]

/-- The run comes to a line at this text in one column; the tokens are those that are cut off by the time
it goes on in another. -/
def ComesTo (s : Scanner) (text : List Char) (j : Nat) (ts : List Token) (floors : List Nat)
    (column : Nat) : Prop :=
  ∃ t : Scanner, s.Reaches t ∧ t.IsCold ∧ t.Lands text j ∧ t.Holds ts floors column

theorem Reaches.comesTo (h : s.Reaches t) (h' : t.ComesTo text j ts floors column) :
    s.ComesTo text j ts floors column := by
  obtain ⟨u, hreaches, hcold, hland, hhold⟩ := h'
  exact ⟨u, h.trans hreaches, hcold, hland, hhold⟩

/-- Where the scanner stands when it cuts off the next token. -/
structure Stands (s : Scanner) (text : List Char) (column : Nat) (ts : List Token) (f : Nat)
    (floors : List Nat) : Prop where
  cold : s.IsCold
  rest_eq : s.place.rest = text
  column_eq : s.place.column = column
  key : s.keyAllowed = true
  tokens_eq : s.tokens.toList = ts
  floor_eq : s.floor = f
  floors_eq : s.floors = floors

/-- Between two lines the scanner first goes on to the next one. -/
theorem next_of_lands (hlands : s.Lands text column) (htext : Begins text) (hcold : s.IsCold)
    (hholds : s.Holds ts (f :: floors) column) (hf : f ≤ column + 1) :
    ∃ t : Scanner, t.Stands text column ts f floors ∧
      ∀ fuel, s.place.rest.length ≤ fuel → s.next fuel = t.cut fuel := by
  obtain ⟨p, hrest, rfl, hskip⟩ := hlands.skipBlank_eq hcold htext
  have hcold' : IsCold { s with place := p, keyAllowed := true } := ⟨hcold.depth_eq, hcold.keys_eq⟩
  have hholds' : Holds { s with place := p, keyAllowed := true } ts (f :: floors) p.column :=
    ⟨hholds.isOpen⟩
  obtain ⟨tokens, htokens, hdedent⟩ := hholds'.dedent_eq hcold' hf
  refine ⟨{ s with place := p, keyAllowed := true, floor := f, floors, tokens },
    ⟨⟨hcold.depth_eq, hcold.keys_eq⟩, hrest, rfl, rfl, htokens, rfl, rfl⟩, fun fuel hfuel => ?_⟩
  rw [next_eq, hskip fuel hfuel, hcold'.dropStale_eq]
  exact congrArg (cut fuel) hdedent

/-! ## Keys -/

/-- The collections that are open before and after a key in a column, and the token of the one that it
opens, if it is the first in it. -/
inductive Opens (column : Nat) : List Nat → List Nat → List Token → Prop
  | already (floors : List Nat) : Opens column ((column + 1) :: floors) floors []
  | anew {f : Nat} (floors : List Nat) (h : f ≤ column) :
      Opens column (f :: floors) (f :: floors) [.openRecord]

/-- Behind the colon of a key in a column. -/
structure Awaits (s : Scanner) (text : List Char) (column : Nat) (ts : List Token)
    (floors : List Nat) : Prop where
  cold : s.IsCold
  rest_eq : s.place.rest = text
  column_le : column ≤ s.place.column
  key : s.keyAllowed = false
  tokens_eq : s.tokens.toList = ts
  floor_eq : s.floor = column + 1
  floors_eq : s.floors = floors

/-- A key that may have begun here. -/
def keyHere (s : Scanner) : KeyPlace where
  possible := true
  number := s.tokens.size
  index := s.place.index
  line := s.place.line
  column := s.place.column

/-- Behind a word that may turn out to be a key. -/
def behindWord (s : Scanner) (k : Name) : Scanner where
  place := s.place.skipMany k.chars.length
  tokens := s.tokens.push (.scalar true k.text)
  keys := [s.keyHere]
  keyAllowed := false
  adjacent := s.adjacent
  floor := s.floor
  floors := s.floors
  depth := s.depth

/-- The same with the mark of a key in front of the word. -/
def marked (s : Scanner) (k : Name) : Scanner :=
  { s.behindWord k with tokens := (s.tokens.push (.scalar true k.text)).insertIdxIfInBounds s.tokens.size .key }

theorem valueMark_behindWord (s : Scanner) (k : Name) : (s.behindWord k).valueMark
    = some ({ (s.marked k).indent s.place.column s.tokens.size .openRecord with
        keys := [{ s.keyHere with possible := false }], keyAllowed := false }.pushSkip .value) := rfl

theorem IsCold.saveKey_eq (h : s.IsCold) (hkey : s.keyAllowed = true) :
    s.saveKey = some { s with keys := [s.keyHere] } := by
  obtain ⟨k, hkeys, hk⟩ := h.keys_eq
  have hflow := h.inFlow_eq
  rw [saveKey, if_pos hkey, dropKey, hkeys]
  simp only [hk, Bool.false_and, Bool.false_eq_true, if_false]
  show some _ = some _
  simp only [inFlow] at hflow
  simp [keyHere, inFlow, hflow]

/-- A word in front of a colon is a plain scalar at first. -/
theorem Stands.cut_word (h : s.Stands (k.chars ++ ':' :: rest) column ts f floors)
    (hrest : beginsBlank rest = true) (fuel : Nat) :
    s.cut (fuel + 1) = some (true, s.behindWord k) := by
  obtain ⟨x, cs, hchars, hx, -⟩ := k.exists_first
  have hplain := readPlain_colon k.isName hrest h.rest_eq s.floor fuel
  rw [cut_of_not_sign (h.rest_eq.trans (by rw [hchars]; rfl)) hx, plainScalar,
    h.cold.saveKey_eq h.key]
  show ((readPlain s.inFlow s.floor (fuel + 1) [] .none s.place).bind _).map _ = _
  rw [h.cold.inFlow_eq, hplain]
  rfl

theorem insertIdx_append (front back : List Token) (t : Token) :
    (front ++ back).insertIdx front.length t = front ++ t :: back := by
  induction front with
  | nil => exact List.insertIdx_zero
  | cons u front ih =>
    rw [List.cons_append, List.length_cons, List.insertIdx_succ_cons, ih]
    rfl

/-- A token is put in front of others that were cut off after it. -/
theorem toList_insert {tokens : Array Token} {front back : List Token} {n : Nat}
    (h : tokens.toList = front ++ back) (hn : front.length = n) (t : Token) :
    (tokens.insertIdxIfInBounds n t).toList = front ++ t :: back := by
  have hsize : tokens.size = n + back.length := by
    rw [← Array.length_toList, h, List.length_append, hn]
  rw [Array.insertIdxIfInBounds, dif_pos (by omega), Array.toList_insertIdx, h, ← hn, insertIdx_append]

/-- The record of a key opens, unless it is open. -/
theorem Opens.indent_eq (hopens : Opens column before outer opening) (hflow : s.inFlow = false)
    (hfloors : s.floor :: s.floors = before) {front back : List Token}
    (h : s.tokens.toList = front ++ back) : ∃ tokens : Array Token,
      tokens.toList = front ++ (opening ++ back) ∧ s.indent column front.length .openRecord
        = { s with floor := column + 1, floors := outer, tokens } := by
  cases hopens with
  | already =>
    obtain ⟨hfloor, rfl⟩ := List.cons.inj hfloors
    refine ⟨s.tokens, h, ?_⟩
    rw [indent, hflow, hfloor]
    simp only [Nat.lt_succ_self, decide_true, Bool.or_true, if_true]
    cases s
    subst hfloor
    rfl
  | anew floors hf =>
    obtain ⟨rfl, rfl⟩ := List.cons.inj hfloors
    refine ⟨_, toList_insert h rfl .openRecord, ?_⟩
    rw [indent, hflow]
    simp only [Nat.not_lt_of_le hf, decide_false, Bool.or_self, Bool.false_eq_true, if_false]

theorem Opens.floor_le (h : Opens column (f :: floors) outer opening) : f ≤ column + 1 := by
  cases h with
  | already => exact Nat.le_refl _
  | anew _ hf => exact Nat.le_succ_of_le hf

/-- The colon makes a key of the word in front of it. -/
theorem Stands.next_colon (h : s.Stands (k.chars ++ ':' :: rest) column ts f floors)
    (hrest : beginsBlank rest = true) (hopens : Opens column (f :: floors) outer opening) :
    ∃ t : Scanner, (∀ fuel, (s.behindWord k).next fuel = some (true, t)) ∧
      t.Awaits rest column (ts ++ (opening ++ [.key, .scalar true k.text, .value])) outer := by
  have hplace : (s.behindWord k).place = ⟨':' :: rest, s.place.index + k.chars.length, s.place.line,
      s.place.column + k.chars.length⟩ :=
    Cursor.skipMany_append h.rest_eq (not_lineFeed_mem k.isName.isWord)
  have hcolon : (s.behindWord k).place.rest = ':' :: rest := by rw [hplace]
  have hflow : (s.behindWord k).inFlow = false := h.cold.inFlow_eq
  have hstale : (s.behindWord k).dropStale = some (s.behindWord k) := by
    -- the colon stands on the same line, and no further away than a key may be long
    have hlength := k.isName.length_le
    have hnear : ¬ (s.place.index + keyReach < s.place.index + k.chars.length) := by
      unfold keyReach
      omega
    refine dropStale_singleton rfl ?_
    rw [hplace]
    show (true && (decide (s.place.line < s.place.line) ||
      decide (s.place.index + keyReach < s.place.index + k.chars.length))) = false
    rw [decide_eq_false (Nat.lt_irrefl _), decide_eq_false hnear]
    rfl
  have hfloor : (s.behindWord k).floor ≤ (s.behindWord k).place.column + 1 := by
    have hf := hopens.floor_le
    rw [hplace]
    show s.floor ≤ s.place.column + k.chars.length + 1
    rw [h.floor_eq, h.column_eq]
    omega
  have htoken (fuel : Nat) : (s.behindWord k).token fuel ':' rest = (s.behindWord k).valueMark := by
    simp [token, hrest]
  have hmarked : (s.marked k).tokens.toList = s.tokens.toList ++ [.key, .scalar true k.text] :=
    toList_insert Array.toList_push Array.length_toList .key
  obtain ⟨tokens, htokens, hindent⟩ := hopens.indent_eq (s := s.marked k) hflow
    (by rw [← h.floor_eq, ← h.floors_eq]; rfl) hmarked
  rw [Array.length_toList] at hindent
  refine ⟨pushSkip { s.marked k with
      floor := column + 1
      floors := outer
      tokens := tokens
      keys := [{ s.keyHere with possible := false }]
      keyAllowed := false } .value,
    fun fuel => ?_, ⟨h.cold.depth_eq, _, rfl, rfl⟩, ?_, ?_, rfl, ?_, rfl, rfl⟩
  · rw [next_eq, skipBlank_eq_self hcolon rfl rfl (by decide), hstale]
    show ((s.behindWord k).dedent _).cut fuel = _
    rw [dedent_eq_self hflow hfloor, cut_eq_token hcolon (by decide), htoken, valueMark_behindWord,
      h.column_eq, hindent]
    rfl
  · show (s.behindWord k).place.skip.rest = rest
    rw [Cursor.rest_skip, hcolon]
    rfl
  · show column ≤ (s.behindWord k).place.skip.column
    rw [Cursor.skip_eq hcolon (by decide), hplace, h.column_eq]
    show column ≤ column + k.chars.length + 1
    omega
  · show (tokens.push .value).toList = _
    rw [Array.toList_push, htokens, h.tokens_eq]
    simp only [List.append_assoc, List.cons_append, List.nil_append]

/-- A key and its colon at the beginning of a line. -/
theorem reaches_value (hlands : s.Lands (k.chars ++ ':' :: rest) column) (hcold : s.IsCold)
    (hholds : s.Holds ts before column) (hopens : Opens column before outer opening)
    (hrest : beginsBlank rest = true) : ∃ t : Scanner, s.Reaches t ∧
      t.Awaits rest column (ts ++ (opening ++ [.key, .scalar true k.text, .value])) outer := by
  obtain ⟨f, floors, rfl⟩ : ∃ f floors, before = f :: floors := by
    cases hopens <;> exact ⟨_, _, rfl⟩
  obtain ⟨u, hstands, hnext⟩ := next_of_lands hlands (k.isName.begins _) hcold hholds hopens.floor_le
  obtain ⟨t, hcolon, hawaits⟩ := hstands.next_colon hrest hopens
  -- first the word is cut off as a scalar, and then the colon with the mark of the key before it
  have hword : (u.behindWord k).place.rest = ':' :: rest := by
    rw [behindWord, Cursor.rest_skipMany, hstands.rest_eq, List.drop_left]
  have hkey : s.Reaches (u.behindWord k) := by
    refine reaches_of_next (fun fuel hfuel => ?_) ?_
    · obtain ⟨fuel, rfl⟩ : ∃ n, fuel = n + 1 := ⟨fuel - 1, by omega⟩
      rw [hnext _ (by omega), hstands.cut_word hrest]
    · obtain ⟨x, cs, hchars, -⟩ := k.isName.first
      have hless := hlands.length_le
      rw [List.length_append, hchars, List.length_cons] at hless
      rw [hword]
      omega
  have hvalue : (u.behindWord k).Reaches t := by
    refine reaches_of_next (fun fuel _ => hcolon fuel) ?_
    rw [hword, hawaits.rest_eq]
    exact Nat.lt_succ_self _
  exact ⟨t, hkey.trans hvalue, hawaits⟩

/-! ## Scalars -/

/-- Behind a colon one blank is passed over. -/
theorem Awaits.next_eq {x : Char} (h : s.Awaits (' ' :: x :: rest) column ts floors)
    (hx : isBlank x = false ∧ isBreak x = false ∧ x ≠ '#') {fuel : Nat} (hfuel : 0 < fuel) :
    s.next fuel = (s.moved s.place.skip).cut fuel := by
  obtain ⟨fuel, rfl⟩ : ∃ n, fuel = n + 1 := ⟨fuel - 1, by omega⟩
  have hrest : (s.moved s.place.skip).place.rest = x :: rest := by
    rw [moved, Cursor.rest_skip, h.rest_eq]
    rfl
  have hskip : skipBlank (fuel + 1) s = s.moved s.place.skip := by
    rw [skipBlank, h.rest_eq]
    simp only [decide_true, Bool.true_or, if_true]
    exact skipBlank_eq_self hrest hx.1 hx.2.1 hx.2.2 fuel
  have hcold : (s.moved s.place.skip).IsCold := ⟨h.cold.depth_eq, h.cold.keys_eq⟩
  have hfloor : (s.moved s.place.skip).floor ≤ (s.moved s.place.skip).place.column + 1 := by
    have hle := h.column_le
    show s.floor ≤ s.place.skip.column + 1
    rw [h.floor_eq, Cursor.skip_eq h.rest_eq (by decide)]
    show column + 1 ≤ s.place.column + 1 + 1
    omega
  rw [Scanner.next_eq, hskip, hcold.dropStale_eq]
  exact congrArg (cut _) (dedent_eq_self hcold.inFlow_eq hfloor)

theorem Awaits.rest_skip (h : s.Awaits (' ' :: text) column ts floors) : s.place.skip.rest = text := by
  rw [Cursor.rest_skip, h.rest_eq]
  rfl

/-- Where a scalar cannot be a key, nothing is put down for it. -/
theorem Awaits.saveKey_eq (h : s.Awaits text column ts floors) (c : Cursor) :
    (s.moved c).saveKey = some (s.moved c) :=
  if_neg (Bool.eq_false_iff.mp h.key)

/-- Nothing closes right behind a scalar. -/
theorem Awaits.holds (h : s.Awaits text column ts floors) {u : Token}
    (htokens : t.tokens = s.tokens.push u) (hfloor : t.floor = s.floor) (hfloors : t.floors = s.floors) :
    t.Holds (ts ++ [u]) ((column + 1) :: floors) column where
  isOpen := by
    refine ⟨[], ?_, nofun, ?_⟩
    · rw [hfloor, hfloors, h.floor_eq, h.floors_eq]
      rfl
    · rw [htokens, Array.toList_push, h.tokens_eq]
      exact List.append_nil _

/-- A plain word at the end of a line. -/
theorem reaches_plain (h : s.Awaits (' ' :: (w.chars ++ (newLine j ++ text))) column ts floors)
    (htext : Begins text) (hj : j ≤ column) :
    s.ComesTo text j (ts ++ [.scalar true w.text]) ((column + 1) :: floors) column := by
  obtain ⟨x, cs, hchars, hsign, hx⟩ := w.exists_first
  have hline : s.place.skip.rest = w.chars ++ '\n' :: (List.replicate j ' ' ++ text) := h.rest_skip
  have hless : j < s.floor := h.floor_eq ▸ Nat.lt_succ_of_le hj
  obtain ⟨p, hrest, hcolumn, hread⟩ := readPlain_line w.isName htext hless hline
  refine ⟨{ s with keyAllowed := true, place := p, tokens := s.tokens.push (.scalar true w.text) },
    reaches_of_next (fun fuel hfuel => ?_) ?_, ⟨h.cold.depth_eq, h.cold.keys_eq⟩,
    .here hrest hcolumn rfl, h.holds rfl rfl rfl⟩
  · -- the scanner reads on through the blanks of the next line, for which there is fuel
    have hlength : j + 1 < fuel := by
      simp only [h.rest_eq, newLine, List.length_cons, List.length_append, List.length_replicate] at hfuel
      omega
    have hhead : (s.moved s.place.skip).place.rest = x :: (cs ++ (newLine j ++ text)) := by
      rw [moved, hline, hchars]
      rfl
    rw [hchars] at h
    rw [h.next_eq ⟨isBlank_of_isWord hx, isBreak_of_isWord hx, ne_of_isWord hx (by decide)⟩ (by omega),
      cut_of_not_sign hhead hsign, plainScalar, h.saveKey_eq]
    show ((readPlain s.inFlow s.floor fuel [] .none s.place.skip).bind _).map _ = _
    rw [h.cold.inFlow_eq, hread fuel hlength]
    rfl
  · simp only [h.rest_eq, hrest, List.length_cons, List.length_append]
    omega

/-- A word between quotes. -/
theorem reaches_quoted (single : Bool)
    (h : s.Awaits (' ' :: quoteOf single :: (w.chars ++ quoteOf single :: (newLine j ++ text))) column
      ts floors) :
    s.ComesTo text j (ts ++ [.scalar false w.text]) ((column + 1) :: floors) column := by
  have hopen : s.place.skip.rest
      = quoteOf single :: (w.chars ++ quoteOf single :: (newLine j ++ text)) := h.rest_skip
  have hword : s.place.skip.skip.rest = w.chars ++ quoteOf single :: (newLine j ++ text) := by
    rw [Cursor.rest_skip, hopen]
    rfl
  have hend : (s.place.skip.skip.skipMany w.chars.length).skip.rest = newLine j ++ text := by
    rw [Cursor.rest_skip, Cursor.rest_skipMany, hword, List.drop_left]
    rfl
  have hquote : isBlank (quoteOf single) = false ∧ isBreak (quoteOf single) = false ∧
      quoteOf single ≠ '#' := by cases single <;> decide
  refine ⟨{ s with
      keyAllowed := false
      place := (s.place.skip.skip.skipMany w.chars.length).skip
      adjacent := (s.place.skip.skip.skipMany w.chars.length).skip.index
      tokens := s.tokens.push (.scalar false w.text) },
    reaches_of_next (fun fuel hfuel => ?_) ?_, ⟨h.cold.depth_eq, h.cold.keys_eq⟩, .above hend,
    h.holds rfl rfl rfl⟩
  · have htoken : (s.moved s.place.skip).token fuel (quoteOf single)
        (w.chars ++ quoteOf single :: (newLine j ++ text))
        = (s.moved s.place.skip).quotedScalar fuel single := by
      cases single <;> simp [token, quoteOf]
    have hmark : quoteOf single ∉ ['%', '-', '.'] := by cases single <;> decide
    obtain ⟨fuel, rfl⟩ : ∃ n, fuel = n + 1 := ⟨fuel - 1, by omega⟩
    have hlength : w.chars.length ≤ fuel := by
      simp only [h.rest_eq, List.length_cons, List.length_append] at hfuel
      omega
    rw [h.next_eq hquote (by omega), cut_eq_token hopen hmark, htoken, quotedScalar, h.saveKey_eq]
    show ((readQuoted single (fuel + 1) [] s.place.skip.skip).bind _).map _ = _
    rw [readQuoted_word w.isName (by rintro ⟨⟩) hword hlength]
    rfl
  · simp only [h.rest_eq, hend, List.length_cons, List.length_append]
    omega

/-- A scalar at the end of a line, in front of one that is not indented further. -/
theorem reaches_scalar {style : Style}
    (h : s.Awaits (' ' :: (style.write w.chars ++ (newLine j ++ text))) column ts floors)
    (htext : Begins text) (hj : j ≤ column) :
    s.ComesTo text j (ts ++ [.scalar style.isPlain w.text]) ((column + 1) :: floors) column := by
  cases style with
  | plain => exact reaches_plain h htext hj
  | single =>
    refine reaches_quoted true ?_
    rwa [Style.write, List.cons_append, List.append_assoc] at h
  | double =>
    refine reaches_quoted false ?_
    rwa [Style.write, List.cons_append, List.append_assoc] at h

/-! ## Records -/

/-- A record within a record begins on the next line and opens there. -/
theorem Awaits.record (h : s.Awaits (newLine (column + 2) ++ text) column ts floors) :
    s.Lands text (column + 2) ∧ s.Holds ts ((column + 1) :: floors) (column + 2) ∧
      Opens (column + 2) ((column + 1) :: floors) ((column + 1) :: floors) [.openRecord] := by
  refine ⟨.above h.rest_eq, ⟨[], ?_, nofun, ?_⟩, .anew floors (Nat.le_succ _)⟩
  · rw [h.floor_eq, h.floors_eq]
    rfl
  · rw [h.tokens_eq]
    exact List.append_nil _

/-- A record closes where the text goes on further to the left. -/
theorem Holds.close (h : s.Holds ts ((column + 2 + 1) :: floors) (column + 2)) :
    s.Holds (ts ++ [.close]) floors column where
  isOpen := by
    obtain ⟨inner, hopen, hinner, rfl⟩ := h.isOpen
    refine ⟨inner ++ [column + 2 + 1], ?_, fun g hg => ?_, ?_⟩
    · rw [hopen, List.append_assoc]
      rfl
    · rcases List.mem_append.mp hg with hg | hg
      · have hless := hinner g hg
        omega
      · rw [List.mem_singleton.mp hg]
        omega
    · rw [List.length_append, List.length_singleton, List.replicate_succ', List.append_assoc]

end

mutual

/-- A value, behind the colon of its key. The induction is on what is written. -/
theorem reaches_block {s : Scanner} {text : List Char} {column j : Nat} {ts : List Token}
    {floors : List Nat} (htext : Begins text) (hj : j ≤ column) : ∀ b : Block,
    s.Awaits (b.written column ++ (newLine j ++ text)) column ts floors →
    s.ComesTo text j (ts ++ b.tokens) ((column + 1) :: floors) column
  | .scalar style w, h => reaches_scalar h htext hj
  | .record es, h => by
    rw [Block.written, List.append_assoc] at h
    obtain ⟨hlands, hholds, hopens⟩ := h.record
    obtain ⟨t, hreaches, hcold, hland, hhold⟩ :=
      reaches_entries htext (Nat.le_add_right_of_le hj) es hlands h.cold hholds hopens
    refine ⟨t, hreaches, hcold, hland, ?_⟩
    have hclose := hhold.close
    rwa [List.append_assoc] at hclose

/-- The entries of a record, from the beginning of a line. -/
theorem reaches_entries {s : Scanner} {text : List Char} {column j : Nat} {ts opening : List Token}
    {before outer : List Nat} (htext : Begins text) (hj : j ≤ column) : ∀ es : Entries,
    s.Lands (es.written column ++ (newLine j ++ text)) column → s.IsCold →
    s.Holds ts before column → Opens column before outer opening →
    s.ComesTo text j (ts ++ (opening ++ es.tokens)) ((column + 1) :: outer) column
  | .last key value, hlands, hcold, hholds, hopens => by
    rw [Entries.written, List.append_assoc] at hlands
    obtain ⟨t, hreaches, hawaits⟩ :=
      reaches_value hlands hcold hholds hopens (value.beginsBlank_written column _)
    have hvalue := hreaches.comesTo (reaches_block htext hj value hawaits)
    rw [List.append_assoc, List.append_assoc] at hvalue
    exact hvalue
  | .cons key value rest, hlands, hcold, hholds, hopens => by
    rw [Entries.written, List.append_assoc, List.cons_append, List.append_assoc, List.append_assoc]
      at hlands
    obtain ⟨t, hreaches, hawaits⟩ :=
      reaches_value hlands hcold hholds hopens (value.beginsBlank_written column _)
    obtain ⟨u, hreaches', hcold', hland, hhold⟩ :=
      reaches_block (rest.begins column _) (Nat.le_refl column) value hawaits
    -- the record that the first key opened is open for the others
    have hmore := reaches_entries htext hj rest hland hcold' hhold (.already outer)
    have hall := (hreaches.trans hreaches').comesTo hmore
    simp only [List.append_assoc] at hall
    exact hall

end

/-! ## The whole text -/

/-- At the end of the text the outermost record closes. -/
theorem exists_run_end {s : Scanner} {ts : List Token} (hlands : s.Lands [] 0) (hcold : s.IsCold)
    (hholds : s.Holds ts [1, 0] 0) {fuel : Nat} (hfuel : s.place.rest.length + 2 ≤ fuel) :
    ∃ t : Scanner, run fuel s = some t ∧ t.tokens.toList = ts ++ [.close] := by
  obtain ⟨fuel, rfl⟩ : ∃ n, fuel = n + 1 := ⟨fuel - 1, by omega⟩
  obtain ⟨u, hstands, hnext⟩ := next_of_lands hlands nofun hcold hholds (Nat.le_refl 1)
  have hopen : u.floor :: u.floors = [1] ++ 0 :: [] := by
    rw [hstands.floor_eq, hstands.floors_eq]
    rfl
  obtain ⟨tokens, htokens, hclose⟩ := closeTo_eq hopen (by decide) (Nat.le_refl 0)
  have hdedent : u.dedent 0 = { u with floor := 0, floors := [], tokens } := by
    rw [dedent, hstands.cold.inFlow_eq]
    exact hclose
  have hcold' : IsCold { u with floor := 0, floors := [], tokens } :=
    ⟨hstands.cold.depth_eq, hstands.cold.keys_eq⟩
  obtain ⟨keys, hdrop⟩ := hcold'.dropKey_eq
  refine ⟨{ u with floor := 0, floors := [], tokens, keys }, ?_, ?_⟩
  · rw [run, hnext _ (by omega), cut_nil hstands.rest_eq, hdedent, hdrop]
    rfl
  · rw [← hstands.tokens_eq]
    exact htokens

end Scanner

theorem ne_zero_of_mem_newLine {column : Nat} : ∀ c ∈ newLine column, c ≠ '\x00' := by
  intro c hc
  obtain rfl | hc := List.mem_cons.mp hc
  · decide
  · rw [List.eq_of_mem_replicate hc]
    decide

theorem Name.ne_zero_of_mem (w : Name) : ∀ c ∈ w.chars, c ≠ '\x00' :=
  fun c hc => ne_of_isWord (w.isName.isWord c hc) (by decide)

theorem Style.ne_zero_of_mem (style : Style) (w : Name) : ∀ c ∈ style.write w.chars, c ≠ '\x00' := by
  have hquoted : ∀ q : Char, q ≠ '\x00' → ∀ c ∈ q :: (w.chars ++ [q]), c ≠ '\x00' := fun q hq =>
    List.forall_mem_cons.mpr ⟨hq, List.forall_mem_append.mpr
      ⟨w.ne_zero_of_mem, fun c hc => by rwa [List.mem_singleton.mp hc]⟩⟩
  cases style with
  | plain => exact w.ne_zero_of_mem
  | single => exact hquoted '\'' (by decide)
  | double => exact hquoted '"' (by decide)

mutual

theorem Block.ne_zero_of_mem (column : Nat) : ∀ b : Block, ∀ c ∈ b.written column, c ≠ '\x00'
  | .scalar style w => List.forall_mem_cons.mpr ⟨by decide, style.ne_zero_of_mem w⟩
  | .record es => List.forall_mem_append.mpr
    ⟨ne_zero_of_mem_newLine, es.ne_zero_of_mem (column + 2)⟩

theorem Entries.ne_zero_of_mem (column : Nat) : ∀ es : Entries, ∀ c ∈ es.written column, c ≠ '\x00'
  | .last key value => List.forall_mem_append.mpr ⟨key.ne_zero_of_mem,
    List.forall_mem_cons.mpr ⟨by decide, value.ne_zero_of_mem column⟩⟩
  | .cons key value rest => List.forall_mem_append.mpr ⟨key.ne_zero_of_mem,
    List.forall_mem_cons.mpr ⟨by decide, List.forall_mem_append.mpr ⟨value.ne_zero_of_mem column,
      List.forall_mem_append.mpr ⟨ne_zero_of_mem_newLine, rest.ne_zero_of_mem column⟩⟩⟩⟩

end

/-- No character ends the text early. -/
theorem Entries.takeWhile_text (es : Entries) :
    es.text.toList.takeWhile (· ≠ '\x00') = es.written 0 ++ ['\n'] := by
  rw [text, String.toList_ofList]
  exact List.takeWhile_append_of_pos fun c hc => decide_eq_true (es.ne_zero_of_mem 0 c hc)

/-- **A record is cut into its tokens.** -/
theorem tokens_text (es : Entries) : tokens es.text = some (.openRecord :: (es.tokens ++ [.close])) := by
  have hlands : Scanner.Lands { place := { rest := es.written 0 ++ ['\n'] } }
      (es.written 0 ++ (newLine 0 ++ [])) 0 := .here rfl rfl rfl
  have hends : Begins [] := nofun
  obtain ⟨s, hreaches, hcold, hland, hhold⟩ := Scanner.reaches_entries hends
    (Nat.le_refl 0) es hlands ⟨rfl, _, rfl, rfl⟩ ⟨[], rfl, nofun, rfl⟩ (.anew [] (Nat.le_refl 0))
  obtain ⟨fuel, hfuel, hrun⟩ := hreaches ((es.written 0 ++ ['\n']).length + 2) (Nat.le_refl _)
  obtain ⟨t, hend, htokens⟩ := Scanner.exists_run_end hland hcold hhold hfuel
  have hvisible := es.takeWhile_text
  unfold tokens
  dsimp only
  rw [hvisible, hrun, hend]
  exact congrArg some htokens

end Switchboard.Yaml
