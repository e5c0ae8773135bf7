import Switchboard.Document.Yaml
import Switchboard.Proofs.Yaml.Scanning
import Switchboard.Text.Blank
/-!
# Texts in which nothing is written

A text of blank lines and comments leaves nothing but plain scalars behind when it is cut into tokens,
and so does a text of blanks of any kind: no collection is opened in it. What follows is said of every
class of texts with the closure properties that such a class needs.

* `IsBareLine`, `IsBare` — lines of blanks with or without a comment; `bareFrom` — the same from left to
  right.
* `IsQuiet` — the closure properties; `isQuiet_bareFrom`, `isQuiet_isBlank` — the two classes.
* `Still` — what the scanner keeps in such a text; `Still.next`, `Still.run`.
* `eq_leaf_of_isQuiet` — all that can be read of it is a scalar.
-/

namespace Switchboard.Yaml

/-! ## Bare texts -/

/-- Nothing stands in the line but blanks and maybe a comment. -/
def IsBareLine (line : List Char) : Prop := ∀ c ∈ (line.dropWhile isBlank).head?, c = '#'

/-- A text of such lines. -/
def IsBare (cs : List Char) : Prop := ∀ line ∈ cs.splitOnP isBreak, IsBareLine line

theorem isBareLine_iff {line : List Char} :
    IsBareLine line ↔ (line.dropWhile isBlank).head?.all (· == '#') = true := by
  rw [IsBareLine, Option.all_eq_true]
  exact forall₂_congr fun _ _ => beq_iff_eq.symm

instance : DecidablePred IsBareLine := fun _ => decidable_of_iff _ isBareLine_iff.symm

instance : DecidablePred IsBare := fun cs =>
  decidable_of_iff ((cs.splitOnP isBreak).all (IsBareLine ·) = true) (by
    simp only [IsBare, List.all_eq_true, decide_eq_true_eq])

/-- Is the text bare from here on, where a comment has begun or has not? -/
def bareFrom : Bool → List Char → Bool
  | _, [] => true
  | true, x :: rest => bareFrom (!isBreak x) rest
  | false, x :: rest =>
    if isBlank x || isBreak x then bareFrom false rest else x == '#' && bareFrom true rest

theorem isBareLine_nil : IsBareLine [] := fun _ h => by cases h

theorem isBareLine_cons_of_isBlank {x : Char} (h : isBlank x = true) (line : List Char) :
    IsBareLine (x :: line) ↔ IsBareLine line := by
  rw [IsBareLine, IsBareLine, List.dropWhile_cons_of_pos h]

theorem isBareLine_cons {x : Char} (h : ¬ isBlank x = true) (line : List Char) :
    IsBareLine (x :: line) ↔ x = '#' := by
  rw [IsBareLine, List.dropWhile_cons_of_neg h, List.head?_cons]
  exact ⟨fun hx => hx x rfl, fun hx c hc => Option.some_inj.mp hc ▸ hx⟩

/-- A line end ends the line in front of it, and any other character belongs to the line after it. -/
theorem splitOnP_isBreak (x : Char) (cs : List Char) : ∃ line lines,
    cs.splitOnP isBreak = line :: lines ∧
      (x :: cs).splitOnP isBreak = if isBreak x then [] :: line :: lines else (x :: line) :: lines := by
  obtain ⟨line, lines, h⟩ := List.exists_cons_of_ne_nil (List.splitOnP_ne_nil isBreak cs)
  refine ⟨line, lines, h, ?_⟩
  rw [List.splitOnP_cons_eq_if_modifyHead, h]
  rfl

/-- Where a comment has begun, the first line does not matter. -/
theorem bareFrom_iff (cs : List Char) : ∃ line lines, cs.splitOnP isBreak = line :: lines ∧
    (bareFrom false cs = true ↔ IsBareLine line ∧ ∀ l ∈ lines, IsBareLine l) ∧
    (bareFrom true cs = true ↔ ∀ l ∈ lines, IsBareLine l) := by
  -- the first line is kept apart from the others, since one more character in front only alters it
  induction cs with
  | nil => exact ⟨[], [], rfl, by simp [bareFrom, isBareLine_nil], by simp [bareFrom]⟩
  | cons x cs ih =>
    obtain ⟨line, lines, hsplit, hplain, hcomment⟩ := ih
    obtain ⟨line', lines', hsplit', hcons⟩ := splitOnP_isBreak x cs
    obtain ⟨rfl, rfl⟩ := List.cons.inj (hsplit'.symm.trans hsplit)
    by_cases hbreak : isBreak x = true
    · refine ⟨[], _, hcons.trans (if_pos hbreak), ?_, ?_⟩
      · rw [bareFrom, hbreak, Bool.or_true, if_pos rfl, hplain, List.forall_mem_cons]
        exact (and_iff_right isBareLine_nil).symm
      · rw [bareFrom, hbreak, Bool.not_true, hplain, List.forall_mem_cons]
    · refine ⟨_, _, hcons.trans (if_neg hbreak), ?_, ?_⟩
      · by_cases hblank : isBlank x = true
        · rw [bareFrom, hblank, Bool.true_or, if_pos rfl, hplain, isBareLine_cons_of_isBlank hblank]
        · rw [bareFrom, if_neg (by simp [hblank, hbreak]), Bool.and_eq_true, beq_iff_eq, hcomment,
            isBareLine_cons hblank]
      · rw [bareFrom, Bool.eq_false_iff.mpr hbreak, Bool.not_false, hcomment]

theorem isBare_iff {cs : List Char} : IsBare cs ↔ bareFrom false cs = true := by
  obtain ⟨line, lines, hsplit, hplain, -⟩ := bareFrom_iff cs
  rw [hplain, IsBare, hsplit, List.forall_mem_cons]

/-- Behind the comment the text goes on at the end of the line. -/
theorem bareFrom_dropWhile {cs : List Char} {comment : Bool} (h : bareFrom comment cs = true) :
    bareFrom false (cs.dropWhile fun x => !isBreak x) = true := by
  induction cs generalizing comment with
  | nil => rfl
  | cons x cs ih =>
    cases hbreak : isBreak x with
    | true =>
      rw [List.dropWhile_cons_of_neg (by simp [hbreak]), bareFrom, hbreak, Bool.or_true, if_pos rfl]
      cases comment with
      | true => rwa [bareFrom, hbreak] at h
      | false => rwa [bareFrom, hbreak, Bool.or_true, if_pos rfl] at h
    | false =>
      rw [List.dropWhile_cons_of_pos (by simp [hbreak])]
      cases comment with
      | true => exact ih h
      | false =>
        rw [bareFrom] at h
        split at h
        · exact ih h
        · exact ih (Bool.and_eq_true_iff.mp h).2

/-- What is in front of a character of a bare text is bare. -/
theorem bareFrom_takeWhile {cs : List Char} {comment : Bool} (p : Char → Bool)
    (h : bareFrom comment cs = true) : bareFrom comment (cs.takeWhile p) = true := by
  induction cs generalizing comment with
  | nil => cases comment <;> exact h
  | cons x cs ih =>
    by_cases hp : p x = true
    · rw [List.takeWhile_cons_of_pos hp]
      cases comment with
      | true => exact ih h
      | false =>
        rw [bareFrom] at h ⊢
        split at h
        · rename_i hx
          rw [if_pos hx]
          exact ih h
        · rename_i hx
          rw [if_neg hx, Bool.and_eq_true]
          exact ⟨(Bool.and_eq_true_iff.mp h).1, ih (Bool.and_eq_true_iff.mp h).2⟩
    · rw [List.takeWhile_cons_of_neg hp]
      cases comment <;> rfl

/-! ## Quiet texts -/

/-- Where a text of the class is left off, the rest is of the class, and no sign stands in it where a
token may begin. -/
structure IsQuiet (P : List Char → Prop) : Prop where
  begins : ∀ x rest, P (x :: rest) → x ∉ signs
  rest : ∀ x rest, P (x :: rest) → x ≠ '#' → P rest
  comment : ∀ cs, P cs → cs.head? = some '#' → P (cs.dropWhile fun x => !isBreak x)
  word : ∀ cs, P cs → cs.head? ≠ some '#' → P (cs.drop (plainWord false cs).length)

/-- What a bare text begins with. -/
theorem bareFrom_cons {x : Char} {rest : List Char} (h : bareFrom false (x :: rest) = true) :
    ((x = ' ' ∨ x = '\t' ∨ x = '\n' ∨ x = '\r') ∧ bareFrom false rest = true) ∨ x = '#' := by
  rw [bareFrom] at h
  split at h
  · rename_i hx
    rw [isBlank, isBreak, Bool.or_eq_true, Bool.or_eq_true, Bool.or_eq_true, decide_eq_true_eq,
      decide_eq_true_eq, decide_eq_true_eq, decide_eq_true_eq, or_assoc] at hx
    exact .inl ⟨hx, h⟩
  · exact .inr (beq_iff_eq.mp (Bool.and_eq_true_iff.mp h).1)

/-- Without comments there are only blanks and line ends. -/
theorem isBlank_of_bareFrom {cs : List Char} (h : bareFrom false cs = true) (hsign : '#' ∉ cs) :
    ∀ c ∈ cs, Text.isBlank c = true := by
  induction cs with
  | nil => exact nofun
  | cons x rest ih =>
    rcases bareFrom_cons h with ⟨hx, h⟩ | rfl
    · refine List.forall_mem_cons.mpr ⟨?_, ih h fun hmem => hsign (List.mem_cons_of_mem _ hmem)⟩
      rcases hx with rfl | rfl | rfl | rfl <;> decide
    · exact absurd List.mem_cons_self hsign

theorem isQuiet_bareFrom : IsQuiet fun cs => bareFrom false cs = true where
  begins x rest h := by
    rcases bareFrom_cons h with ⟨rfl | rfl | rfl | rfl, -⟩ | rfl <;> decide
  rest x rest h hx := by
    rcases bareFrom_cons h with ⟨-, h⟩ | rfl
    · exact h
    · exact absurd rfl hx
  comment cs h _ := bareFrom_dropWhile h
  word cs h hx := by
    cases cs with
    | nil => exact h
    | cons x rest =>
      -- no word begins with a blank, so nothing is dropped
      rcases bareFrom_cons h with ⟨rfl | rfl | rfl | rfl, -⟩ | rfl
      · exact h
      · exact h
      · exact h
      · exact h
      · exact absurd rfl hx

theorem isQuiet_isBlank : IsQuiet fun cs => ∀ c ∈ cs, Text.isBlank c = true where
  begins x rest h hx := by
    have hsigns : signs.any Text.isBlank = false := by decide
    exact List.any_eq_false.mp hsigns x hx (h x List.mem_cons_self)
  rest x rest h _ := fun c hc => h c (List.mem_cons_of_mem _ hc)
  comment cs h _ := fun c hc => h c ((List.dropWhile_suffix _).mem hc)
  word cs h _ := fun c hc => h c (List.mem_of_mem_drop hc)

namespace IsQuiet

variable {P : List Char → Prop} (hP : IsQuiet P)

include hP

theorem skip {c : Cursor} {x : Char} {rest : List Char} (h : P c.rest) (hrest : c.rest = x :: rest)
    (hx : x ≠ '#') : P c.skip.rest := by
  rw [hrest] at h
  rw [Cursor.rest_skip, hrest]
  exact hP.rest x rest h hx

theorem skipLine {c : Cursor} (h : P c.rest) : P c.skipLine.rest := by
  unfold Cursor.skipLine
  split
  · rename_i rest hrest
    rw [hrest] at h
    rw [Cursor.rest_skipMany, hrest]
    exact hP.rest _ _ (hP.rest _ _ h (by decide)) (by decide)
  · rename_i hrest
    exact hP.skip h hrest (by decide)
  · rename_i hrest
    exact hP.skip h hrest (by decide)
  · exact h

theorem skipComment {c : Cursor} (h : P c.rest) : P c.skipComment.rest := by
  unfold Cursor.skipComment
  split
  · rename_i hrest
    rw [Cursor.rest_skipWhile]
    exact hP.comment _ h (by rw [hrest]; rfl)
  · exact h

/-- The gap behind a word leads to a place in the text. -/
theorem readGap {indent fuel : Nat} {g g' : Gap} {c c' : Cursor} (h : P c.rest)
    (hread : readGap indent fuel g c = some (g', c')) : P c'.rest := by
  induction fuel generalizing g c with
  | zero => cases hread
  | succ fuel ih =>
    rw [Yaml.readGap] at hread
    split at hread
    · cases hread
      exact h
    · rename_i x rest hrest
      split at hread
      · rename_i hblank
        split at hread
        · cases hread
        · refine ih (hP.skip h hrest ?_) hread
          rintro rfl
          exact absurd hblank (by decide)
      · split at hread
        · exact ih (hP.skipLine h) hread
        · cases hread
          exact h

/-- So does a plain scalar. -/
theorem readPlain {indent fuel : Nat} {text text' : List Char} {gap : Gap} {c c' : Cursor}
    {ended : Bool} (h : P c.rest)
    (hread : readPlain false indent fuel text gap c = some (text', c', ended)) : P c'.rest := by
  induction fuel generalizing text gap c with
  | zero => cases hread
  | succ fuel ih =>
    rw [Yaml.readPlain] at hread
    split at hread
    · cases hread
      exact h
    · rename_i hstop
      -- a comment would have stopped it
      have hword : P (c.skipMany (plainWord false c.rest).length).rest := by
        rw [Cursor.rest_skipMany]
        refine hP.word _ h fun hsign => hstop ?_
        rw [Cursor.at_, hsign]
        exact Bool.or_true _
      dsimp only at hread
      split at hread
      · split at hread
        · cases hread
        · rename_i hgap
          have hnext := hP.readGap hword hgap
          split at hread
          · cases hread
            exact hnext
          · exact ih hnext hread
      · cases hread
        exact hword

end IsQuiet

/-! ## Scanning -/

namespace Scanner

/-- No collection is open, and what was cut off so far is plain scalars. -/
structure Still (P : List Char → Prop) (s : Scanner) : Prop where
  quiet : P s.place.rest
  floors_eq : s.floors = []
  depth_eq : s.depth = 0
  plain : ∀ t ∈ s.tokens, ∃ text, t = .scalar true text

namespace Still

variable {P : List Char → Prop} {s s' : Scanner} {fuel : Nat}

theorem inFlow_eq (h : s.Still P) : s.inFlow = false := by
  rw [inFlow, h.depth_eq]
  rfl

/-- No indentation closes anything. -/
theorem dedent_eq (h : s.Still P) (floor : Nat) : s.dedent floor = s := by
  rw [dedent, h.inFlow_eq, h.floors_eq]
  rfl

theorem withKeys (h : s.Still P) (keys : List KeyPlace) : Still P { s with keys } :=
  ⟨h.quiet, h.floors_eq, h.depth_eq, h.plain⟩

theorem skipBlank (hP : IsQuiet P) (h : s.Still P) : (skipBlank fuel s).Still P := by
  induction fuel generalizing s with
  | zero => exact h
  | succ fuel ih =>
    rw [Scanner.skipBlank]
    split
    · exact h
    · rename_i x rest hrest
      split
      · rename_i hblank
        refine ih ⟨hP.skip h.quiet hrest ?_, h.floors_eq, h.depth_eq, h.plain⟩
        rintro rfl
        exact absurd hblank (by simp)
      · split
        · exact ih ⟨hP.skipLine h.quiet, h.floors_eq, h.depth_eq, h.plain⟩
        · split
          · exact ih ⟨hP.skipComment h.quiet, h.floors_eq, h.depth_eq, h.plain⟩
          · exact h

theorem plainScalar (hP : IsQuiet P) (h : s.Still P) (hread : s.plainScalar fuel = some s') :
    s'.Still P := by
  obtain ⟨t, hsave, hread⟩ := Option.bind_eq_some_iff.mp hread
  obtain ⟨keys, rfl⟩ := saveKey_eq hsave
  obtain ⟨⟨text, c, ended⟩, hplain, heq⟩ := Option.bind_eq_some_iff.mp hread
  cases heq
  have hquiet : P c.rest := by
    rw [show inFlow { s with keys } = false from h.inFlow_eq] at hplain
    exact hP.readPlain h.quiet hplain
  refine ⟨hquiet, h.floors_eq, h.depth_eq, fun t ht => ?_⟩
  rcases Array.mem_push.mp ht with ht | rfl
  · exact h.plain t ht
  · exact ⟨_, rfl⟩

theorem cut (hP : IsQuiet P) (h : s.Still P) {more : Bool} (hread : s.cut fuel = some (more, s')) :
    s'.Still P := by
  cases hrest : s.place.rest with
  | nil =>
    rw [cut_nil hrest, h.dedent_eq] at hread
    obtain ⟨t, hdrop, heq⟩ := Option.map_eq_some_iff.mp hread
    obtain ⟨keys, rfl⟩ := dropKey_eq hdrop
    cases heq
    exact h.withKeys keys
  | cons x rest =>
    have hx : x ∉ signs := hP.begins x rest (hrest ▸ h.quiet)
    rw [cut_of_not_sign hrest hx] at hread
    obtain ⟨t, hplain, heq⟩ := Option.map_eq_some_iff.mp hread
    cases heq
    exact h.plainScalar hP hplain

theorem next (hP : IsQuiet P) (h : s.Still P) {more : Bool} (hread : s.next fuel = some (more, s')) :
    s'.Still P := by
  rw [next_eq] at hread
  obtain ⟨t, hstale, hread⟩ := Option.bind_eq_some_iff.mp hread
  obtain ⟨keys, rfl⟩ := dropStale_eq hstale
  have hblank : (Scanner.skipBlank fuel s).Still P := h.skipBlank hP
  have hstill := hblank.withKeys keys
  rw [hstill.dedent_eq] at hread
  exact hstill.cut hP hread

/-- A run goes on cutting off plain scalars. -/
theorem run (hP : IsQuiet P) (h : s.Still P) (hrun : Scanner.run fuel s = some s') : s'.Still P := by
  induction fuel generalizing s with
  | zero => cases hrun
  | succ fuel ih =>
    rw [Scanner.run] at hrun
    split at hrun
    · cases hrun
    · rename_i hnext
      exact ih (h.next hP hnext) hrun
    · rename_i hnext
      obtain rfl := Option.some_inj.mp hrun
      exact h.next hP hnext

end Still

end Scanner

/-! ## What is read -/

/-- The part of a text that is cut into tokens. -/
def visible (s : String) : List Char := s.toList.takeWhile (· ≠ '\x00')

/-- The tokens of a quiet text are plain scalars. -/
theorem exists_scalar_of_isQuiet {P : List Char → Prop} (hP : IsQuiet P) {s : String}
    (h : P (visible s)) {ts : List Token} (hread : tokens s = some ts) :
    ∀ t ∈ ts, ∃ text, t = .scalar true text := by
  obtain ⟨final, hrun, rfl⟩ := Option.map_eq_some_iff.mp hread
  have hfirst : Scanner.Still P { place := { rest := visible s } } := ⟨h, rfl, rfl, nofun⟩
  intro t ht
  exact (hfirst.run hP hrun).plain t (Array.mem_toList_iff.mp ht)

theorem readNode_scalar (fuel : Nat) (plain : Bool) (text : String) (ts : List Token) :
    readNode (fuel + 2) true false { rest := .scalar plain text :: ts }
      = some (.scalar plain none text, { rest := ts }) := rfl

/-- What begins with a scalar is that scalar, or nothing at all. -/
theorem ofTokens_scalar {plain : Bool} {text : String} {ts : List Token} {node : Node}
    (h : Node.ofTokens (.scalar plain text :: ts) = some node) : node = .scalar plain none text := by
  have hread := readNode_scalar (4 * (ts.length + 1) + 2) plain text ts
  unfold Node.ofTokens at h
  dsimp only [List.length_cons] at h
  rw [hread] at h
  dsimp only at h
  split at h
  · exact (Option.some_inj.mp h).symm
  · cases h

/-- All that can be read of a quiet text is a scalar. -/
theorem eq_leaf_of_isQuiet {P : List Char → Prop} (hP : IsQuiet P) {s : String} (h : P (visible s))
    {d : Document} (hread : Document.ofYaml s = some d) : ∃ l, d = .leaf l := by
  obtain ⟨node, hnode, rfl⟩ := Option.map_eq_some_iff.mp hread
  obtain ⟨ts, htokens, hnode⟩ := Option.bind_eq_some_iff.mp hnode
  have hplain := exists_scalar_of_isQuiet hP h htokens
  cases ts with
  | nil => cases hnode
  | cons t ts =>
    obtain ⟨text, rfl⟩ := hplain t List.mem_cons_self
    obtain rfl := ofTokens_scalar hnode
    exact ⟨_, rfl⟩

end Switchboard.Yaml
