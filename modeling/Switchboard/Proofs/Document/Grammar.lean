import Mathlib.Algebra.Group.Nat.Defs
import Mathlib.Data.List.Basic
import Switchboard.Document.Json
import Switchboard.Proofs.Text.Numeral
/-!
# The grammar of JSON

Which texts are JSON, and what they say, without regard to how they are read: texts between quotes,
with escapes in them; numerals with a sign, a fraction and an exponent, of which only plain digits
are natural numbers; and values made of these, with white space around them. The leaves are also
shown here to be read just as they are written.

* `WritesPieces`, `WritesText`, `WritesNumber` — how leaves are written.
* `Phrase`, `Writes` — how values are written, and what they consist of; `Denotes` — a whole text.
* `WritesPieces.readPieces_eq`, `writesPieces_of_readPieces` — the parts of a text, written and read.
* `WritesNumber.readNumber_eq`, `writesNumber_of_readNumber` — a numeral, written and read.
-/

namespace Switchboard.Document.Json

/-! ## The grammar -/

/-- White space, of any length. -/
def IsSpaces (ws : List Char) : Prop := ∀ c ∈ ws, isSpace c = true

/-- How the parts of a text are written between its quotes. -/
inductive WritesPieces : List Char → List Piece → Prop
  | nil : WritesPieces [] []
  | char {c : Char} {cs : List Char} {ps : List Piece} (h : 32 ≤ c.toNat) (hquote : c ≠ '"')
      (hslash : c ≠ '\\') (hrest : WritesPieces cs ps) : WritesPieces (c :: cs) (.char c :: ps)
  | letter {e c : Char} {cs : List Char} {ps : List Piece} (h : letterEscape? e = some c)
      (hrest : WritesPieces cs ps) : WritesPieces ('\\' :: e :: cs) (.char c :: ps)
  | unit {a b c d : Char} {n : Nat} {cs : List Char} {ps : List Piece} (h : hex4? a b c d = some n)
      (hrest : WritesPieces cs ps) :
      WritesPieces ('\\' :: 'u' :: a :: b :: c :: d :: cs) (.unit n :: ps)

/-- How a text is written: between quotes, and as no text if half a character stands alone in it. -/
inductive WritesText : List Char → Option String → Prop
  | quoted {cs : List Char} {ps : List Piece} (h : WritesPieces cs ps) :
      WritesText ('"' :: (cs ++ ['"'])) ((joinPieces ps).map String.ofList)

/-- Digits, at least one. -/
structure IsDigits (ds : List Char) : Prop where
  ne_nil : ds ≠ []
  all : ∀ c ∈ ds, Text.isDigit c = true

/-- The digits in front of the point: a zero stands alone. -/
structure IsWhole (ds : List Char) : Prop where
  isDigits : IsDigits ds
  alone : ∀ rest, ds = '0' :: rest → rest = []

/-- A fraction, or none. -/
inductive IsFraction : List Char → Prop
  | none : IsFraction []
  | digits {ds : List Char} (h : IsDigits ds) : IsFraction ('.' :: ds)

/-- An exponent, or none. -/
inductive IsExponent : List Char → Prop
  | none : IsExponent []
  | digits {e : Char} {sign ds : List Char} (he : e = 'e' ∨ e = 'E')
      (hsign : sign = [] ∨ sign = ['+'] ∨ sign = ['-']) (h : IsDigits ds) :
      IsExponent (e :: (sign ++ ds))

/-- How a numeral is written: it is a natural number of 64 bits if it is nothing but digits. -/
inductive WritesNumber : List Char → Scalar → Prop
  | plain {ds : List Char} (h : IsWhole ds) :
      WritesNumber ds (if Nat.ofDigitChars 10 ds 0 < 2 ^ 64
        then .natural (Nat.ofDigitChars 10 ds 0) else .other)
  | other {sign ds fraction exponent : List Char} (hsign : sign = [] ∨ sign = ['-'])
      (h : IsWhole ds) (hfraction : IsFraction fraction) (hexponent : IsExponent exponent)
      (hmore : sign ≠ [] ∨ fraction ≠ [] ∨ exponent ≠ []) :
      WritesNumber (sign ++ (ds ++ (fraction ++ exponent))) .other

/-- What is written: a value, by itself or with spaces around it, the items of a list, a member or the
members of a record. -/
inductive Phrase
  | value (d : Document)
  | spaced (d : Document)
  | items (ds : List Document)
  | member (m : Option String × Document)
  | members (ms : List (Option String × Document))

/-- How it is written. -/
inductive Writes : List Char → Phrase → Prop
  | null : Writes ['n', 'u', 'l', 'l'] (.value (plainLeaf .nothing))
  | truth : Writes ['t', 'r', 'u', 'e'] (.value (plainLeaf (.truth true)))
  | untruth : Writes ['f', 'a', 'l', 's', 'e'] (.value (plainLeaf (.truth false)))
  | text {cs : List Char} {s : Option String} (h : WritesText cs s) : Writes cs (.value (textLeaf s))
  | number {cs : List Char} {s : Scalar} (h : WritesNumber cs s) : Writes cs (.value (plainLeaf s))
  | emptyList {ws : List Char} (h : IsSpaces ws) : Writes ('[' :: (ws ++ [']'])) (.value (.list []))
  | list {cs : List Char} {ds : List Document} (h : Writes cs (.items ds)) :
      Writes ('[' :: (cs ++ [']'])) (.value (.list ds))
  | emptyRecord {ws : List Char} (h : IsSpaces ws) :
      Writes ('\x7b' :: (ws ++ ['\x7d'])) (.value (.record []))
  | record {cs : List Char} {ms : List (Option String × Document)} (h : Writes cs (.members ms)) :
      Writes ('\x7b' :: (cs ++ ['\x7d'])) (.value (.record ms))
  | spaced {front cs back : List Char} {d : Document} (hfront : IsSpaces front)
      (h : Writes cs (.value d)) (hback : IsSpaces back) : Writes (front ++ (cs ++ back)) (.spaced d)
  | lastItem {cs : List Char} {d : Document} (h : Writes cs (.spaced d)) : Writes cs (.items [d])
  | item {cs rest : List Char} {d : Document} {ds : List Document} (h : Writes cs (.spaced d))
      (hrest : Writes rest (.items ds)) : Writes (cs ++ ',' :: rest) (.items (d :: ds))
  | member {front name back cs : List Char} {s : Option String} {d : Document}
      (hfront : IsSpaces front) (hname : WritesText name s) (hback : IsSpaces back)
      (h : Writes cs (.spaced d)) : Writes (front ++ (name ++ (back ++ ':' :: cs))) (.member (s, d))
  | lastMember {cs : List Char} {m : Option String × Document} (h : Writes cs (.member m)) :
      Writes cs (.members [m])
  | nextMember {cs rest : List Char} {m : Option String × Document}
      {ms : List (Option String × Document)} (h : Writes cs (.member m))
      (hrest : Writes rest (.members ms)) : Writes (cs ++ ',' :: rest) (.members (m :: ms))

/-- The text is JSON, and this is what it says. -/
def Denotes (s : String) (d : Document) : Prop := Writes s.toList (.spaced d)

/-- What follows ends a value: white space, what separates or ends, or nothing. -/
def Halts (rest : List Char) : Prop :=
  ∀ c ∈ rest.head?, c ∈ [' ', '\n', '\t', '\r', ',', ']', '\x7d']

/-! ## Texts -/

theorem readPieces_letter {e c : Char} (h : letterEscape? e = some c) (cs : List Char) :
    readPieces ('\\' :: e :: cs) = (readPieces cs).map fun p => (.char c :: p.1, p.2) := by
  rw [readPieces, h]
  · cases readPieces cs <;> rfl
  · rintro a b c' d rest ⟨rfl, -⟩
    cases h

theorem readPieces_unit {a b c d : Char} {n : Nat} (h : hex4? a b c d = some n) (cs : List Char) :
    readPieces ('\\' :: 'u' :: a :: b :: c :: d :: cs)
      = (readPieces cs).map fun p => (.unit n :: p.1, p.2) := by
  rw [readPieces, h]
  cases readPieces cs <;> rfl

theorem readPieces_char {c : Char} (h : 32 ≤ c.toNat) (hquote : c ≠ '"') (hslash : c ≠ '\\')
    (cs : List Char) :
    readPieces (c :: cs) = (readPieces cs).map fun p => (.char c :: p.1, p.2) := by
  rw [readPieces]
  · rw [if_neg (by simp [hslash, h])]
    cases readPieces cs <;> rfl
  · exact hquote
  · rintro a b c' d rest rfl -
    exact hslash rfl
  · rintro e rest rfl -
    exact hslash rfl

theorem WritesPieces.readPieces_eq {cs : List Char} {ps : List Piece} (h : WritesPieces cs ps)
    (rest : List Char) : readPieces (cs ++ '"' :: rest) = some (ps, rest) := by
  induction h with
  | nil => rfl
  | char h hquote hslash _ ih =>
    rw [List.cons_append, readPieces_char h hquote hslash, ih]
    rfl
  | letter h _ ih =>
    rw [List.cons_append, List.cons_append, readPieces_letter h, ih]
    rfl
  | unit h _ ih =>
    simp only [List.cons_append]
    rw [readPieces_unit h, ih]
    rfl

/-- What is read as parts of a text is written as them. -/
theorem writesPieces_of_readPieces {cs rest : List Char} {ps : List Piece}
    (h : readPieces cs = some (ps, rest)) :
    ∃ text, cs = text ++ '"' :: rest ∧ WritesPieces text ps := by
  -- a case for each equation of the reader: the quote, two escapes, and a plain character
  fun_induction readPieces cs generalizing ps with
  | case1 => cases h
  | case2 rest' =>
    obtain ⟨rfl, rfl⟩ := Prod.mk.inj (Option.some_inj.mp h)
    exact ⟨[], rfl, .nil⟩
  | case3 a b c d cs n ps' rest' hhex hread ih =>
    obtain ⟨rfl, rfl⟩ := Prod.mk.inj (Option.some_inj.mp h)
    obtain ⟨text, rfl, htext⟩ := ih hhex
    exact ⟨_, rfl, .unit hread htext⟩
  | case4 => cases h
  | case5 e cs _ c ps' rest' hread hletter ih =>
    obtain ⟨rfl, rfl⟩ := Prod.mk.inj (Option.some_inj.mp h)
    obtain ⟨text, rfl, htext⟩ := ih hread
    exact ⟨_, rfl, .letter hletter htext⟩
  | case6 => cases h
  | case7 => cases h
  | case8 c cs hquote _ _ hplain ps' rest' hread ih =>
    obtain ⟨rfl, rfl⟩ := Prod.mk.inj (Option.some_inj.mp h)
    obtain ⟨text, rfl, htext⟩ := ih hread
    rw [Bool.or_eq_true, decide_eq_true_eq, decide_eq_true_eq, not_or, Nat.not_lt] at hplain
    exact ⟨_, rfl, .char hplain.1 hquote hplain.2 htext⟩
  | case9 => cases h

theorem WritesText.exists_eq {cs : List Char} {s : Option String} (h : WritesText cs s) :
    ∃ inner, cs = '"' :: inner ∧ ∀ rest, readText (inner ++ rest) = some (s, rest) := by
  obtain ⟨hpieces⟩ := h
  rename_i inner ps
  refine ⟨_, rfl, fun rest => ?_⟩
  rw [List.append_assoc, List.singleton_append, readText, hpieces.readPieces_eq]
  rfl

theorem writesText_of_readText {cs rest : List Char} {s : Option String}
    (h : readText cs = some (s, rest)) :
    ∃ inner, cs = inner ++ rest ∧ WritesText ('"' :: inner) s := by
  obtain ⟨⟨ps, rest'⟩, hread, heq⟩ := Option.map_eq_some_iff.mp h
  obtain ⟨rfl, rfl⟩ := Prod.mk.inj heq
  obtain ⟨text, rfl, htext⟩ := writesPieces_of_readPieces hread
  exact ⟨text ++ ['"'], by rw [List.append_assoc]; rfl, .quoted htext⟩

/-! ## Numerals -/

/-- What follows is no digit and no point. -/
def Stops (rest : List Char) : Prop := ∀ c ∈ rest.head?, Text.isDigit c = false ∧ c ≠ '.'

theorem Halts.stops {rest : List Char} (h : Halts rest) : Stops rest := by
  intro c hc
  have hends := h c hc
  simp only [List.mem_cons, List.not_mem_nil, or_false] at hends
  rcases hends with rfl | rfl | rfl | rfl | rfl | rfl | rfl <;> decide

theorem IsExponent.stops_append {exponent rest : List Char} (h : IsExponent exponent)
    (hrest : Stops rest) : Stops (exponent ++ rest) := by
  cases h with
  | none => exact hrest
  | digits he hsign h =>
    intro c hc
    obtain rfl := Option.some_inj.mp hc
    rcases he with rfl | rfl <;> decide

theorem IsFraction.head?_append {fraction rest : List Char} (h : IsFraction fraction)
    (hrest : Stops rest) : ∀ c ∈ (fraction ++ rest).head?, Text.isDigit c = false := by
  cases h with
  | none => exact fun c hc => (hrest c hc).1
  | digits h =>
    intro c hc
    obtain rfl := Option.some_inj.mp hc
    decide

theorem someDigits_append {ds rest : List Char} (h : IsDigits ds)
    (hrest : ∀ c ∈ rest.head?, Text.isDigit c = false) :
    someDigits (ds ++ rest) = some (ds, rest) := by
  have hstop : rest.takeWhile Text.isDigit = [] ∧ rest.dropWhile Text.isDigit = rest := by
    cases rest with
    | nil => exact ⟨rfl, rfl⟩
    | cons c rest =>
      have hc : ¬ Text.isDigit c = true := Bool.eq_false_iff.mp (hrest c rfl)
      exact ⟨List.takeWhile_cons_of_neg hc, List.dropWhile_cons_of_neg hc⟩
  rw [someDigits, List.takeWhile_append_of_pos h.all, List.dropWhile_append_of_pos h.all, hstop.1,
    hstop.2, List.append_nil, if_neg (by rw [List.isEmpty_iff]; exact h.ne_nil)]

theorem of_someDigits {cs ds rest : List Char} (h : someDigits cs = some (ds, rest)) :
    cs = ds ++ rest ∧ IsDigits ds := by
  unfold someDigits at h
  dsimp only at h
  split at h
  · cases h
  · rename_i hne
    obtain ⟨rfl, rfl⟩ := Prod.mk.inj (Option.some_inj.mp h)
    refine ⟨List.takeWhile_append_dropWhile.symm, ?_, fun c hc =>
      List.all_eq_true.mp List.all_takeWhile c hc⟩
    rwa [List.isEmpty_iff] at hne

theorem readWhole_append {ds rest : List Char} (h : IsWhole ds)
    (hrest : ∀ c ∈ rest.head?, Text.isDigit c = false) :
    readWhole (ds ++ rest) = some (ds, rest) := by
  rw [readWhole, someDigits_append h.isDigits hrest]
  split
  · rename_i c ds' rest' heq
    obtain ⟨rfl, -⟩ := Prod.mk.inj (Option.some_inj.mp heq)
    cases h.alone _ rfl
  · rfl

theorem of_readWhole {cs ds rest : List Char} (h : readWhole cs = some (ds, rest)) :
    cs = ds ++ rest ∧ IsWhole ds := by
  unfold readWhole at h
  split at h
  · cases h
  · rename_i hlong
    obtain ⟨heq, hdigits⟩ := of_someDigits h
    refine ⟨heq, hdigits, fun ds' hds => ?_⟩
    cases ds' with
    | nil => rfl
    | cons c ds' => exact absurd (hds ▸ h) (hlong c ds' rest)

theorem skipFraction_append {fraction rest : List Char} (h : IsFraction fraction)
    (hrest : Stops rest) : skipFraction (fraction ++ rest) = some (!fraction.isEmpty, rest) := by
  cases h with
  | none =>
    rw [List.nil_append, skipFraction]
    · rfl
    · rintro rest' rfl
      exact (hrest '.' rfl).2 rfl
  | digits h =>
    rw [List.cons_append, skipFraction, someDigits_append h fun c hc => (hrest c hc).1]
    rfl

theorem of_skipFraction {cs rest : List Char} {b : Bool} (h : skipFraction cs = some (b, rest)) :
    ∃ fraction, cs = fraction ++ rest ∧ IsFraction fraction ∧ b = !fraction.isEmpty := by
  unfold skipFraction at h
  split at h
  · obtain ⟨⟨ds, rest'⟩, hread, heq⟩ := Option.map_eq_some_iff.mp h
    obtain ⟨rfl, rfl⟩ := Prod.mk.inj heq
    obtain ⟨rfl, hdigits⟩ := of_someDigits hread
    exact ⟨_, rfl, .digits hdigits, rfl⟩
  · obtain ⟨rfl, rfl⟩ := Prod.mk.inj (Option.some_inj.mp h)
    exact ⟨[], rfl, .none, rfl⟩

/-- What follows the sign of an exponent. -/
def afterSign : List Char → List Char
  | '+' :: r => r
  | '-' :: r => r
  | r => r

theorem afterSign_append {sign ds : List Char} (hsign : sign = [] ∨ sign = ['+'] ∨ sign = ['-'])
    (h : IsDigits ds) (rest : List Char) : afterSign (sign ++ ds ++ rest) = ds ++ rest := by
  rcases hsign with rfl | rfl | rfl
  · cases ds with
    | nil => exact absurd rfl h.ne_nil
    | cons d ds =>
      -- a digit is no sign
      have hd := h.all d List.mem_cons_self
      rw [List.nil_append, List.cons_append, afterSign]
      · rintro r heq
        rw [(List.cons.inj heq).1] at hd
        exact absurd hd (by decide)
      · rintro r heq
        rw [(List.cons.inj heq).1] at hd
        exact absurd hd (by decide)
  · rfl
  · rfl

theorem exists_sign (cs : List Char) :
    ∃ sign, cs = sign ++ afterSign cs ∧ (sign = [] ∨ sign = ['+'] ∨ sign = ['-']) := by
  unfold afterSign
  split
  · exact ⟨['+'], rfl, .inr (.inl rfl)⟩
  · exact ⟨['-'], rfl, .inr (.inr rfl)⟩
  · exact ⟨[], rfl, .inl rfl⟩

theorem skipExponent_cons {e : Char} (he : e = 'e' ∨ e = 'E') (cs : List Char) :
    skipExponent (e :: cs) = (someDigits (afterSign cs)).map fun p => (true, p.2) := by
  have hmark : (decide (e = 'e') || decide (e = 'E')) = true := by
    rw [Bool.or_eq_true, decide_eq_true_eq, decide_eq_true_eq]
    exact he
  show (if _ then _ else _) = _
  rw [if_pos hmark]
  rfl

theorem skipExponent_append {exponent rest : List Char} (h : IsExponent exponent)
    (hrest : Halts rest) : skipExponent (exponent ++ rest) = some (!exponent.isEmpty, rest) := by
  cases h with
  | none =>
    cases rest with
    | nil => rfl
    | cons c rest =>
      have hmark : ¬ (decide (c = 'e') || decide (c = 'E')) = true := by
        have hc := hrest c rfl
        rw [Bool.or_eq_true, decide_eq_true_eq, decide_eq_true_eq]
        rintro (rfl | rfl) <;> exact absurd hc (by decide)
      show (if _ then _ else _) = _
      rw [if_neg hmark]
      rfl
  | digits he hsign h =>
    rw [List.cons_append, skipExponent_cons he, afterSign_append hsign h,
      someDigits_append h fun c hc => (hrest.stops c hc).1]
    rfl

theorem of_skipExponent {cs rest : List Char} {b : Bool} (h : skipExponent cs = some (b, rest)) :
    ∃ exponent, cs = exponent ++ rest ∧ IsExponent exponent ∧ b = !exponent.isEmpty := by
  cases cs with
  | nil =>
    obtain ⟨rfl, rfl⟩ := Prod.mk.inj (Option.some_inj.mp h)
    exact ⟨[], rfl, .none, rfl⟩
  | cons e cs =>
    by_cases he : e = 'e' ∨ e = 'E'
    · rw [skipExponent_cons he] at h
      obtain ⟨⟨ds, rest'⟩, hread, heq⟩ := Option.map_eq_some_iff.mp h
      obtain ⟨rfl, rfl⟩ := Prod.mk.inj heq
      obtain ⟨hcs, hdigits⟩ := of_someDigits hread
      obtain ⟨sign, hsplit, hsign⟩ := exists_sign cs
      refine ⟨e :: (sign ++ ds), ?_, .digits he hsign hdigits, rfl⟩
      rw [hsplit, hcs, List.cons_append, List.append_assoc]
    · have hmark : ¬ (decide (e = 'e') || decide (e = 'E')) = true := by
        rwa [Bool.or_eq_true, decide_eq_true_eq, decide_eq_true_eq]
      unfold skipExponent at h
      dsimp only at h
      rw [if_neg hmark] at h
      obtain ⟨rfl, rfl⟩ := Prod.mk.inj (Option.some_inj.mp h)
      exact ⟨[], rfl, .none, rfl⟩

/-- What is read of a numeral after its sign. -/
def readUnsigned (negative : Bool) (cs : List Char) : Option (Scalar × List Char) := do
  let (whole, cs) ← readWhole cs
  let (fraction, cs) ← skipFraction cs
  let (exponent, cs) ← skipExponent cs
  return (if negative || fraction || exponent then .other else naturalOf whole, cs)

theorem readNumber_minus (cs : List Char) : readNumber ('-' :: cs) = readUnsigned true cs := rfl

theorem readNumber_of_ne {cs : List Char} (h : ∀ rest, cs ≠ '-' :: rest) :
    readNumber cs = readUnsigned false cs := by
  unfold readNumber
  split
  rename_i negative cs' hsign
  split at hsign
  · exact absurd rfl (h _)
  · obtain ⟨rfl, rfl⟩ := Prod.mk.inj hsign
    rfl

theorem readUnsigned_append {negative : Bool} {ds fraction exponent rest : List Char}
    (h : IsWhole ds) (hfraction : IsFraction fraction) (hexponent : IsExponent exponent)
    (hrest : Halts rest) : readUnsigned negative (ds ++ (fraction ++ (exponent ++ rest)))
      = some (if negative || !fraction.isEmpty || !exponent.isEmpty then .other else naturalOf ds,
        rest) := by
  have hstops := hexponent.stops_append hrest.stops
  rw [readUnsigned, readWhole_append h (hfraction.head?_append hstops)]
  show ((skipFraction _).bind fun p => _) = _
  rw [skipFraction_append hfraction hstops]
  show ((skipExponent _).bind fun p => _) = _
  rw [skipExponent_append hexponent hrest]
  rfl

theorem of_readUnsigned {negative : Bool} {cs rest : List Char} {s : Scalar}
    (h : readUnsigned negative cs = some (s, rest)) :
    ∃ ds fraction exponent, cs = ds ++ (fraction ++ (exponent ++ rest)) ∧ IsWhole ds ∧
      IsFraction fraction ∧ IsExponent exponent ∧
      s = if negative || !fraction.isEmpty || !exponent.isEmpty then .other else naturalOf ds := by
  obtain ⟨⟨ds, cs₁⟩, hwhole, h⟩ := Option.bind_eq_some_iff.mp h
  obtain ⟨⟨b, cs₂⟩, hfraction, h⟩ := Option.bind_eq_some_iff.mp h
  obtain ⟨⟨b', cs₃⟩, hexponent, h⟩ := Option.bind_eq_some_iff.mp h
  obtain ⟨rfl, rfl⟩ := Prod.mk.inj (Option.some_inj.mp h)
  obtain ⟨rfl, hds⟩ := of_readWhole hwhole
  obtain ⟨fraction, rfl, hpoint, rfl⟩ := of_skipFraction hfraction
  obtain ⟨exponent, rfl, hmark, rfl⟩ := of_skipExponent hexponent
  exact ⟨ds, fraction, exponent, rfl, hds, hpoint, hmark, rfl⟩

/-- Plain digits say the number that they denote, if it has 64 bits. -/
theorem naturalOf_eq {ds : List Char} (h : IsDigits ds) :
    naturalOf ds = if Nat.ofDigitChars 10 ds 0 < 2 ^ 64 then .natural (Nat.ofDigitChars 10 ds 0)
      else .other := by
  rw [naturalOf, Text.readNatural_of_isDigit h.ne_nil h.all]
  by_cases hword : Nat.ofDigitChars 10 ds 0 ≤ Text.maxWord64
  · have hlt : Nat.ofDigitChars 10 ds 0 < 2 ^ 64 := Nat.lt_succ_of_le hword
    rw [if_pos hword, if_pos hlt]
  · have hge : ¬ Nat.ofDigitChars 10 ds 0 < 2 ^ 64 := fun hlt => hword (Nat.le_of_lt_succ hlt)
    rw [if_neg hword, if_neg hge]

theorem IsWhole.ne_minus {ds : List Char} (h : IsWhole ds) (cs rest : List Char) :
    ds ++ cs ≠ '-' :: rest := by
  cases ds with
  | nil => exact absurd rfl h.isDigits.ne_nil
  | cons d ds =>
    intro heq
    have hd := h.isDigits.all d List.mem_cons_self
    rw [(List.cons.inj heq).1] at hd
    exact absurd hd (by decide)

theorem WritesNumber.readNumber_eq {cs : List Char} {s : Scalar} (h : WritesNumber cs s)
    {rest : List Char} (hrest : Halts rest) : readNumber (cs ++ rest) = some (s, rest) := by
  cases h with
  | plain h =>
    rw [readNumber_of_ne (h.ne_minus rest)]
    have hread : readUnsigned false _ = _ := readUnsigned_append h .none .none hrest
    rwa [← naturalOf_eq h.isDigits]
  | other hsign h hfraction hexponent hmore =>
    rename_i sign ds fraction exponent
    simp only [List.append_assoc]
    rcases hsign with rfl | rfl
    · -- without a sign there is a fraction or an exponent
      rw [List.nil_append, readNumber_of_ne (h.ne_minus _),
        readUnsigned_append h hfraction hexponent hrest]
      have hother : (false || !fraction.isEmpty || !exponent.isEmpty) = true := by
        rw [Bool.false_or, Bool.or_eq_true, Bool.not_eq_true', Bool.not_eq_true',
          List.isEmpty_eq_false_iff, List.isEmpty_eq_false_iff]
        exact hmore.resolve_left (fun hne => hne rfl)
      rw [if_pos hother]
    · rw [List.singleton_append, readNumber_minus, readUnsigned_append h hfraction hexponent hrest]
      rfl

/-- What is read as a numeral is written as it. -/
theorem writesNumber_of_readNumber {cs rest : List Char} {s : Scalar}
    (h : readNumber cs = some (s, rest)) : ∃ text, cs = text ++ rest ∧ WritesNumber text s := by
  by_cases hminus : ∃ cs', cs = '-' :: cs'
  · obtain ⟨cs', rfl⟩ := hminus
    rw [readNumber_minus] at h
    obtain ⟨ds, fraction, exponent, rfl, hds, hfraction, hexponent, rfl⟩ := of_readUnsigned h
    refine ⟨['-'] ++ (ds ++ (fraction ++ exponent)), ?_,
      .other (.inr rfl) hds hfraction hexponent (.inl (List.cons_ne_nil _ _))⟩
    simp only [List.append_assoc, List.cons_append, List.nil_append]
  · rw [readNumber_of_ne fun cs' heq => hminus ⟨cs', heq⟩] at h
    obtain ⟨ds, fraction, exponent, rfl, hds, hfraction, hexponent, rfl⟩ := of_readUnsigned h
    by_cases hmore : fraction ≠ [] ∨ exponent ≠ []
    · have hother : (false || !fraction.isEmpty || !exponent.isEmpty) = true := by
        rw [Bool.false_or, Bool.or_eq_true, Bool.not_eq_true', Bool.not_eq_true',
          List.isEmpty_eq_false_iff, List.isEmpty_eq_false_iff]
        exact hmore
      rw [if_pos hother]
      refine ⟨[] ++ (ds ++ (fraction ++ exponent)), ?_,
        .other (.inl rfl) hds hfraction hexponent (.inr hmore)⟩
      simp only [List.append_assoc, List.nil_append]
    · -- nothing but digits
      obtain ⟨rfl, rfl⟩ : fraction = [] ∧ exponent = [] := by
        rwa [not_or, not_ne_iff, not_ne_iff] at hmore
      refine ⟨ds, rfl, ?_⟩
      show WritesNumber ds (naturalOf ds)
      rw [naturalOf_eq hds.isDigits]
      exact .plain hds

end Switchboard.Document.Json
