import Mathlib.Algebra.Group.Nat.Defs
import Switchboard.Duration.Grammar
import Switchboard.Proofs.Text.Numeral
/-!
# The grammar of durations

What the reader of durations accepts, said without it: digits, blanks, and a spelling of a unit. And
why it refuses a text: each fault by itself says what it finds wrong, and of those that do the first
in a fixed order is reported, so that for every text there is exactly one outcome.

* `Writes` — the grammar; `Unit.Spells` — the spellings of a unit.
* `Leads` — the digits in front of a text; every text has them once.
* `Fault.Applies`, `Fault.IsFirst` — what a fault finds wrong, and which fault comes first.
* `Counts` — a text that no fault finds wrong; `readTrimmed_spec` — every other one is refused.
* `readTrimmed_eq_ok_iff`, `readTrimmed_eq_error_iff` — both outcomes of the reader.
* `read_grammar` — the same for a whole text, and what follows for signs, zeros and written durations.
-/

namespace Switchboard.Duration

open Text (isDigit isBlank trimBlank maxWord64)

/-! ## The grammar -/

/-- The spellings of a unit: its symbol, and for the second nothing at all. -/
inductive Unit.Spells : Unit → List Char → Prop
  | symbol (u : Unit) : u.Spells u.symbol.toList
  | bare : Unit.second.Spells []

/-- A text writes a number of units: digits, blanks, a spelling of the unit. -/
def Writes (cs : List Char) (n : Nat) (u : Unit) : Prop :=
  ∃ digits gap symbol, cs = digits ++ gap ++ symbol ∧ Text.IsNumeral digits n ∧
    (∀ c ∈ gap, isBlank c = true) ∧ u.Spells symbol

/-- A text has these digits in front, and after them the rest. -/
structure Leads (cs digits rest : List Char) : Prop where
  eq : cs = digits ++ rest
  all : ∀ c ∈ digits, isDigit c = true
  stops : ∀ c ∈ rest.head?, isDigit c = false

/-- A fault finds a text wrong, whatever else may be wrong with it. -/
inductive Fault.Applies (cs : List Char) : Fault → Prop
  | empty (h : cs = []) : Applies cs .empty
  | noDigits {rest : List Char} (h : Leads cs [] rest) : Applies cs (.number .empty)
  | tooLarge {digits rest : List Char} (h : Leads cs digits rest)
      (hlarge : 2 ^ 64 ≤ Nat.ofDigitChars 10 digits 0) : Applies cs (.number .tooLarge)
  | unit {digits rest : List Char} (h : Leads cs digits rest)
      (hunit : ∀ u : Unit, ¬ u.Spells (trimBlank rest)) :
      Applies cs (.unit (String.ofList (trimBlank rest)))
  | overflow {digits rest : List Char} {u : Unit} (h : Leads cs digits rest)
      (hunit : u.Spells (trimBlank rest))
      (hlarge : 2 ^ 64 ≤ Nat.ofDigitChars 10 digits 0 * u.millis) : Applies cs .overflow

/-- The place of a fault in the order in which faults are looked for. -/
def Fault.rank : Fault → Nat
  | .empty => 0
  | .number _ => 1
  | .unit _ => 2
  | .overflow => 3

/-- The first of the faults that find a text wrong. -/
structure Fault.IsFirst (cs : List Char) (f : Fault) : Prop where
  applies : f.Applies cs
  rank_le : ∀ g : Fault, g.Applies cs → f.rank ≤ g.rank

/-! ## Units -/

theorem Unit.ofSymbol?_eq_some_iff {cs : List Char} {u : Unit} :
    ofSymbol? cs = some u ↔ u.Spells cs := by
  constructor
  · intro h
    unfold ofSymbol? at h
    split at h
    · obtain rfl := Option.some_inj.mp h
      exact .symbol .milli
    · obtain rfl := Option.some_inj.mp h
      exact .bare
    · obtain rfl := Option.some_inj.mp h
      exact .symbol .second
    · obtain rfl := Option.some_inj.mp h
      exact .symbol .minute
    · obtain rfl := Option.some_inj.mp h
      exact .symbol .hour
    · cases h
  · intro h
    cases h with
    | symbol => exact ofSymbol?_symbol u
    | bare => rfl

theorem Unit.millis_pos (u : Unit) : 0 < u.millis := by
  cases u <;> decide

namespace Unit.Spells

variable {u : Unit} {symbol : List Char}

/-- A spelling is letters of units. -/
theorem isLetter (h : u.Spells symbol) : ∀ c ∈ symbol, c ∈ ['m', 's', 'h'] := by
  cases h with
  | symbol =>
    have hall : u.symbol.toList.all ['m', 's', 'h'].contains = true := by cases u <;> decide
    exact fun c hc => List.contains_iff_mem.mp (List.all_eq_true.mp hall c hc)
  | bare => exact fun c hc => absurd hc List.not_mem_nil

theorem isBlank_eq_false (h : u.Spells symbol) : ∀ c ∈ symbol, isBlank c = false := by
  intro c hc
  have hletter := h.isLetter c hc
  simp only [List.mem_cons, List.not_mem_nil, or_false] at hletter
  rcases hletter with rfl | rfl | rfl <;> rfl

theorem isDigit_eq_false (h : u.Spells symbol) : ∀ c ∈ symbol, isDigit c = false := by
  intro c hc
  have hletter := h.isLetter c hc
  simp only [List.mem_cons, List.not_mem_nil, or_false] at hletter
  rcases hletter with rfl | rfl | rfl <;> rfl

end Unit.Spells

theorem isDigit_of_isBlank {c : Char} (h : isBlank c = true) : isDigit c = false := by
  rw [← Bool.not_eq_true, Text.isDigit_iff]
  rintro ⟨hlow, hhigh⟩
  simp only [isBlank, Bool.or_eq_true, Bool.and_eq_true, decide_eq_true_eq, beq_iff_eq] at h
  omega

theorem isBlank_of_isDigit {c : Char} (h : isDigit c = true) : isBlank c = false := by
  rw [← Bool.not_eq_true]
  intro hblank
  rw [isDigit_of_isBlank hblank] at h
  cases h

/-! ## Digits in front -/

namespace Leads

variable {cs digits rest digits' rest' : List Char}

theorem takeWhile_eq (h : Leads cs digits rest) : cs.takeWhile isDigit = digits := by
  rw [h.eq, List.takeWhile_append_of_pos h.all]
  have hstop : rest.takeWhile isDigit = [] := by
    cases rest with
    | nil => rfl
    | cons c rest => exact List.takeWhile_cons_of_neg (by rw [h.stops c rfl]; exact Bool.false_ne_true)
  rw [hstop, List.append_nil]

theorem dropWhile_eq (h : Leads cs digits rest) : cs.dropWhile isDigit = rest := by
  have hsplit : cs.takeWhile isDigit ++ cs.dropWhile isDigit = digits ++ rest :=
    List.takeWhile_append_dropWhile.trans h.eq
  rw [h.takeWhile_eq] at hsplit
  exact List.append_cancel_left hsplit

theorem unique (h : Leads cs digits rest) (h' : Leads cs digits' rest') :
    digits' = digits ∧ rest' = rest :=
  ⟨h'.takeWhile_eq.symm.trans h.takeWhile_eq, h'.dropWhile_eq.symm.trans h.dropWhile_eq⟩

end Leads

theorem leads_self (cs : List Char) : Leads cs (cs.takeWhile isDigit) (cs.dropWhile isDigit) where
  eq := List.takeWhile_append_dropWhile.symm
  all := fun c hc => List.all_eq_true.mp List.all_takeWhile c hc
  stops := by
    intro c hc
    have h := List.head?_dropWhile_not isDigit cs
    rw [Option.mem_def.mp hc] at h
    simpa using h

/-! ## Refusals -/

section Reading

variable {cs digits rest : List Char}

/-- Of two faults that find a text wrong at the same place, each is the other. -/
theorem Fault.Applies.eq_of_rank {f g : Fault} (hf : f.Applies cs) (hg : g.Applies cs)
    (hrank : f.rank = g.rank) : f = g := by
  cases hf with
  | empty =>
    cases hg with
    | empty => rfl
    | _ => cases hrank
  | noDigits h =>
    cases hg with
    | noDigits => rfl
    | tooLarge h' hlarge =>
      obtain ⟨rfl, -⟩ := h.unique h'
      exact absurd hlarge (by decide)
    | _ => cases hrank
  | tooLarge h hlarge =>
    cases hg with
    | noDigits h' =>
      obtain ⟨rfl, -⟩ := h.unique h'
      exact absurd hlarge (by decide)
    | tooLarge => rfl
    | _ => cases hrank
  | unit h =>
    cases hg with
    | unit h' =>
      obtain ⟨-, rfl⟩ := h.unique h'
      rfl
    | _ => cases hrank
  | overflow =>
    cases hg with
    | overflow => rfl
    | _ => cases hrank

/-- What is made of a text that is not empty, from the digits in front of it. -/
theorem readTrimmed_of_leads (h : Leads cs digits rest) (hne : cs ≠ []) :
    readTrimmed cs
      = match Text.readNatural maxWord64 digits with
        | .error cause => .error (.number cause)
        | .ok n =>
          match Unit.ofSymbol? (trimBlank rest) with
          | none => .error (.unit (String.ofList (trimBlank rest)))
          | some u =>
            if maxWord64 < n * u.millis then .error .overflow else .ok (ofMillis (n * u.millis)) := by
  have hsome : ¬ cs.isEmpty = true := by rwa [List.isEmpty_iff]
  obtain rfl := h.takeWhile_eq
  obtain rfl := h.dropWhile_eq
  exact if_neg hsome

/-! The faults that a text is found to be without leave the later ones. -/

theorem one_le_rank (hne : cs ≠ []) {g : Fault} (hg : g.Applies cs) : 1 ≤ g.rank := by
  cases hg with
  | empty h => exact absurd h hne
  | noDigits => exact Nat.le_refl _
  | tooLarge => exact Nat.le_refl _
  | unit => exact Nat.le_succ _
  | overflow => exact Nat.le_of_ble_eq_true rfl

theorem two_le_rank (hlead : Leads cs digits rest) (hne : cs ≠ []) (hdigits : digits ≠ [])
    (hword : Nat.ofDigitChars 10 digits 0 < 2 ^ 64) {g : Fault} (hg : g.Applies cs) :
    2 ≤ g.rank := by
  cases hg with
  | empty h => exact absurd h hne
  | noDigits h => exact absurd (hlead.unique h).1.symm hdigits
  | tooLarge h hlarge =>
    obtain ⟨rfl, -⟩ := hlead.unique h
    exact absurd hword (Nat.not_lt_of_le hlarge)
  | unit => exact Nat.le_refl _
  | overflow => exact Nat.le_succ _

theorem three_le_rank (hlead : Leads cs digits rest) (hne : cs ≠ []) (hdigits : digits ≠ [])
    (hword : Nat.ofDigitChars 10 digits 0 < 2 ^ 64) {u : Unit} (hunit : u.Spells (trimBlank rest))
    {g : Fault} (hg : g.Applies cs) : 3 ≤ g.rank := by
  have htwo := two_le_rank hlead hne hdigits hword hg
  cases hg with
  | unit h hnone =>
    obtain ⟨-, rfl⟩ := hlead.unique h
    exact absurd hunit (hnone u)
  | overflow => exact Nat.le_refl _
  | empty => exact absurd htwo (by decide)
  | noDigits => exact absurd htwo (by decide)
  | tooLarge => exact absurd htwo (by decide)

/-- A text counts so many units. -/
structure Counts (cs digits rest : List Char) (n : Nat) (u : Unit) : Prop where
  leads : Leads cs digits rest
  isNumeral : Text.IsNumeral digits n
  spells : u.Spells (trimBlank rest)
  word : n < 2 ^ 64
  fits : n * u.millis < 2 ^ 64

namespace Counts

variable {n : Nat} {u : Unit}

theorem ne_nil (h : Counts cs digits rest n u) : cs ≠ [] := by
  rw [h.leads.eq]
  exact List.append_ne_nil_of_left_ne_nil h.isNumeral.ne_nil _

/-- No fault finds a text wrong that counts units. -/
theorem not_applies (h : Counts cs digits rest n u) (f : Fault) : ¬ f.Applies cs := by
  intro hf
  have hrank := three_le_rank h.leads h.ne_nil h.isNumeral.ne_nil
    (by rw [h.isNumeral.value]; exact h.word) h.spells hf
  cases hf with
  | overflow h' hunit hlarge =>
    obtain ⟨rfl, rfl⟩ := h.leads.unique h'
    have hsame := (Unit.ofSymbol?_eq_some_iff.mpr hunit).symm.trans
      (Unit.ofSymbol?_eq_some_iff.mpr h.spells)
    obtain rfl := Option.some_inj.mp hsame
    rw [h.isNumeral.value] at hlarge
    exact absurd h.fits (Nat.not_lt_of_le hlarge)
  | empty => exact absurd hrank (by decide)
  | noDigits => exact absurd hrank (by decide)
  | tooLarge => exact absurd hrank (by decide)
  | unit => exact absurd hrank (Nat.not_succ_le_self 2)

theorem readTrimmed_eq (h : Counts cs digits rest n u) :
    readTrimmed cs = .ok (ofMillis (n * u.millis)) := by
  have hword : n ≤ maxWord64 := Nat.le_of_lt_succ h.word
  rw [readTrimmed_of_leads h.leads h.ne_nil,
    Text.readNatural_of_isDigit h.isNumeral.ne_nil h.leads.all, h.isNumeral.value, if_pos hword]
  dsimp only
  rw [Unit.ofSymbol?_eq_some_iff.mpr h.spells]
  exact if_neg (Nat.not_lt_of_le (Nat.le_of_lt_succ h.fits))

end Counts

/-- A text is refused for the first fault that finds it wrong, or it counts units. -/
theorem readTrimmed_spec (cs : List Char) :
    (∃ f, readTrimmed cs = .error f ∧ f.IsFirst cs) ∨
    ∃ digits rest n u, Counts cs digits rest n u := by
  have hlead := leads_self cs
  generalize cs.takeWhile isDigit = digits, cs.dropWhile isDigit = rest at hlead
  by_cases hne : cs = []
  · exact .inl ⟨.empty, by rw [hne]; rfl, .empty hne, fun g _ => Nat.zero_le _⟩
  have hread := readTrimmed_of_leads hlead hne
  by_cases hdigits : digits = []
  · subst hdigits
    exact .inl ⟨.number .empty, hread, .noDigits hlead, fun g hg => one_le_rank hne hg⟩
  rw [Text.readNatural_of_isDigit hdigits hlead.all] at hread
  by_cases hword : Nat.ofDigitChars 10 digits 0 ≤ maxWord64
  · rw [if_pos hword] at hread
    replace hword : Nat.ofDigitChars 10 digits 0 < 2 ^ 64 := Nat.lt_succ_of_le hword
    cases hunit : Unit.ofSymbol? (trimBlank rest) with
    | none =>
      rw [hunit] at hread
      refine .inl ⟨_, hread, .unit hlead fun u hu => ?_,
        fun g hg => two_le_rank hlead hne hdigits hword hg⟩
      rw [Unit.ofSymbol?_eq_some_iff.mpr hu] at hunit
      cases hunit
    | some u =>
      rw [hunit] at hread
      have hspells := Unit.ofSymbol?_eq_some_iff.mp hunit
      by_cases hover : maxWord64 < Nat.ofDigitChars 10 digits 0 * u.millis
      · exact .inl ⟨.overflow, hread.trans (if_pos hover), .overflow hlead hspells hover,
          fun g hg => three_le_rank hlead hne hdigits hword hspells hg⟩
      · exact .inr ⟨digits, rest, _, u, hlead, ⟨hdigits, hlead.all, rfl⟩, hspells, hword,
          Nat.lt_succ_of_le (Nat.le_of_not_lt hover)⟩
  · -- no number that large is read
    rw [if_neg hword] at hread
    exact .inl ⟨.number .tooLarge, hread, .tooLarge hlead (Nat.lt_of_not_le hword),
      fun g hg => one_le_rank hne hg⟩

theorem readTrimmed_eq_error_iff {f : Fault} :
    readTrimmed cs = .error f ↔ f.IsFirst cs := by
  obtain ⟨g, hread, hfirst⟩ | ⟨digits, rest, n, u, hcounts⟩ := readTrimmed_spec cs
  · rw [hread, Except.error.injEq]
    constructor
    · rintro rfl
      exact hfirst
    · intro h
      exact hfirst.applies.eq_of_rank h.applies
        (Nat.le_antisymm (hfirst.rank_le _ h.applies) (h.rank_le _ hfirst.applies))
  · rw [hcounts.readTrimmed_eq]
    constructor
    · intro h
      cases h
    · exact fun h => absurd h.applies (hcounts.not_applies f)

/-! ## What is accepted -/

theorem Writes.counts {n : Nat} {u : Unit} (h : Writes cs n u) (hword : n < 2 ^ 64)
    (hfits : n * u.millis < 2 ^ 64) : ∃ digits rest, Counts cs digits rest n u := by
  obtain ⟨digits, gap, symbol, rfl, hnumeral, hgap, hspells⟩ := h
  refine ⟨digits, gap ++ symbol, ⟨List.append_assoc .., hnumeral.isDigit, ?_⟩, hnumeral, ?_, hword,
    hfits⟩
  · intro c hc
    rcases List.mem_append.mp (List.mem_of_head? hc) with hc | hc
    · exact isDigit_of_isBlank (hgap c hc)
    · exact hspells.isDigit_eq_false c hc
  · rw [trimBlank, Text.dropBlank_append hgap,
      Text.dropBlank_eq_self fun c hc => hspells.isBlank_eq_false c (List.mem_of_head? hc),
      Text.dropBlankEnd_eq_self fun c hc => hspells.isBlank_eq_false c (List.mem_of_getLast? hc)]
    exact hspells

/-- Where no blank stands at the end, all that is left after blanks in front is the unit. -/
theorem Counts.writes {n : Nat} {u : Unit} (h : Counts cs digits rest n u)
    (hend : ∀ c ∈ cs.getLast?, isBlank c = false) : Writes cs n u := by
  have hrest : trimBlank rest = Text.dropBlank rest := by
    refine Text.dropBlankEnd_eq_self fun c hc => hend c ?_
    obtain ⟨front, hfront⟩ : Text.dropBlank rest <:+ cs :=
      (Text.dropBlank_suffix rest).trans ⟨digits, h.leads.eq.symm⟩
    rw [← hfront, List.getLast?_append, Option.mem_def.mp hc]
    rfl
  refine ⟨digits, rest.takeWhile isBlank, trimBlank rest, ?_, h.isNumeral,
    fun c hc => List.all_eq_true.mp List.all_takeWhile c hc, h.spells⟩
  rw [List.append_assoc, hrest, Text.dropBlank, List.takeWhile_append_dropWhile]
  exact h.leads.eq

theorem readTrimmed_eq_ok_iff {d : Duration} (hend : ∀ c ∈ cs.getLast?, isBlank c = false) :
    readTrimmed cs = .ok d ↔ ∃ n u, Writes cs n u ∧ n < 2 ^ 64 ∧ n * u.millis < 2 ^ 64 ∧
      d = ofMillis (n * u.millis) := by
  constructor
  · intro h
    obtain ⟨f, hread, -⟩ | ⟨digits, rest, n, u, hcounts⟩ := readTrimmed_spec cs
    · rw [hread] at h
      cases h
    · rw [hcounts.readTrimmed_eq] at h
      exact ⟨n, u, hcounts.writes hend, hcounts.word, hcounts.fits, (Except.ok.inj h).symm⟩
  · rintro ⟨n, u, hwrites, hword, hfits, rfl⟩
    obtain ⟨digits, rest, hcounts⟩ := hwrites.counts hword hfits
    exact hcounts.readTrimmed_eq

/-! ## Writing, and zeros in front -/

theorem writes_write (n : Nat) (u : Unit) : Writes (write n u).toList n u := by
  refine ⟨Nat.toDigits 10 n, [], u.symbol.toList, ?_, Text.isNumeral_toDigits n,
    fun c hc => absurd hc List.not_mem_nil, .symbol u⟩
  rw [write, String.toList_append, Nat.toString_eq_ofList_toDigits, String.toList_ofList,
    List.append_nil]

/-- What is written is digits, blanks and letters of units. -/
theorem Writes.mem {n : Nat} {u : Unit} (h : Writes cs n u) {c : Char} (hc : c ∈ cs) :
    isDigit c = true ∨ isBlank c = true ∨ c ∈ ['m', 's', 'h'] := by
  obtain ⟨digits, gap, symbol, rfl, hnumeral, hgap, hspells⟩ := h
  rcases List.mem_append.mp hc with hc | hc
  · rcases List.mem_append.mp hc with hc | hc
    · exact .inl (hnumeral.isDigit c hc)
    · exact .inr (.inl (hgap c hc))
  · exact .inr (.inr (hspells.isLetter c hc))

/-- Text without blanks at its ends stays as it is. -/
theorem trimBlank_write (n : Nat) (u : Unit) : trimBlank (write n u).toList = (write n u).toList := by
  have hplain : ∀ c ∈ (write n u).toList, isBlank c = false := by
    intro c hc
    rw [write, String.toList_append, Nat.toString_eq_ofList_toDigits, String.toList_ofList] at hc
    rcases List.mem_append.mp hc with hc | hc
    · exact isBlank_of_isDigit ((Text.isNumeral_toDigits n).isDigit c hc)
    · exact (Unit.Spells.symbol u).isBlank_eq_false c hc
  rw [trimBlank, Text.dropBlank_eq_self fun c hc => hplain c (List.mem_of_head? hc),
    Text.dropBlankEnd_eq_self fun c hc => hplain c (List.mem_of_getLast? hc)]

/-- Zeros in front of a digit change nothing. -/
theorem readTrimmed_zeros (k : Nat) {c : Char} (hc : isDigit c = true) (cs : List Char) :
    readTrimmed (List.replicate k '0' ++ c :: cs) = readTrimmed (c :: cs) := by
  have hlead := leads_self (c :: cs)
  have hdigits : (c :: cs).takeWhile isDigit ≠ [] := by
    rw [List.takeWhile_cons_of_pos hc]
    exact List.cons_ne_nil _ _
  generalize (c :: cs).takeWhile isDigit = digits, (c :: cs).dropWhile isDigit = rest
    at hlead hdigits
  have hzeros : ∀ d ∈ List.replicate k '0' ++ digits, isDigit d = true := by
    intro d hd
    rcases List.mem_append.mp hd with hd | hd
    · rw [List.eq_of_mem_replicate hd]
      rfl
    · exact hlead.all d hd
  have hlead' : Leads (List.replicate k '0' ++ c :: cs) (List.replicate k '0' ++ digits) rest :=
    ⟨by rw [hlead.eq, List.append_assoc], hzeros, hlead.stops⟩
  rw [readTrimmed_of_leads hlead (List.cons_ne_nil _ _),
    readTrimmed_of_leads hlead' (List.append_ne_nil_of_right_ne_nil _ (List.cons_ne_nil _ _)),
    Text.readNatural_of_isDigit hdigits hlead.all,
    Text.readNatural_of_isDigit (List.append_ne_nil_of_right_ne_nil _ hdigits) hzeros,
    Nat.ofDigitChars_append, Nat.ofDigitChars_replicate_zero, Nat.mul_zero]

/-- The same with blanks at the end, which are taken off. -/
theorem read_zeros (k : Nat) {s : String} {c : Char} (hc : s.toList.head? = some c)
    (hdigit : isDigit c = true) : read (String.ofList (List.replicate k '0') ++ s) = read s := by
  obtain ⟨cs, hcs⟩ := List.head?_eq_some_iff.mp hc
  have hplain : isBlank c = false := isBlank_of_isDigit hdigit
  have hzeros : ∀ d ∈ List.replicate k '0', isBlank d = false := fun d hd =>
    List.eq_of_mem_replicate hd ▸ rfl
  have hhead : ∀ d ∈ (c :: cs).head?, isBlank d = false := fun d hd =>
    Option.some_inj.mp hd ▸ hplain
  have hfront : ∀ d ∈ (List.replicate k '0' ++ c :: cs).head?, isBlank d = false := by
    cases k with
    | zero => exact hhead
    | succ k => exact fun d hd => Option.some_inj.mp hd ▸ rfl
  rw [read, read, String.toList_append, String.toList_ofList, hcs, trimBlank, trimBlank,
    Text.dropBlank_eq_self hfront, Text.dropBlank_eq_self hhead,
    Text.dropBlankEnd_append hzeros, Text.dropBlankEnd_cons hplain, readTrimmed_zeros k hdigit]

end Reading

/-! ## The reader -/

/-- **The reader accepts exactly the grammar**: blanks apart, a text is accepted if it is digits,
blanks and a spelling of a unit, and both the number and its milliseconds are below 2^64. It denotes
just these milliseconds. Any other text is refused for the first fault that it has. -/
theorem read_grammar :
    (∀ s d, read s = .ok d ↔ ∃ n u, Writes (trimBlank s.toList) n u ∧ n < 2 ^ 64 ∧
      n * u.millis < 2 ^ 64 ∧ d = ofMillis (n * u.millis)) ∧
    (∀ s f, read s = .error f ↔ f.IsFirst (trimBlank s.toList)) ∧
    (∀ k s, (∃ c, s.toList.head? = some c ∧ isDigit c = true) →
      read (String.ofList (List.replicate k '0') ++ s) = read s) ∧
    (∀ s d, read s = .ok d →
      ∀ c ∈ s.toList, isDigit c = true ∨ isBlank c = true ∨ c ∈ ['m', 's', 'h']) ∧
    ∀ n u, n * u.millis < 2 ^ 64 → read (write n u) = .ok (ofMillis (n * u.millis)) := by
  have haccepts (s : String) (d : Duration) := readTrimmed_eq_ok_iff (d := d)
    (Text.getLast?_trimBlank s.toList)
  refine ⟨haccepts, fun s f => readTrimmed_eq_error_iff,
    fun k s ⟨c, hc, hdigit⟩ => read_zeros k hc hdigit, ?_, ?_⟩
  · intro s d h c hc
    obtain ⟨n, u, hwrites, -⟩ := (haccepts s d).mp h
    rcases Text.isBlank_or_mem_trimBlank hc with hblank | hmem
    · exact .inr (.inl hblank)
    · exact hwrites.mem hmem
  · intro n u hfits
    have hword : n < 2 ^ 64 := Nat.lt_of_le_of_lt (Nat.le_mul_of_pos_right n u.millis_pos) hfits
    refine (haccepts _ _).mpr ⟨n, u, ?_, hword, hfits, rfl⟩
    rw [trimBlank_write]
    exact writes_write n u

theorem read_grammar_minutes :
    (∃ c, "7 m".toList.head? = some c ∧ isDigit c = true) ∧
      read (String.ofList (List.replicate 2 '0') ++ "7 m") = read "7 m" ∧
      read "7 m" = .ok (ofMillis (7 * 60000)) ∧
      90 * Unit.minute.millis < 2 ^ 64 ∧
      read (write 90 .minute) = .ok (ofMillis (90 * Unit.minute.millis)) := by
  obtain ⟨haccepts, -, hzeros, -, hwritten⟩ := read_grammar
  have hdigit : ∃ c, "7 m".toList.head? = some c ∧ isDigit c = true := ⟨'7', rfl, rfl⟩
  have hfits : 90 * Unit.minute.millis < 2 ^ 64 := by decide
  have hwrites : Writes (trimBlank "7 m".toList) 7 .minute :=
    ⟨['7'], [' '], ['m'], rfl, Text.isNumeral_toDigits 7,
      List.forall_mem_singleton.mpr rfl, .symbol .minute⟩
  exact ⟨hdigit, hzeros 2 _ hdigit,
    (haccepts _ _).mpr ⟨7, .minute, hwrites, by decide, by decide, rfl⟩, hfits, hwritten _ _ hfits⟩

end Switchboard.Duration
