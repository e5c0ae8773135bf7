import Switchboard.Text.Numeral
/-!
# What numerals denote

The reader of numerals takes digits from the left and stops as soon as the range is left. Since a
number only grows with its digits, that is the same as reading all of them and looking at the range
then: digits denote the number that `Nat.ofDigitChars` makes of them.

* `IsNumeral` — decimal digits, and the number that they denote.
* `readNatural_of_isDigit` — what is made of digits, whether they are in the range or not.
* `readNatural_eq_ok_iff` — exactly what is accepted.
-/

namespace Switchboard.Text

/-! ## Digits -/

theorem isDigit_iff {c : Char} : isDigit c = true ↔ 48 ≤ c.toNat ∧ c.toNat ≤ 57 := by
  rw [isDigit, Bool.and_eq_true, decide_eq_true_eq, decide_eq_true_eq, Char.le_def, Char.le_def,
    UInt32.le_iff_toNat_le, UInt32.le_iff_toNat_le]
  rfl

/-- A digit has its value. -/
theorem digitValue?_of_isDigit {c : Char} (h : isDigit c = true) :
    digitValue? 10 c = some (c.toNat - '0'.toNat) := by
  have hrange := isDigit_iff.mp h
  simp only [digitValue?, if_pos hrange]
  exact if_pos (by omega)

theorem isDigit_of_digitValue? {c : Char} {d : Nat} (h : digitValue? 10 c = some d) :
    isDigit c = true := by
  rw [isDigit_iff]
  unfold digitValue? at h
  grind

/-- Decimal digits, at least one, that denote the number. -/
structure IsNumeral (ds : List Char) (n : Nat) : Prop where
  ne_nil : ds ≠ []
  isDigit : ∀ c ∈ ds, isDigit c = true
  value : Nat.ofDigitChars 10 ds 0 = n

/-- A number only grows with its digits. -/
theorem le_ofDigitChars (ds : List Char) (v : Nat) : v ≤ Nat.ofDigitChars 10 ds v := by
  induction ds generalizing v with
  | nil => exact Nat.le_refl v
  | cons c ds ih =>
    rw [Nat.ofDigitChars_cons]
    exact Nat.le_trans (by omega) (ih _)

/-! ## Reading digits -/

/-- Digits are read on to the number that they make, unless it leaves the range. -/
theorem readDigitsFrom_of_isDigit {limit v : Nat} {excess : NumeralFault} {ds : List Char}
    (hv : v ≤ limit) (h : ∀ c ∈ ds, isDigit c = true) :
    readDigitsFrom 10 limit excess v ds
      = if Nat.ofDigitChars 10 ds v ≤ limit then .ok (Nat.ofDigitChars 10 ds v)
        else .error excess := by
  induction ds generalizing v with
  | nil => exact (if_pos hv).symm
  | cons c ds ih =>
    rw [readDigitsFrom, digitValue?_of_isDigit (h c List.mem_cons_self), Nat.ofDigitChars_cons]
    show (if limit < 10 * v + (c.toNat - '0'.toNat) then _ else _) = _
    by_cases hlimit : limit < 10 * v + (c.toNat - '0'.toNat)
    · -- what has left the range stays outside
      have hle := le_ofDigitChars ds (10 * v + (c.toNat - '0'.toNat))
      rw [if_pos hlimit, if_neg (by omega)]
    · rw [if_neg hlimit, ih (by omega) fun c hc => h c (List.mem_cons_of_mem _ hc)]

/-- Nothing but digits is read. -/
theorem isDigit_of_readDigitsFrom {limit v n : Nat} {excess : NumeralFault} {ds : List Char}
    (h : readDigitsFrom 10 limit excess v ds = .ok n) : ∀ c ∈ ds, isDigit c = true := by
  induction ds generalizing v with
  | nil => exact fun c hc => absurd hc List.not_mem_nil
  | cons c ds ih =>
    rw [readDigitsFrom] at h
    split at h
    · cases h
    · rename_i d hd
      split at h
      · cases h
      · intro c' hc'
        rcases List.mem_cons.mp hc' with rfl | hc'
        · exact isDigit_of_digitValue? hd
        · exact ih h c' hc'

theorem readDigits_of_ne_nil {limit : Nat} {ds : List Char} (hne : ds ≠ []) :
    readDigits 10 limit .tooLarge ds = readDigitsFrom 10 limit .tooLarge 0 ds := by
  cases ds with
  | nil => exact absurd rfl hne
  | cons c ds => rfl

/-! ## Numerals -/

/-- Digits are a number, or too large. -/
theorem readNatural_of_isDigit {limit : Nat} {ds : List Char} (hne : ds ≠ [])
    (h : ∀ c ∈ ds, isDigit c = true) : readNatural limit ds
      = if Nat.ofDigitChars 10 ds 0 ≤ limit then .ok (Nat.ofDigitChars 10 ds 0)
        else .error .tooLarge := by
  rw [← readDigitsFrom_of_isDigit (Nat.zero_le limit) h]
  cases ds with
  | nil => exact absurd rfl hne
  | cons c ds =>
    have hc : c ≠ '+' := by
      rintro rfl
      exact absurd (h '+' List.mem_cons_self) (by decide)
    rw [readNatural, readNaturalIn]
    · rfl
    · exact List.cons_ne_nil _ _
    · exact fun rest heq => hc (List.cons.inj heq).1

theorem readDigits_eq_ok_iff {limit n : Nat} {cs : List Char} :
    readDigits 10 limit .tooLarge cs = .ok n ↔ IsNumeral cs n ∧ n ≤ limit := by
  cases cs with
  | nil =>
    constructor
    · intro h
      cases h
    · exact fun h => absurd rfl h.1.ne_nil
  | cons c ds =>
    rw [readDigits_of_ne_nil (List.cons_ne_nil _ _)]
    constructor
    · intro h
      have hdigits := isDigit_of_readDigitsFrom h
      rw [readDigitsFrom_of_isDigit (Nat.zero_le limit) hdigits] at h
      split at h
      · rename_i hle
        obtain rfl := Except.ok.inj h
        exact ⟨⟨List.cons_ne_nil _ _, hdigits, rfl⟩, hle⟩
      · cases h
    · rintro ⟨h, hle⟩
      rw [readDigitsFrom_of_isDigit (Nat.zero_le limit) h.isDigit, h.value, if_pos hle]

/-- **A natural number is read from decimal digits, with a plus sign in front or without**, if it
is in the range. -/
theorem readNatural_eq_ok_iff {limit n : Nat} {cs : List Char} :
    readNatural limit cs = .ok n
      ↔ ∃ ds, (cs = ds ∨ cs = '+' :: ds) ∧ IsNumeral ds n ∧ n ≤ limit := by
  unfold readNatural readNaturalIn
  split
  · constructor
    · intro h
      cases h
    · rintro ⟨ds, rfl | h, hds, -⟩
      · exact absurd rfl hds.ne_nil
      · cases h
  · rename_i rest
    rw [readDigits_eq_ok_iff]
    constructor
    · exact fun h => ⟨rest, .inr rfl, h⟩
    · rintro ⟨ds, rfl | h, hds⟩
      · exact absurd (hds.1.isDigit '+' List.mem_cons_self) (by decide)
      · obtain rfl := (List.cons.inj h).2
        exact hds
  · rename_i hplus
    rw [readDigits_eq_ok_iff]
    constructor
    · exact fun h => ⟨_, .inl rfl, h⟩
    · rintro ⟨ds, rfl | h, hds⟩
      · exact hds
      · exact absurd h (hplus ds)

/-- The decimal digits of a number denote it. -/
theorem isNumeral_toDigits (n : Nat) : IsNumeral (Nat.toDigits 10 n) n where
  ne_nil := Nat.toDigits_ne_nil
  isDigit _ hc := Nat.isDigit_of_mem_toDigits (by decide) (by decide) hc
  value := Nat.ofDigitChars_ten_toDigits

end Switchboard.Text
