import Switchboard.Document.Yaml
import Switchboard.Proofs.Document.Json
/-!
# What plain scalars say

A plain scalar in YAML is looked at. Decimal digits say their number, if it has 64 bits; with a letter
behind them that ends in no number, they are just text.

* `plainValue_toDigits` — the digits of a number.
* `plainValue_withUnit` — the digits of a number with a unit behind them.
-/

namespace Switchboard.Document.Yaml

open Text (isDigit IsNumeral maxWord64)

section

variable {c : Char} {cs : List Char}

/-- What a plain scalar says that is none of the words that say something by themselves. -/
def numeralValue (s : String) : Scalar :=
  match baseNumeral? s.toList with
  | some value => value
  | none => (decimal? s.toList).getD (.text s)

/-- What begins with a digit is none of them. -/
theorem plainValue_of_isDigit (h : isDigit c = true) :
    plainValue (String.ofList (c :: cs)) = numeralValue (String.ofList (c :: cs)) := by
  have hne : ∀ w : String, w.toList.head?.any isDigit = false → String.ofList (c :: cs) ≠ w := by
    rintro _ hw rfl
    rw [String.toList_ofList] at hw
    exact Bool.false_ne_true (hw.symm.trans h)
  have hnothing : ¬ (decide (String.ofList (c :: cs) = "~") ||
      decide (String.ofList (c :: cs) = "null")) = true := by
    rw [decide_eq_false (hne "~" (by decide)), decide_eq_false (hne "null" (by decide))]
    exact Bool.false_ne_true
  rw [plainValue, if_neg hnothing, if_neg (hne "true" (by decide)), if_neg (hne "false" (by decide))]
  rfl

/-- Where no base stands in front, decimal digits count. -/
theorem numeralValue_of_baseNumeral? {s : String} (h : baseNumeral? s.toList = none) :
    numeralValue s = (decimal? s.toList).getD (.text s) := by
  rw [numeralValue, h]

theorem baseNumeral?_of_isDigit (h : isDigit c = true)
    (hzero : ∀ b rest, c = '0' → cs = b :: rest → baseOf? b = none) :
    baseNumeral? (c :: cs) = none := by
  have hplus : c ≠ '+' := by
    rintro rfl
    exact absurd h (by decide)
  have hminus : c ≠ '-' := by
    rintro rfl
    exact absurd h (by decide)
  unfold baseNumeral?
  dsimp only
  split
  · rename_i b rest heq
    obtain ⟨rfl, rfl⟩ := List.cons.inj heq
    rw [hzero b rest rfl rfl]
    rfl
  · rename_i heq
    exact absurd (List.cons.inj heq).1 hplus
  · rename_i heq
    exact absurd (List.cons.inj heq).1 hminus
  · rfl

theorem isPadded_of_isDigit (h : isDigit c = true)
    (hzero : ∀ d ds, c = '0' → cs = d :: ds → (d :: ds).all isDigit = false) :
    isPadded (c :: cs) = false := by
  have hafter : afterSigns (c :: cs) = c :: cs := by
    refine List.dropWhile_cons_of_neg ?_
    rw [Bool.or_eq_true, decide_eq_true_eq, decide_eq_true_eq]
    rintro (rfl | rfl) <;> exact absurd h (by decide)
  rw [isPadded, hafter]
  split
  · rename_i d ds heq
    obtain ⟨rfl, rfl⟩ := List.cons.inj heq
    exact hzero d ds rfl rfl
  · rfl

end

/-- The digits of a number say it, if it has 64 bits. -/
theorem plainValue_toDigits {n : Nat} (hn : n ≤ maxWord64) :
    plainValue (String.ofList (Nat.toDigits 10 n)) = .natural n := by
  have hnumeral := Text.isNumeral_toDigits n
  have hwhole := Json.isWhole_toDigits n
  have hread : Text.readNatural maxWord64 (Nat.toDigits 10 n) = .ok n := by
    rw [Text.readNatural_of_isDigit hnumeral.ne_nil hnumeral.isDigit, hnumeral.value, if_pos hn]
  obtain ⟨c, cs, hdigits⟩ := List.exists_cons_of_ne_nil hnumeral.ne_nil
  rw [hdigits] at hread hnumeral hwhole ⊢
  have hc := hnumeral.isDigit c List.mem_cons_self
  -- a zero in front stands alone
  have halone : ∀ d ds, c = '0' → cs = d :: ds → False := by
    rintro d ds rfl rfl
    exact List.cons_ne_nil _ _ (hwhole.alone _ rfl)
  have hbase := baseNumeral?_of_isDigit hc fun b rest hb hcs => (halone b rest hb hcs).elim
  have hpadded := isPadded_of_isDigit hc fun d ds hd hcs => (halone d ds hd hcs).elim
  rw [← String.toList_ofList (l := c :: cs)] at hbase hpadded hread
  rw [plainValue_of_isDigit hc, numeralValue_of_baseNumeral? hbase, decimal?, hpadded,
    if_neg Bool.false_ne_true, hread]
  rfl

/-- What begins with a digit and is more than digits is no number. -/
theorem decimal?_of_isDigit {c : Char} {cs : List Char} (h : isDigit c = true)
    (hnone : ∀ m, ¬ IsNumeral (c :: cs) m) : decimal? (c :: cs) = none := by
  have hsign : ∀ ds, c :: cs ≠ '+' :: ds ∧ c :: cs ≠ '-' :: ds := by
    intro ds
    constructor <;> (intro heq; rw [(List.cons.inj heq).1] at h; exact absurd h (by decide))
  have hdigits : ∃ fault, Text.readDigits 10 maxSigned64 .tooLarge (c :: cs) = .error fault := by
    cases hread : Text.readDigits 10 maxSigned64 .tooLarge (c :: cs) with
    | error fault => exact ⟨fault, rfl⟩
    | ok m => exact absurd (Text.readDigits_eq_ok_iff.mp hread).1 (hnone m)
  obtain ⟨fault, hfault⟩ := hdigits
  have hinteger : Text.readInteger (maxSigned64 + 1) maxSigned64 (c :: cs) = .error fault := by
    rw [Text.readInteger, Text.readIntegerIn, hfault]
    · rfl
    · exact List.cons_ne_nil _ _
    · exact fun ds => (hsign ds).2
    · exact fun ds => (hsign ds).1
  have hnatural : ∃ fault, Text.readNatural maxWord64 (c :: cs) = .error fault := by
    cases hread : Text.readNatural maxWord64 (c :: cs) with
    | error fault => exact ⟨fault, rfl⟩
    | ok m =>
      obtain ⟨ds, heq | heq, hds, -⟩ := Text.readNatural_eq_ok_iff.mp hread
      · exact absurd (heq ▸ hds) (hnone m)
      · exact absurd heq (hsign ds).1
  obtain ⟨fault', hnatural⟩ := hnatural
  rw [decimal?, hnatural]
  dsimp only
  rw [hinteger]
  exact ite_self none

/-- With the letter of a unit behind them, they are text. -/
theorem plainValue_withUnit (n : Nat) :
    plainValue (String.ofList (Nat.toDigits 10 n ++ ['s']))
      = .text (String.ofList (Nat.toDigits 10 n ++ ['s'])) := by
  have hnumeral := Text.isNumeral_toDigits n
  have hwhole := Json.isWhole_toDigits n
  have hnone : ∀ m, ¬ IsNumeral (Nat.toDigits 10 n ++ ['s']) m := fun m h =>
    absurd (h.isDigit 's' (List.mem_append_right _ List.mem_cons_self)) (by decide)
  obtain ⟨c, cs, hdigits⟩ := List.exists_cons_of_ne_nil hnumeral.ne_nil
  rw [hdigits] at hnumeral hwhole
  rw [hdigits, List.cons_append] at hnone ⊢
  have hc := hnumeral.isDigit c List.mem_cons_self
  -- behind a zero there is only the letter, which announces no base
  have hbase : baseNumeral? (c :: (cs ++ ['s'])) = none := by
    refine baseNumeral?_of_isDigit hc fun b rest hb hcs => ?_
    subst hb
    obtain rfl := hwhole.alone _ rfl
    obtain rfl := (List.cons.inj hcs).1
    rfl
  have hdecimal := decimal?_of_isDigit hc hnone
  rw [← String.toList_ofList (l := c :: (cs ++ ['s']))] at hbase hdecimal
  rw [plainValue_of_isDigit hc, numeralValue_of_baseNumeral? hbase, hdecimal]
  rfl

/-- A plain scalar that says something does not leave a value out. -/
theorem leafOf_plain {s : String} {value : Scalar} (h : plainValue s = value) (hvalue : value ≠ .nothing) :
    leafOf true none s = ⟨value, some s, false⟩ := by
  have hbare : (decide (s = "~") || decide (s = "null")) = false :=
    Bool.eq_false_iff.mpr fun hbare => hvalue (h.symm.trans (if_pos hbare))
  rw [leafOf, hbare, ← h]
  rfl

/-- A scalar between quotes is text, whatever it says. -/
theorem leafOf_quoted (s : String) : leafOf false none s = ⟨.text s, some s, false⟩ := rfl

end Switchboard.Document.Yaml
