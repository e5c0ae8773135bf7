import Switchboard.Proofs.Agent.Encoding
/-!
# Written bytes

A percent sign with two hexadecimal digits behind it is a byte for who reads a text in a URL, whoever
put it there. A text is read as it is if there is nothing like that in it, and otherwise what is read
is shorter.

* `writesByte` — is there a percent sign with two hexadecimal digits behind it?
* `bytes_induction` — how a text is read, piece by piece.
* `percentDecoded_or` — what is read of a text.
* `percentDecoded_encoded` — it does not matter what else in it is written as bytes.
-/

namespace Switchboard.Text

/-- Is the character a hexadecimal digit? -/
def isHexDigit (c : Char) : Bool := (digitValue? 16 c).isSome

/-- Does the text start with two hexadecimal digits? -/
def startsByte : List Char → Bool
  | a :: b :: _ => isHexDigit a && isHexDigit b
  | _ => false

/-- Is there a percent sign with two hexadecimal digits behind it? -/
def writesByte : List Char → Bool
  | [] => false
  | c :: rest => (c == '%' && startsByte rest) || writesByte rest

/-- A text is nothing, or it starts with a written byte, or with a character that is none. -/
@[elab_as_elim] theorem bytes_induction {motive : List Char → Prop} (nil : motive [])
    (byte : ∀ a b rest, isHexDigit a = true → isHexDigit b = true → motive rest →
      motive ('%' :: a :: b :: rest))
    (plain : ∀ c rest, (c = '%' → startsByte rest = false) → motive rest → motive (c :: rest))
    (cs : List Char) : motive cs := by
  induction cs using percentDecoded.induct with
  | case1 => exact nil
  | case2 a b rest y x hy hx ih =>
    exact byte a b rest (Option.isSome_of_eq_some hx) (Option.isSome_of_eq_some hy) ih
  | case3 a b rest h ih =>
    refine plain '%' (a :: b :: rest) (fun _ => ?_) ih
    rw [startsByte, Bool.and_eq_false_iff, isHexDigit, isHexDigit]
    cases ha : digitValue? 16 a with
    | none => exact .inl rfl
    | some x =>
      cases hb : digitValue? 16 b with
      | none => exact .inr rfl
      | some y => exact (h x y ha hb).elim
  | case4 c rest h ih =>
    refine plain c rest (fun hc => ?_) ih
    rcases rest with _ | ⟨a, _ | ⟨b, rest⟩⟩
    · rfl
    · rfl
    · exact (h a b rest hc rfl).elim

theorem percentDecoded_byte {a b : Char} (ha : isHexDigit a = true) (hb : isHexDigit b = true) :
    ∃ byte, ∀ rest, percentDecoded ('%' :: a :: b :: rest) = byte :: percentDecoded rest := by
  obtain ⟨x, hx⟩ := Option.isSome_iff_exists.mp ha
  obtain ⟨y, hy⟩ := Option.isSome_iff_exists.mp hb
  refine ⟨UInt8.ofNat (16 * x + y), fun rest => ?_⟩
  rw [percentDecoded, hx, hy]

theorem percentDecoded_plain {c : Char} {rest : List Char}
    (h : c = '%' → startsByte rest = false) :
    percentDecoded (c :: rest) = String.utf8EncodeChar c ++ percentDecoded rest := by
  by_cases hc : c = '%'
  · subst hc
    have h := h rfl
    rcases rest with _ | ⟨a, _ | ⟨b, rest⟩⟩
    · rfl
    · rfl
    · rw [startsByte, isHexDigit, isHexDigit] at h
      rw [percentDecoded]
      cases ha : digitValue? 16 a with
      | none => rfl
      | some x =>
        cases hb : digitValue? 16 b with
        | none => rfl
        | some y =>
          rw [ha, hb] at h
          exact absurd h.symm Bool.false_ne_true
  · exact percentDecoded_cons hc rest

/-- What a text says takes no more bytes than the text, and fewer if a byte is written in it. -/
theorem percentDecoded_or (cs : List Char) :
    (writesByte cs = false ∧ percentDecoded cs = utf8 cs) ∨
      (writesByte cs = true ∧ (percentDecoded cs).length < (utf8 cs).length) := by
  induction cs using bytes_induction with
  | nil => exact .inl ⟨rfl, rfl⟩
  | byte a b rest ha hb ih =>
    obtain ⟨byte, hbyte⟩ := percentDecoded_byte ha hb
    have hlong (c : Char) : 0 < (String.utf8EncodeChar c).length :=
      String.length_utf8EncodeChar c ▸ c.utf8Size_pos
    have hrest : (percentDecoded rest).length ≤ (utf8 rest).length :=
      ih.elim (fun h => Nat.le_of_eq (congrArg List.length h.2)) fun h => Nat.le_of_lt h.2
    have ha' := hlong a
    refine .inr ⟨?_, ?_⟩
    · rw [writesByte, startsByte, ha, hb]
      rfl
    · rw [hbyte, utf8, List.flatMap_cons, List.flatMap_cons, List.flatMap_cons, List.length_cons,
        List.length_append, List.length_append, List.length_append]
      have hmark := hlong '%'
      rw [utf8] at hrest
      omega
  | plain c rest h ih =>
    have hwrites : writesByte (c :: rest) = writesByte rest := by
      have hhead : (c == '%' && startsByte rest) = false := by
        rw [Bool.and_eq_false_imp]
        exact fun hc => h (eq_of_beq hc)
      rw [writesByte, hhead, Bool.false_or]
    rw [hwrites, percentDecoded_plain h, utf8, List.flatMap_cons]
    rcases ih with ⟨hnone, heq⟩ | ⟨hsome, hlt⟩
    · exact .inl ⟨hnone, by rw [heq, utf8]⟩
    · refine .inr ⟨hsome, ?_⟩
      rw [utf8] at hlt
      rw [List.length_append, List.length_append]
      omega

section Encoded

variable {isSpecial : Char → Bool}

theorem percentEncoded_cons_self {c : Char} (h : isSpecial c = false) (rest : List Char) :
    percentEncoded isSpecial (c :: rest) = c :: percentEncoded isSpecial rest := by
  rw [percentEncoded, List.flatMap_cons, if_neg (by rw [h]; exact Bool.false_ne_true)]
  rfl

/-- A character and what stands for it are both hexadecimal digits, or neither is. -/
theorem percentEncoded_cons (hdigit : ∀ c, isHexDigit c = true → isSpecial c = false) (c : Char)
    (rest : List Char) :
    ∃ d more, percentEncoded isSpecial (c :: rest) = d :: more ∧ isHexDigit d = isHexDigit c := by
  cases hc : isSpecial c with
  | false => exact ⟨c, _, percentEncoded_cons_self hc rest, rfl⟩
  | true =>
    obtain ⟨b, bytes, hbytes⟩ := List.exists_cons_of_ne_nil (List.length_pos_iff.mp
      (String.length_utf8EncodeChar c ▸ c.utf8Size_pos))
    have hnone : isHexDigit c = false := by
      by_contra hsome
      rw [hdigit c (Bool.of_not_eq_false hsome)] at hc
      exact absurd hc Bool.false_ne_true
    refine ⟨'%', upperHexDigit (b.toNat / 16) :: upperHexDigit (b.toNat % 16)
      :: (bytes.flatMap percentByte ++ percentEncoded isSpecial rest), ?_, hnone ▸ by decide⟩
    rw [percentEncoded, List.flatMap_cons, if_pos hc, hbytes]
    rfl

theorem startsByte_of_not {c : Char} (h : isHexDigit c = false) (rest : List Char) :
    startsByte (c :: rest) = false := by
  cases rest with
  | nil => rfl
  | cons d rest => rw [startsByte, h, Bool.false_and]

theorem startsByte_percentEncoded (hdigit : ∀ c, isHexDigit c = true → isSpecial c = false)
    (cs : List Char) : startsByte (percentEncoded isSpecial cs) = startsByte cs := by
  cases cs with
  | nil => rfl
  | cons a rest =>
    cases ha : isHexDigit a with
    | false =>
      obtain ⟨d, more, heq, hd⟩ := percentEncoded_cons hdigit a rest
      rw [heq, startsByte_of_not (hd.trans ha), startsByte_of_not ha]
    | true =>
      rw [percentEncoded_cons_self (hdigit a ha)]
      cases rest with
      | nil => rfl
      | cons b rest =>
        obtain ⟨d, more, heq, hd⟩ := percentEncoded_cons hdigit b rest
        rw [heq, startsByte, startsByte, hd]

/-- Writing some characters as bytes changes nothing for who reads it, if digits stand for
themselves and so does the percent sign. -/
theorem percentDecoded_encoded (hpercent : isSpecial '%' = false)
    (hdigit : ∀ c, isHexDigit c = true → isSpecial c = false) (cs : List Char) :
    percentDecoded (percentEncoded isSpecial cs) = percentDecoded cs := by
  induction cs using bytes_induction with
  | nil => rfl
  | byte a b rest ha hb ih =>
    obtain ⟨byte, hbyte⟩ := percentDecoded_byte ha hb
    rw [percentEncoded_cons_self hpercent, percentEncoded_cons_self (hdigit a ha),
      percentEncoded_cons_self (hdigit b hb), hbyte, hbyte, ih]
  | plain c rest h ih =>
    rw [percentDecoded_plain h]
    cases hc : isSpecial c with
    | false =>
      rw [percentEncoded_cons_self hc, percentDecoded_plain fun heq =>
        (startsByte_percentEncoded hdigit rest).trans (h heq), ih]
    | true =>
      rw [percentEncoded, List.flatMap_cons, if_pos hc, percentDecoded_percentBytes]
      exact congrArg _ ih

end Encoded

/-- Without a percent sign no byte is written. -/
theorem writesByte_of_not_mem {cs : List Char} (h : '%' ∉ cs) : writesByte cs = false := by
  induction cs with
  | nil => rfl
  | cons c cs ih =>
    have hc : (c == '%') = false := beq_eq_false_iff_ne.mpr fun heq => h (heq ▸ List.mem_cons_self)
    rw [writesByte, hc, Bool.false_and, Bool.false_or, ih fun hmem => h (List.mem_cons_of_mem c hmem)]

/-- A part of a text that takes as many bytes as all of it is all of it. -/
theorem eq_of_sublist_of_utf8 {a b : List Char} (h : a.Sublist b)
    (hle : (utf8 b).length ≤ (utf8 a).length) : a = b := by
  have hlong (c : Char) : 0 < (String.utf8EncodeChar c).length :=
    String.length_utf8EncodeChar c ▸ c.utf8Size_pos
  have hcons (c : Char) (l : List Char) :
      (utf8 (c :: l)).length = (String.utf8EncodeChar c).length + (utf8 l).length := by
    rw [utf8, List.flatMap_cons, List.length_append]
    rfl
  have hmono {a b : List Char} (h : a.Sublist b) : (utf8 a).length ≤ (utf8 b).length := by
    induction h with
    | slnil => exact Nat.le_refl _
    | cons c h ih => rw [hcons]; omega
    | cons_cons c h ih => rw [hcons, hcons]; omega
  induction h with
  | slnil => rfl
  | cons c h ih =>
    have hless := hmono h
    have hc := hlong c
    rw [hcons] at hle
    omega
  | cons_cons c h ih =>
    rw [hcons, hcons] at hle
    rw [ih (by omega)]

end Switchboard.Text

namespace Switchboard.Agent

open Text

theorem isSpecialInPath_of_isHexDigit {c : Char} (h : isHexDigit c = true) :
    Url.isSpecialInPath c = false := by
  have hsmall : c.toNat < 128 := by
    by_contra hlarge
    have hnone : digitValue? 16 c = none := by
      have hdigit : ¬c.toNat ≤ 57 := by omega
      have hlower : ¬c.toNat ≤ 122 := by omega
      have hupper : ¬c.toNat ≤ 90 := by omega
      simp [digitValue?, hdigit, hlower, hupper]
    rw [isHexDigit, hnone] at h
    exact absurd h Bool.false_ne_true
  have hall : ∀ n < 128, isHexDigit (Char.ofNat n) = true →
      Url.isSpecialInPath (Char.ofNat n) = false := by decide
  have hc := hall c.toNat hsmall
  rw [Char.ofNat_toNat] at hc
  exact hc h

/-- What a segment of a path says does not depend on what was encoded in it. -/
theorem percentDecoded_segment (cs : List Char) :
    percentDecoded (percentEncoded Url.isSpecialInPath cs) = percentDecoded cs :=
  percentDecoded_encoded (by decide) (fun _ => isSpecialInPath_of_isHexDigit) cs

end Switchboard.Agent
