import Switchboard.Proofs.Agent.Encoding
import Switchboard.Text.Blank
/-!
# Parts of a text

A text is cut at a separator into the parts between two of them. There is one way to do it, and as
long as the separator is an ASCII character, whose byte stands in no other character, it is the same
for the bytes of the text.

* `IsCut` — parts that a text is put together from; `isCut_splitOn`, `IsCut.eq_splitOn` — these are
  those of `List.splitOn`, and no others.
* `IsCut.utf8` — the bytes of the parts are the parts of the bytes.
* `IsTrimmed` — what is left of a part without the blanks around it; `isTrimmed_iff` — it is what
  `trimBlank` leaves.
-/

namespace Switchboard.Text

variable {α : Type} {sep : α} {text : List α} {parts : List (List α)}

/-- The text is cut into these parts at every separator. -/
structure IsCut (sep : α) (text : List α) (parts : List (List α)) : Prop where
  whole : [sep].intercalate parts = text
  some : parts ≠ []
  free : ∀ part ∈ parts, sep ∉ part

/-- Text that is one part is that part. -/
theorem IsCut.eq_singleton {part : List α} (h : IsCut sep text [part]) : part = text := by
  rw [← h.whole, List.intercalate_singleton]

variable [DecidableEq α]

/-- By induction on the text: its first character ends a part, or belongs to the first. -/
theorem not_mem_of_mem_splitOn {part : List α} (h : part ∈ text.splitOn sep) : sep ∉ part := by
  induction text generalizing part with
  | nil =>
    rw [List.splitOn_nil, List.mem_singleton] at h
    rw [h]
    exact List.not_mem_nil
  | cons c cs ih =>
    obtain ⟨first, rest, hsplit⟩ := List.exists_cons_of_ne_nil (List.splitOn_ne_nil sep cs)
    rw [List.splitOn_cons_eq_if_modifyHead, hsplit] at h
    rw [hsplit] at ih
    split at h
    · obtain rfl | hmem := List.mem_cons.mp h
      · exact List.not_mem_nil
      · exact ih hmem
    · rename_i hc
      obtain rfl | hmem := List.mem_cons.mp h
      · intro hsep
        obtain rfl | hsep := List.mem_cons.mp hsep
        · exact hc (beq_self_eq_true _)
        · exact ih List.mem_cons_self hsep
      · exact ih (List.mem_cons_of_mem _ hmem)

theorem isCut_splitOn (sep : α) (text : List α) : IsCut sep text (text.splitOn sep) where
  whole := List.intercalate_splitOn sep
  some := List.splitOn_ne_nil sep text
  free := fun _ h => not_mem_of_mem_splitOn h

/-- There are no other parts than these. -/
theorem IsCut.eq_splitOn (h : IsCut sep text parts) : text.splitOn sep = parts := by
  rw [← h.whole]
  exact List.splitOn_intercalate sep h.free h.some

/-! ## The bytes of the parts -/

theorem utf8EncodeChar_ascii {c : Char} (h : c.toNat < 128) :
    String.utf8EncodeChar c = [UInt8.ofNat c.toNat] := by
  rw [String.utf8EncodeChar]
  exact if_pos (Nat.le_of_lt_succ h)

/-- Every byte of a character beyond ASCII is beyond it too. -/
theorem le_of_mem_utf8EncodeChar {c : Char} (h : 128 ≤ c.toNat) :
    ∀ b ∈ String.utf8EncodeChar c, 128 ≤ b.toNat := by
  have hwide : ¬ c.val.toNat ≤ 127 := Nat.not_le_of_lt h
  simp only [String.utf8EncodeChar, if_neg hwide]
  split_ifs <;> simp only [List.mem_cons, forall_eq_or_imp, List.not_mem_nil, false_implies,
    implies_true, and_true, UInt8.toNat_ofNat'] <;> omega

/-- So an ASCII byte stands for its character and for no other. -/
theorem eq_of_mem_utf8EncodeChar {c d : Char} (hc : c.toNat < 128)
    (h : UInt8.ofNat c.toNat ∈ String.utf8EncodeChar d) : d = c := by
  have hbyte : (UInt8.ofNat c.toNat).toNat = c.toNat := by
    rw [UInt8.toNat_ofNat']
    omega
  have hd : d.toNat < 128 := by
    by_contra hwide
    have hle := le_of_mem_utf8EncodeChar (Nat.le_of_not_lt hwide) _ h
    omega
  rw [utf8EncodeChar_ascii hd, List.mem_singleton] at h
  have hnat := congrArg UInt8.toNat h
  rw [hbyte, UInt8.toNat_ofNat', Nat.mod_eq_of_lt (by omega)] at hnat
  exact Char.toNat_inj.mp hnat.symm

theorem utf8_intercalate (sep : Char) (parts : List (List Char)) :
    utf8 ([sep].intercalate parts) = (String.utf8EncodeChar sep).intercalate (parts.map utf8) := by
  induction parts with
  | nil => rfl
  | cons part rest ih =>
    cases rest with
    | nil => rw [List.intercalate_singleton, List.map_singleton, List.intercalate_singleton]
    | cons next rest =>
      rw [List.map_cons] at ih
      rw [List.intercalate_cons_cons, List.map_cons, List.map_cons, List.intercalate_cons_cons,
        ← ih, utf8, List.flatMap_append, List.flatMap_append, List.flatMap_singleton]
      rfl

/-- The bytes of the parts are the parts of the bytes. -/
theorem IsCut.utf8 {sep : Char} {text : List Char} {parts : List (List Char)}
    (h : IsCut sep text parts) (hsep : sep.toNat < 128) :
    IsCut (UInt8.ofNat sep.toNat) (utf8 text) (parts.map utf8) where
  whole := by rw [← h.whole, utf8_intercalate, utf8EncodeChar_ascii hsep]
  some := fun hnil => h.some (List.map_eq_nil_iff.mp hnil)
  free := by
    intro bytes hbytes hb
    obtain ⟨part, hpart, rfl⟩ := List.mem_map.mp hbytes
    obtain ⟨c, hc, hbc⟩ := List.mem_flatMap.mp hb
    rw [eq_of_mem_utf8EncodeChar hsep hbc] at hc
    exact h.free part hpart hc

/-! ## Blanks around a part -/

/-- What is left of characters without the blanks around them. -/
structure IsTrimmed (cs core : List Char) : Prop where
  around : ∃ front back, cs = front ++ core ++ back ∧ (∀ c ∈ front, isBlank c = true) ∧
    ∀ c ∈ back, isBlank c = true
  first : ∀ c ∈ core.head?, isBlank c = false
  last : ∀ c ∈ core.getLast?, isBlank c = false

theorem dropBlank_of_blank {cs : List Char} (h : ∀ c ∈ cs, isBlank c = true) : dropBlank cs = [] := by
  have hall := dropBlank_append h []
  rwa [List.append_nil] at hall

/-- Characters begin with the blanks that are dropped. -/
theorem exists_dropBlank (cs : List Char) :
    ∃ front, cs = front ++ dropBlank cs ∧ ∀ c ∈ front, isBlank c = true :=
  ⟨cs.takeWhile isBlank, List.takeWhile_append_dropWhile.symm,
    fun c hc => List.all_eq_true.mp List.all_takeWhile c hc⟩

theorem exists_dropBlankEnd (cs : List Char) :
    ∃ back, cs = dropBlankEnd cs ++ back ∧ ∀ c ∈ back, isBlank c = true := by
  obtain ⟨back, hback, hblank⟩ := exists_dropBlank cs.reverse
  refine ⟨back.reverse, ?_, fun c hc => hblank c (List.mem_reverse.mp hc)⟩
  rw [dropBlankEnd, ← List.reverse_append, ← hback, List.reverse_reverse]

theorem dropBlankEnd_append_of_blank {core back : List Char} (hback : ∀ c ∈ back, isBlank c = true)
    (hlast : ∀ c ∈ core.getLast?, isBlank c = false) : dropBlankEnd (core ++ back) = core := by
  rw [dropBlankEnd, List.reverse_append,
    dropBlank_append fun c hc => hback c (List.mem_reverse.mp hc), ← dropBlankEnd]
  exact dropBlankEnd_eq_self hlast

/-- Trimming leaves what is left without the blanks around it, and nothing else is. -/
theorem isTrimmed_iff {cs core : List Char} : IsTrimmed cs core ↔ trimBlank cs = core := by
  constructor
  · rintro ⟨⟨front, back, rfl, hfront, hback⟩, hfirst, hlast⟩
    rw [trimBlank, List.append_assoc, dropBlank_append hfront]
    cases core with
    | nil => rw [List.nil_append, dropBlank_of_blank hback]; rfl
    | cons c rest =>
      have hkept : dropBlank (c :: rest ++ back) = c :: rest ++ back := dropBlank_eq_self hfirst
      rw [hkept, dropBlankEnd_append_of_blank hback hlast]
  · rintro rfl
    obtain ⟨front, hfront, hblank⟩ := exists_dropBlank cs
    obtain ⟨back, hback, hblank'⟩ := exists_dropBlankEnd (dropBlank cs)
    refine ⟨⟨front, back, ?_, hblank, hblank'⟩, fun c hc => ?_, getLast?_trimBlank cs⟩
    · rw [List.append_assoc, trimBlank, ← hback]
      exact hfront
    · -- what is dropped at the end was not in front
      have hfront : c ∈ (dropBlank cs).head? := by
        rw [hback]
        exact List.mem_head?_append_of_mem_head? hc
      exact head?_dropBlank c hfront

end Switchboard.Text
