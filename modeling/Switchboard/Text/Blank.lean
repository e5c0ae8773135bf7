/-!
# Blank characters

White space as Unicode's `White_Space` property counts it, and the text that is left when it is
taken off both ends. The class is wider than core's `Char.isWhitespace`, which stops at ASCII.

* `isBlank` — the property, as a table of code points.
* `trimBlank` — a list of characters without blanks at its ends.
* `trimmed` — the same for a `String`.
-/

namespace Switchboard.Text

/-- A character is blank if it has Unicode's `White_Space` property. -/
def isBlank (c : Char) : Bool :=
  let n := c.toNat
  (9 ≤ n && n ≤ 13) || n == 0x20 || n == 0x85 || n == 0xA0 || n == 0x1680
    || (0x2000 ≤ n && n ≤ 0x200A) || n == 0x2028 || n == 0x2029 || n == 0x202F
    || n == 0x205F || n == 0x3000

/-- The characters from the first that is not blank on. -/
def dropBlank (cs : List Char) : List Char := cs.dropWhile isBlank

/-- The characters up to the last that is not blank. -/
def dropBlankEnd (cs : List Char) : List Char := (dropBlank cs.reverse).reverse

/-- The characters between the first and the last that are not blank. -/
def trimBlank (cs : List Char) : List Char := dropBlankEnd (dropBlank cs)

/-- A text without the blanks at its two ends. -/
def trimmed (s : String) : String := String.ofList (trimBlank s.toList)

/-- A text is blank if every character of it is. -/
def isBlankText (s : String) : Bool := s.toList.all isBlank

/-- Trimming only ever drops characters at the front and at the end. -/
theorem dropBlank_suffix (cs : List Char) : dropBlank cs <:+ cs := List.dropWhile_suffix _

theorem dropBlank_append {ws : List Char} (h : ∀ c ∈ ws, isBlank c = true) (cs : List Char) :
    dropBlank (ws ++ cs) = dropBlank cs := List.dropWhile_append_of_pos h

theorem dropBlank_eq_self {cs : List Char} (h : ∀ c ∈ cs.head?, isBlank c = false) :
    dropBlank cs = cs := by
  cases cs with
  | nil => rfl
  | cons c cs => exact List.dropWhile_cons_of_neg (by rw [h c rfl]; exact Bool.false_ne_true)

/-- What is left starts with no blank. -/
theorem head?_dropBlank {cs : List Char} : ∀ c ∈ (dropBlank cs).head?, isBlank c = false := by
  intro c hc
  have h := List.head?_dropWhile_not isBlank cs
  rw [dropBlank] at hc
  rw [Option.mem_def.mp hc] at h
  simpa using h

theorem dropBlankEnd_eq_self {cs : List Char} (h : ∀ c ∈ cs.getLast?, isBlank c = false) :
    dropBlankEnd cs = cs := by
  rw [dropBlankEnd, dropBlank_eq_self, List.reverse_reverse]
  rwa [List.head?_reverse]

/-- What is left after trimming ends with no blank. -/
theorem getLast?_trimBlank (cs : List Char) :
    ∀ c ∈ (trimBlank cs).getLast?, isBlank c = false := by
  rw [trimBlank, dropBlankEnd, List.getLast?_reverse]
  exact head?_dropBlank

/-- Only blanks are dropped. -/
theorem isBlank_or_mem_dropBlank {cs : List Char} {c : Char} (h : c ∈ cs) :
    isBlank c = true ∨ c ∈ dropBlank cs := by
  rw [← List.takeWhile_append_dropWhile (p := isBlank) (l := cs), List.mem_append] at h
  exact h.imp_left fun hc => List.all_eq_true.mp List.all_takeWhile c hc

theorem isBlank_or_mem_trimBlank {cs : List Char} {c : Char} (h : c ∈ cs) :
    isBlank c = true ∨ c ∈ trimBlank cs := by
  rcases isBlank_or_mem_dropBlank h with hblank | hmem
  · exact .inl hblank
  · exact (isBlank_or_mem_dropBlank (List.mem_reverse.mpr hmem)).imp_right List.mem_reverse.mpr

theorem dropBlankEnd_cons {c : Char} (h : isBlank c = false) (cs : List Char) :
    dropBlankEnd (c :: cs) = c :: dropBlankEnd cs := by
  rw [dropBlankEnd, dropBlankEnd, List.reverse_cons, dropBlank, dropBlank, List.dropWhile_append]
  by_cases hempty : (cs.reverse.dropWhile isBlank).isEmpty = true
  · rw [if_pos hempty, List.isEmpty_iff.mp hempty,
      List.dropWhile_cons_of_neg (by rw [h]; exact Bool.false_ne_true)]
    rfl
  · rw [if_neg hempty, List.reverse_append]
    rfl

/-- At the end, blanks are dropped no further than to a character that is none. -/
theorem dropBlankEnd_append {front : List Char} (h : ∀ c ∈ front, isBlank c = false)
    (cs : List Char) : dropBlankEnd (front ++ cs) = front ++ dropBlankEnd cs := by
  induction front with
  | nil => rfl
  | cons c front ih =>
    rw [List.cons_append, dropBlankEnd_cons (h c List.mem_cons_self),
      ih fun d hd => h d (List.mem_cons_of_mem _ hd)]
    rfl

end Switchboard.Text
