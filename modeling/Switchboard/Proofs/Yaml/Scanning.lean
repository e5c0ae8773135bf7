import Switchboard.Yaml.Token
/-!
# One token of a YAML text

What the scanner does when it cuts off one more token, taken apart: blanks are passed over, keys whose
colon would come too late are given up, collections to the right are closed, and then the character
at the place decides.

* `Scanner.cut` — the token at a place where one begins; `next_eq` — the parts put together.
* `signs` — the characters that begin something else than a plain scalar; `cut_of_not_sign`.
* `dropKey_eq`, `dropStale_eq`, `saveKey_eq` — all that happens to keys happens to keys alone.
-/

namespace Switchboard.Yaml

/-- The characters that begin something else than a plain scalar, or a marker between documents. -/
def signs : List Char :=
  ['[', ']', '\x7b', '\x7d', ',', '-', '?', ':', '*', '&', '!', '|', '>', '\'', '"', '%', '@', '`', '.']

namespace Cursor

theorem isStart_eq_false {c : Cursor} (h : ∀ rest, c.rest ≠ '-' :: rest) : c.isStart = false := by
  unfold isStart
  split
  · rename_i hrest
    exact absurd hrest (h _)
  · exact Bool.and_false _

theorem isStop_eq_false {c : Cursor} (h : ∀ rest, c.rest ≠ '.' :: rest) : c.isStop = false := by
  unfold isStop
  split
  · rename_i hrest
    exact absurd hrest (h _)
  · exact Bool.and_false _

end Cursor

namespace Scanner

/-- The token that begins here, or the end of the text. -/
def cut (fuel : Nat) (s : Scanner) : Option (Bool × Scanner) := do
  match s.place.rest with
  | [] => return (false, ← (s.dedent 0).dropKey)
  | x :: rest =>
    if s.place.column == 0 && x = '%' then
      let s ← (s.dedent 0).dropKey
      let c ← readDirective fuel s.place.skip
      return (true, { s with keyAllowed := false, place := c }.push .directive)
    else if s.place.isStart then return (true, ← s.marker .start)
    else if s.place.isStop then return (true, ← s.marker .stop)
    else return (true, ← s.token fuel x rest)

theorem next_eq (fuel : Nat) (s : Scanner) : s.next fuel
    = (skipBlank fuel s).dropStale.bind fun s => (s.dedent (s.place.column + 1)).cut fuel := rfl

theorem cut_nil {s : Scanner} (h : s.place.rest = []) (fuel : Nat) :
    s.cut fuel = (s.dedent 0).dropKey.map (false, ·) := by
  rw [cut, h, Option.map_eq_bind]
  rfl

/-- Where no directive and no marker can stand, the token is one of those within a document. -/
theorem cut_eq_token {s : Scanner} {x : Char} {rest : List Char} (h : s.place.rest = x :: rest)
    (hx : x ∉ ['%', '-', '.']) (fuel : Nat) : s.cut fuel = (s.token fuel x rest).map (true, ·) := by
  simp only [List.mem_cons, List.not_mem_nil, or_false, not_or] at hx
  rw [cut, h]
  dsimp only
  rw [decide_eq_false hx.1, Bool.and_false, if_neg Bool.false_ne_true,
    Cursor.isStart_eq_false, Cursor.isStop_eq_false, if_neg Bool.false_ne_true,
    if_neg Bool.false_ne_true, Option.map_eq_bind]
  · rfl
  · intro more hmore
    exact hx.2.2 (List.cons.inj (h.symm.trans hmore)).1
  · intro more hmore
    exact hx.2.1 (List.cons.inj (h.symm.trans hmore)).1

/-- What begins with no sign is a plain scalar. -/
theorem cut_of_not_sign {s : Scanner} {x : Char} {rest : List Char} (h : s.place.rest = x :: rest)
    (hx : x ∉ signs) (fuel : Nat) : s.cut fuel = (s.plainScalar fuel).map (true, ·) := by
  have hsub : ['%', '-', '.'].all signs.contains = true := by decide
  have hmarks : x ∉ ['%', '-', '.'] := fun hmem =>
    hx (List.contains_iff_mem.mp (List.all_eq_true.mp hsub x hmem))
  rw [cut_eq_token h hmarks]
  simp only [signs, List.mem_cons, List.not_mem_nil, or_false, not_or] at hx
  simp only [token, hx, decide_false, Bool.false_and, Bool.or_self, Bool.false_eq_true, if_false]

/-! ## Keys -/

theorem dropKey_eq {s s' : Scanner} (h : s.dropKey = some s') : ∃ keys, s' = { s with keys } := by
  unfold dropKey at h
  split at h
  · cases h
    exact ⟨s.keys, rfl⟩
  · split at h
    · cases h
    · cases h
      exact ⟨_, rfl⟩

theorem dropStale_eq {s s' : Scanner} (h : s.dropStale = some s') : ∃ keys, s' = { s with keys } := by
  obtain ⟨keys, -, heq⟩ := Option.bind_eq_some_iff.mp h
  cases heq
  exact ⟨keys, rfl⟩

theorem saveKey_eq {s s' : Scanner} (h : s.saveKey = some s') : ∃ keys, s' = { s with keys } := by
  unfold saveKey at h
  split at h
  · obtain ⟨t, hdrop, heq⟩ := Option.bind_eq_some_iff.mp h
    obtain ⟨keys, rfl⟩ := dropKey_eq hdrop
    cases heq
    exact ⟨_, rfl⟩
  · cases h
    exact ⟨s.keys, rfl⟩

end Scanner

end Switchboard.Yaml
