/-!
# Sets of addresses

A set of addresses is kept as a strictly ascending list, in the order of the characters' code
points, so that two sets are equal exactly when their lists are.

* `insertAddress` — the set with one more address.
* `ascending` — the set of the addresses in a list, in any order and with any repetitions.
* `mem_ascending`, `pairwise_ascending` — the same members; strictly ascending.
* `ascending_congr` — the result depends on the members only.
-/

namespace Switchboard

/-- The ascending list with one more address; nothing changes if it is there already. -/
def insertAddress (a : String) : List String → List String
  | [] => [a]
  | b :: rest =>
    if a < b then a :: b :: rest
    else if a = b then b :: rest
    else b :: insertAddress a rest

/-- The distinct addresses of a list, in ascending order. -/
def ascending (addrs : List String) : List String := addrs.foldr insertAddress []

@[simp] theorem ascending_nil : ascending [] = [] := rfl

theorem mem_insertAddress {a x : String} {l : List String} :
    x ∈ insertAddress a l ↔ x = a ∨ x ∈ l := by
  induction l with
  | nil => simp [insertAddress]
  | cons b rest ih =>
    unfold insertAddress
    split
    · simp
    · split
      · rename_i _ h; subst h; simp
      · simp [ih, or_left_comm]

theorem mem_ascending {x : String} {l : List String} : x ∈ ascending l ↔ x ∈ l := by
  induction l with
  | nil => simp
  | cons b rest ih =>
    show x ∈ insertAddress b (ascending rest) ↔ _
    simp [mem_insertAddress, ih]

/-- Of two different addresses one comes before the other. -/
theorem lt_of_not_lt_of_ne {a b : String} (h : ¬ a < b) (hne : a ≠ b) : b < a := by
  by_cases h' : b < a
  · exact h'
  · exact absurd (String.le_antisymm (String.not_lt.1 h') (String.not_lt.1 h)) hne

theorem pairwise_insertAddress {a : String} {l : List String} (h : l.Pairwise (· < ·)) :
    (insertAddress a l).Pairwise (· < ·) := by
  induction l with
  | nil => simp [insertAddress]
  | cons b rest ih =>
    have hb := List.pairwise_cons.1 h
    unfold insertAddress
    split
    · rename_i hlt
      refine List.pairwise_cons.2 ⟨fun x hx => ?_, h⟩
      rcases List.mem_cons.1 hx with rfl | hx
      · exact hlt
      · exact String.lt_trans hlt (hb.1 x hx)
    · split
      · exact h
      · rename_i hlt hne
        refine List.pairwise_cons.2 ⟨fun x hx => ?_, ih hb.2⟩
        rcases mem_insertAddress.1 hx with rfl | hx
        · exact lt_of_not_lt_of_ne hlt hne
        · exact hb.1 x hx

/-- The list of a set is strictly ascending. -/
theorem pairwise_ascending (l : List String) : (ascending l).Pairwise (· < ·) := by
  induction l with
  | nil => simp
  | cons b rest ih => exact pairwise_insertAddress ih

/-- Two strictly ascending lists with the same members are the same list. -/
theorem eq_of_pairwise_of_mem_iff {l m : List String} (hl : l.Pairwise (· < ·))
    (hm : m.Pairwise (· < ·)) (h : ∀ x, x ∈ l ↔ x ∈ m) : l = m := by
  induction l generalizing m with
  | nil =>
    cases m with
    | nil => rfl
    | cons b rest => exact absurd ((h b).2 List.mem_cons_self) (by simp)
  | cons a l ih =>
    cases m with
    | nil => exact absurd ((h a).1 List.mem_cons_self) (by simp)
    | cons b m =>
      have ha := List.pairwise_cons.1 hl
      have hb := List.pairwise_cons.1 hm
      have hab : a = b := by
        rcases List.mem_cons.1 ((h a).1 List.mem_cons_self) with e | e
        · exact e
        · rcases List.mem_cons.1 ((h b).2 List.mem_cons_self) with e' | e'
          · exact e'.symm
          · exact absurd (String.lt_trans (ha.1 b e') (hb.1 a e)) (String.lt_irrefl a)
      subst hab
      congr 1
      refine ih ha.2 hb.2 fun x => ⟨fun hx => ?_, fun hx => ?_⟩
      · rcases List.mem_cons.1 ((h x).1 (List.mem_cons_of_mem _ hx)) with e | e
        · subst e; exact absurd (ha.1 x hx) (String.lt_irrefl x)
        · exact e
      · rcases List.mem_cons.1 ((h x).2 (List.mem_cons_of_mem _ hx)) with e | e
        · subst e; exact absurd (hb.1 x hx) (String.lt_irrefl x)
        · exact e

/-- The set of a list depends on its members only. -/
theorem ascending_congr {l m : List String} (h : ∀ x, x ∈ l ↔ x ∈ m) :
    ascending l = ascending m :=
  eq_of_pairwise_of_mem_iff (pairwise_ascending l) (pairwise_ascending m) fun x => by
    simp [mem_ascending, h]

/-- A strictly ascending list is its own set. -/
theorem ascending_of_pairwise {l : List String} (h : l.Pairwise (· < ·)) : ascending l = l :=
  eq_of_pairwise_of_mem_iff (pairwise_ascending l) h fun _ => mem_ascending

end Switchboard
