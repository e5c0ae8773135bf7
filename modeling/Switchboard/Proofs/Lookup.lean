import Mathlib.Data.List.Nodup
/-!
# Looking up entries

Lists of keys and entries, looked up by key.

* `mem_of_lookup_eq_some`, `isSome_lookup_iff` — what is found is in the list, and what has a key is
  found.
* `lookup_eq_some_of_mem` — where no key occurs twice, an entry is what its key is looked up to.
-/

namespace Switchboard

variable {β : Type} {l : List (String × β)} {a : String} {b : β}

theorem mem_of_lookup_eq_some (h : l.lookup a = some b) : (a, b) ∈ l := by
  obtain ⟨l₁, l₂, rfl, -⟩ := List.lookup_eq_some_iff.mp h
  exact List.mem_append_right l₁ List.mem_cons_self

theorem lookup_eq_none_of_notMem (h : a ∉ l.map Prod.fst) : l.lookup a = none := by
  rw [List.lookup_eq_none_iff]
  intro r hr
  have hne : a ≠ r.1 := fun e => h (e ▸ List.mem_map_of_mem hr)
  simpa using hne

/-- Whatever has a key is found. -/
theorem isSome_lookup_iff : (l.lookup a).isSome = true ↔ a ∈ l.map Prod.fst := by
  constructor
  · intro h
    obtain ⟨e, he⟩ := Option.isSome_iff_exists.mp h
    exact List.mem_map_of_mem (mem_of_lookup_eq_some he)
  · intro h
    by_contra hnone
    obtain ⟨r, hr, rfl⟩ := List.mem_map.mp h
    have hlookup := List.lookup_eq_none_iff.mp (Option.not_isSome_iff_eq_none.mp hnone) r hr
    exact absurd hlookup (by simp)

/-- Where no key occurs twice, an entry is what its key is looked up to. -/
theorem lookup_eq_some_of_mem (hl : (l.map Prod.fst).Nodup) (h : (a, b) ∈ l) :
    l.lookup a = some b := by
  induction l with
  | nil => exact nomatch h
  | cons r rest ih =>
    obtain ⟨hr, hrest⟩ := List.nodup_cons.mp hl
    rcases List.mem_cons.mp h with rfl | h
    · exact List.lookup_cons_self
    · have hne : a ≠ r.1 := fun e => hr (e ▸ List.mem_map_of_mem (f := Prod.fst) h)
      rw [List.lookup_cons, beq_eq_false_iff_ne.mpr hne]
      exact ih hrest h

end Switchboard
