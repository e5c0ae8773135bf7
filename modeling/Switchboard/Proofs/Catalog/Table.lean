import Mathlib.Data.List.Sort
import Mathlib.Data.String.Basic
import Switchboard.Addresses
import Switchboard.Catalog
/-!
# The table of instances as a map

The rows of a table stand in strictly ascending order of their identities, so that a table is a map
from identities to instances. What an operation does is then said by the rows that there are
afterwards, and two tables, or parts of them, with the same rows are the same list.

* `InstanceTable.Ascending` — the order; every operation keeps it.
* `mem_insert`, `mem_erase`, `mem_withoutService`, `mem_replaceService` — the rows after an
  operation.
* `Ascending.matching_eq` — what matches a query, from the rows that fit it.
* `matching_replaceService` — a service that was replaced lists its addresses, once each and in
  ascending order.
-/

namespace Switchboard

/-- An instance fits queries for its own service only. -/
theorem Instance.service_of_fits {i : Instance} {q : ServiceQuery} (h : i.fits q = true) :
    i.service = q.service := by
  rw [fits, Bool.and_eq_true, Bool.and_eq_true, beq_iff_eq] at h
  exact h.1.1

namespace InstanceTable

/-- The rows stand in strictly ascending order of their identities. -/
def Ascending (t : InstanceTable) : Prop := t.rows.Pairwise fun a b => a.1 < b.1

/-! ## One row more -/

section InsertRow

variable {rows : List (String × Instance)} {id : String} {i : Instance} {row : String × Instance}

theorem mem_insertRow (h : rows.Pairwise fun a b => a.1 < b.1) :
    row ∈ insertRow id i rows ↔ row = (id, i) ∨ row ∈ rows ∧ row.1 ≠ id := by
  induction rows with
  | nil => simp [insertRow]
  | cons first rest ih =>
    obtain ⟨hfirst, hrest⟩ := List.pairwise_cons.mp h
    unfold insertRow
    by_cases hlt : id < first.1
    · -- the new row comes before all others
      rw [if_pos hlt, List.mem_cons]
      refine or_congr_right ⟨fun hmem => ⟨hmem, ?_⟩, And.left⟩
      rintro rfl
      rcases List.mem_cons.mp hmem with rfl | hmem
      · exact String.lt_irrefl _ hlt
      · exact String.lt_irrefl _ (String.lt_trans hlt (hfirst row hmem))
    · rw [if_neg hlt]
      by_cases heq : id = first.1
      · -- it takes the place of the first one, and no other has its identity
        rw [if_pos heq, List.mem_cons, List.mem_cons]
        refine or_congr_right ⟨fun hmem => ⟨.inr hmem, ?_⟩, ?_⟩
        · intro hid
          have hgt := hfirst row hmem
          rw [← heq, hid] at hgt
          exact String.lt_irrefl _ hgt
        · rintro ⟨rfl | hmem, hne⟩
          · exact absurd heq.symm hne
          · exact hmem
      · rw [if_neg heq, List.mem_cons, ih hrest, List.mem_cons]
        constructor
        · rintro (rfl | rfl | ⟨hmem, hne⟩)
          · exact .inr ⟨.inl rfl, fun hid => heq hid.symm⟩
          · exact .inl rfl
          · exact .inr ⟨.inr hmem, hne⟩
        · rintro (rfl | ⟨rfl | hmem, hne⟩)
          · exact .inr (.inl rfl)
          · exact .inl rfl
          · exact .inr (.inr ⟨hmem, hne⟩)

theorem pairwise_insertRow (h : rows.Pairwise fun a b => a.1 < b.1) :
    (insertRow id i rows).Pairwise fun a b => a.1 < b.1 := by
  induction rows with
  | nil => exact List.pairwise_singleton _ _
  | cons first rest ih =>
    obtain ⟨hfirst, hrest⟩ := List.pairwise_cons.mp h
    unfold insertRow
    by_cases hlt : id < first.1
    · rw [if_pos hlt]
      refine List.pairwise_cons.mpr ⟨fun row hmem => ?_, h⟩
      rcases List.mem_cons.mp hmem with rfl | hmem
      · exact hlt
      · exact String.lt_trans hlt (hfirst row hmem)
    · rw [if_neg hlt]
      by_cases heq : id = first.1
      · rw [if_pos heq]
        exact List.pairwise_cons.mpr ⟨fun row hmem => heq ▸ hfirst row hmem, hrest⟩
      · rw [if_neg heq]
        refine List.pairwise_cons.mpr ⟨fun row hmem => ?_, ih hrest⟩
        rcases (mem_insertRow hrest).mp hmem with rfl | ⟨hmem, -⟩
        · exact lt_of_not_lt_of_ne hlt heq
        · exact hfirst row hmem

end InsertRow

/-! ## Operations -/

section Operations

variable {t : InstanceTable} {id : String} {i : Instance} {row : String × Instance}

theorem mem_insert (h : t.Ascending) :
    row ∈ (t.insert id i).rows ↔ row = (id, i) ∨ row ∈ t.rows ∧ row.1 ≠ id := mem_insertRow h

theorem mem_erase : row ∈ (t.erase id).rows ↔ row ∈ t.rows ∧ row.1 ≠ id := by
  rw [erase, List.mem_filter, bne_iff_ne]

theorem mem_withoutService {service : String} :
    row ∈ (t.withoutService service).rows ↔ row ∈ t.rows ∧ row.2.service ≠ service := by
  rw [withoutService, List.mem_filter, bne_iff_ne]

theorem Ascending.insert (h : t.Ascending) (id : String) (i : Instance) :
    (t.insert id i).Ascending := pairwise_insertRow h

theorem Ascending.erase (h : t.Ascending) (id : String) : (t.erase id).Ascending :=
  h.sublist List.filter_sublist

theorem Ascending.withoutService (h : t.Ascending) (service : String) :
    (t.withoutService service).Ascending := h.sublist List.filter_sublist

theorem Ascending.setPassing (h : t.Ascending) (id : String) (passing : Bool) :
    (t.setPassing id passing).Ascending := by
  refine List.pairwise_map.mpr (h.imp fun {a b} hlt => ?_)
  -- the row keeps its identity, whether or not it is the one
  have hfst (r : String × Instance) :
      (if r.1 = id then (r.1, { r.2 with passing }) else r).1 = r.1 := by
    by_cases hr : r.1 = id
    · rw [if_pos hr]
    · rw [if_neg hr]
  rw [hfst, hfst]
  exact hlt

/-- Rows in ascending order are determined by which rows there are. -/
theorem eq_of_mem_rows_iff {l m : List (String × Instance)}
    (hl : l.Pairwise fun a b => a.1 < b.1) (hm : m.Pairwise fun a b => a.1 < b.1)
    (h : ∀ row, row ∈ l ↔ row ∈ m) : l = m := by
  have hirrefl : Std.Irrefl fun a b : String × Instance => a.1 < b.1 :=
    ⟨fun a => String.lt_irrefl a.1⟩
  have hantisymm : Std.Antisymm fun a b : String × Instance => a.1 < b.1 :=
    ⟨fun a b hab hba => absurd (String.lt_trans hab hba) (String.lt_irrefl a.1)⟩
  exact List.Pairwise.eq_of_mem_iff hl hm h

/-- What matches a query is read off from another table, if that has the rows that fit it. -/
theorem Ascending.matching_eq {t' : InstanceTable} (h : t.Ascending) (h' : t'.Ascending)
    {q : ServiceQuery} {p : String × Instance → Bool}
    (hmem : ∀ row, row ∈ t'.rows ∧ row.2.fits q = true ↔ row ∈ t.rows ∧ p row = true) :
    t'.matching q = (t.rows.filter p).map fun row => row.2.address := by
  have hrows : t'.rows.filter (fun row => row.2.fits q) = t.rows.filter p := by
    refine eq_of_mem_rows_iff (h'.sublist List.filter_sublist) (h.sublist List.filter_sublist)
      fun row => ?_
    rw [List.mem_filter, List.mem_filter]
    exact hmem row
  rw [matching, hrows]

end Operations

end InstanceTable

/-! ## Replacing a service -/

namespace Catalog

open InstanceTable

variable {t : InstanceTable} {service : String} {addrs : List String} {row : String × Instance}

/-- A beginning that two texts share does not bear on their order. -/
theorem append_lt_append_iff (s a b : String) : s ++ a < s ++ b ↔ a < b := by
  rw [String.lt_iff_toList_lt, String.lt_iff_toList_lt, String.toList_append (s := s) (t := a),
    String.toList_append (s := s) (t := b)]
  induction s.toList with
  | nil => rw [List.nil_append, List.nil_append]
  | cons c rest ih => rw [List.cons_append, List.cons_append, List.cons_lt_cons_self, ih]

/-- Behind one service, identities are ordered as addresses are. -/
theorem defaultId_lt_defaultId {a b : String} :
    defaultId service a < defaultId service b ↔ a < b := append_lt_append_iff _ a b

theorem defaultId_inj {a b : String} : defaultId service a = defaultId service b ↔ a = b := by
  unfold defaultId
  exact String.append_right_inj _

/-- The instance that a service has at an address for which nothing else is known. -/
def plainRow (service address : String) : String × Instance :=
  (defaultId service address, ⟨service, address, [], true⟩)

/-- The rows after an instance was put in at each of some addresses, in any order and any number of
times. -/
theorem mem_foldl_insert (h : t.Ascending) :
    (addrs.foldl (fun t a => t.insert (defaultId service a) ⟨service, a, [], true⟩) t).Ascending ∧
      ∀ row, row ∈ (addrs.foldl (fun t a =>
          t.insert (defaultId service a) ⟨service, a, [], true⟩) t).rows
        ↔ (∃ a ∈ addrs, row = plainRow service a) ∨
          row ∈ t.rows ∧ row.1 ∉ addrs.map (defaultId service) := by
  induction addrs generalizing t with
  | nil => exact ⟨h, fun row => by simp⟩
  | cons a rest ih =>
    obtain ⟨hascending, hrows⟩ := ih (h.insert (defaultId service a) ⟨service, a, [], true⟩)
    refine ⟨hascending, fun row => ?_⟩
    rw [List.foldl_cons, hrows row, mem_insert h, List.map_cons, List.mem_cons]
    constructor
    · rintro (⟨b, hb, rfl⟩ | ⟨rfl | ⟨hold, hne⟩, hrest⟩)
      · exact .inl ⟨b, List.mem_cons_of_mem a hb, rfl⟩
      · exact .inl ⟨a, List.mem_cons_self, rfl⟩
      · exact .inr ⟨hold, fun hid => hid.elim hne hrest⟩
    · rintro (⟨b, hb, rfl⟩ | ⟨hold, hnone⟩)
      · by_cases hlater : b ∈ rest
        · exact .inl ⟨b, hlater, rfl⟩
        · -- it is the one that was put in first, and no later one took its place
          obtain rfl : b = a := (List.mem_cons.mp hb).resolve_right hlater
          refine .inr ⟨.inl rfl, fun hid => hlater ?_⟩
          obtain ⟨c, hc, heq⟩ := List.mem_map.mp hid
          rwa [← defaultId_inj.mp heq]
      · exact .inr ⟨.inr ⟨hold, fun hid => hnone (.inl hid)⟩, fun hid => hnone (.inr hid)⟩

theorem ascending_replaceService (h : t.Ascending) (service : String) (addrs : List String) :
    (replaceService service addrs t).Ascending :=
  (mem_foldl_insert (h.withoutService service)).1

/-- **The rows after a service was replaced**: one for each address, and those of other services
that do not have the identity of one of these. -/
theorem mem_replaceService (h : t.Ascending) :
    row ∈ (replaceService service addrs t).rows ↔ (∃ a ∈ addrs, row = plainRow service a) ∨
      row ∈ t.rows ∧ row.2.service ≠ service ∧ row.1 ∉ addrs.map (defaultId service) := by
  rw [replaceService, (mem_foldl_insert (h.withoutService service)).2 row, mem_withoutService,
    and_assoc]

/-- **A service that was replaced lists its addresses**, once each and in ascending order, to whoever
does not ask for tags. -/
theorem matching_replaceService (h : t.Ascending) (addrs : List String) {q : ServiceQuery}
    (htags : q.tags = []) :
    (replaceService q.service addrs t).matching q = ascending addrs := by
  have hfits {row : String × Instance} (hmem : row ∈ (replaceService q.service addrs t).rows)
      (hfit : row.2.fits q = true) : ∃ a ∈ addrs, row = plainRow q.service a := by
    rcases (mem_replaceService h).mp hmem with hnew | ⟨-, hother, -⟩
    · exact hnew
    · exact absurd (Instance.service_of_fits hfit) hother
  refine eq_of_pairwise_of_mem_iff ?_ (pairwise_ascending addrs) fun a => ?_
  · -- the rows that fit have default identities, so their order is that of their addresses
    have hascending := (ascending_replaceService h q.service addrs).sublist
      (List.filter_sublist (p := fun row => row.2.fits q))
    refine List.pairwise_map.mpr (hascending.imp_of_mem fun {x y} hx hy hlt => ?_)
    obtain ⟨a, -, rfl⟩ := hfits (List.mem_filter.mp hx).1 (List.mem_filter.mp hx).2
    obtain ⟨b, -, rfl⟩ := hfits (List.mem_filter.mp hy).1 (List.mem_filter.mp hy).2
    exact defaultId_lt_defaultId.mp hlt
  · rw [mem_ascending, InstanceTable.matching, List.mem_map]
    constructor
    · rintro ⟨row, hrow, rfl⟩
      obtain ⟨a, ha, rfl⟩ := hfits (List.mem_filter.mp hrow).1 (List.mem_filter.mp hrow).2
      exact ha
    · intro ha
      have hfit : (plainRow q.service a).2.fits q = true := by
        simp [plainRow, Instance.fits, htags]
      exact ⟨plainRow q.service a,
        List.mem_filter.mpr ⟨(mem_replaceService h).mpr (.inl ⟨a, ha, rfl⟩), hfit⟩, rfl⟩

end Catalog

end Switchboard
