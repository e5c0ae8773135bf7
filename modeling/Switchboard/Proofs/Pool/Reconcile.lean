import Mathlib.Data.List.Nodup
import Switchboard.Pool
import Switchboard.Proofs.Lookup
/-!
# Reconciling a pool with a list of addresses

`Pool.gather` goes through an ascending list once. This file says what comes out of it, so that
what a whole run of a pool keeps can be derived without opening it again:

* `keys_gather_sublist`, `address_of_mem_gather` — each listed address gets at most one entry, in
  the order of the list, and the entry reaches that address;
* `mem_keys_gather` — each listed address that can be dialled gets one;
* `endpointsOf_eq_map` — the list that is served is read off the entries;
* `dialled_gather` — the factory is called once for each listed address that has no entry yet;
* `handlesOf_gather_perm` — the handles of the entries afterwards are the handles of the entries
  kept and the handles that came with the endpoints built;
* `serials_gather` — endpoints built get fresh serial numbers, in order.

The three readings of a list of events — `granted`, `freed` and `dialled` — are the ledger in
which the ownership of handles is stated.
-/

namespace Switchboard

namespace Pool

/-! ## The ledger of events -/

/-- The handle that came with an endpoint, if the event is its being built. -/
def granted? : PoolEvent → Option Endpoint
  | .built e => if e.releasable then some e.endpoint else none
  | .refused _ | .released _ => none

/-- The endpoint whose handle was released, if the event is that. -/
def freed? : PoolEvent → Option Endpoint
  | .released e => some e
  | .built _ | .refused _ => none

/-- The address that the factory was called for, if the event is a call of it. -/
def dialled? : PoolEvent → Option String
  | .built e => some e.endpoint.address
  | .refused a => some a
  | .released _ => none

/-- The endpoints that came with a handle, oldest first: every handle the factory ever handed
out, by its endpoint. -/
def granted (events : List PoolEvent) : List Endpoint := events.filterMap granted?

/-- The endpoints whose handles were released, oldest first. -/
def freed (events : List PoolEvent) : List Endpoint := events.filterMap freed?

/-- The addresses that the factory was called for, oldest first. -/
def dialled (events : List PoolEvent) : List String := events.filterMap dialled?

/-- The endpoints of the entries that came with a handle. -/
def handlesOf (entries : PoolEntries) : List Endpoint :=
  (entries.filter fun r => r.2.releasable).map fun r => r.2.endpoint

@[simp] theorem granted_append (l m : List PoolEvent) :
    granted (l ++ m) = granted l ++ granted m := List.filterMap_append ..

@[simp] theorem freed_append (l m : List PoolEvent) : freed (l ++ m) = freed l ++ freed m :=
  List.filterMap_append ..

@[simp] theorem dialled_append (l m : List PoolEvent) :
    dialled (l ++ m) = dialled l ++ dialled m := List.filterMap_append ..

/-! ## Going through the list -/

section Gather

variable {build : String → Build} {held : PoolEntries}

/-- One step of `gather` at an address with an entry. -/
theorem gather_cons_of_held {n : Nat} {a : String} {rest : List String} {e : PoolEntry}
    (h : held.lookup a = some e) :
    gather build held n (a :: rest)
      = { gather build held n rest with
          entries := (a, e) :: (gather build held n rest).entries } := by
  rw [gather, h]

/-- One step of `gather` at an address that is built. -/
theorem gather_cons_of_built {n : Nat} {a : String} {rest : List String} {releasable : Bool}
    (h : held.lookup a = none) (hb : build a = .built releasable) :
    gather build held n (a :: rest)
      = { gather build held (n + 1) rest with
          entries := (a, ⟨⟨n + 1, a⟩, releasable⟩) :: (gather build held (n + 1) rest).entries
          events :=
            .built ⟨⟨n + 1, a⟩, releasable⟩ :: (gather build held (n + 1) rest).events } := by
  rw [gather, h]
  simp only [hb]

/-- One step of `gather` at an address that cannot be dialled. -/
theorem gather_cons_of_refused {n : Nat} {a : String} {rest : List String}
    (h : held.lookup a = none) (hb : build a = .refused) :
    gather build held n (a :: rest)
      = { gather build held n rest with
          events := .refused a :: (gather build held n rest).events } := by
  rw [gather, h]
  simp only [hb]

/-- Induction along a list as `gather` goes through it: the empty list, an address with an
entry, one that is built, and one that cannot be dialled. -/
theorem gather_induction {motive : Nat → List String → Gathered → Prop}
    (nil : ∀ n, motive n [] { built := n })
    (kept : ∀ n a rest e, held.lookup a = some e → ∀ g, motive n rest g →
      motive n (a :: rest) { g with entries := (a, e) :: g.entries })
    (fresh : ∀ n a rest releasable, held.lookup a = none → build a = .built releasable →
      ∀ g, motive (n + 1) rest g → motive n (a :: rest) { g with
        entries := (a, ⟨⟨n + 1, a⟩, releasable⟩) :: g.entries
        events := .built ⟨⟨n + 1, a⟩, releasable⟩ :: g.events })
    (refused : ∀ n a rest, held.lookup a = none → build a = .refused → ∀ g, motive n rest g →
      motive n (a :: rest) { g with events := .refused a :: g.events })
    (n : Nat) (addrs : List String) : motive n addrs (gather build held n addrs) := by
  induction addrs generalizing n with
  | nil => exact nil n
  | cons a rest ih =>
    cases h : held.lookup a with
    | some e =>
      rw [gather_cons_of_held h]
      exact kept n a rest e h _ (ih n)
    | none =>
      cases hb : build a with
      | built releasable =>
        rw [gather_cons_of_built h hb]
        exact fresh n a rest releasable h hb _ (ih (n + 1))
      | refused =>
        rw [gather_cons_of_refused h hb]
        exact refused n a rest h hb _ (ih n)

variable (build held)

/-- Each listed address gets at most one entry, in the order of the list. -/
theorem keys_gather_sublist (n : Nat) (addrs : List String) :
    ((gather build held n addrs).entries.map Prod.fst).Sublist addrs := by
  refine gather_induction (motive := fun _ addrs g => (g.entries.map Prod.fst).Sublist addrs)
    ?nil ?kept ?fresh ?refused n addrs
  case nil => exact fun _ => List.Sublist.refl []
  case kept => exact fun _ a _ _ _ _ ih => ih.cons_cons a
  case fresh => exact fun _ a _ _ _ _ _ ih => ih.cons_cons a
  case refused => exact fun _ a _ _ _ _ ih => ih.cons a

/-- A listed address that can be dialled gets an entry. -/
theorem mem_keys_gather (n : Nat) (addrs : List String) {a : String} (ha : a ∈ addrs)
    (hbuild : build a ≠ .refused) : a ∈ (gather build held n addrs).entries.map Prod.fst := by
  refine gather_induction (motive := fun _ addrs g => a ∈ addrs → a ∈ g.entries.map Prod.fst)
    ?nil ?kept ?fresh ?refused n addrs ha
  case nil => exact fun _ ha => nomatch ha
  case kept =>
    intro _ b rest e _ g ih ha
    rcases List.mem_cons.mp ha with rfl | ha
    · exact List.mem_cons_self
    · exact List.mem_cons_of_mem _ (ih ha)
  case fresh =>
    intro _ b rest releasable _ _ g ih ha
    rcases List.mem_cons.mp ha with rfl | ha
    · exact List.mem_cons_self
    · exact List.mem_cons_of_mem _ (ih ha)
  case refused =>
    intro _ b rest _ hrefused g ih ha
    rcases List.mem_cons.mp ha with rfl | ha
    · exact absurd hrefused hbuild
    · exact ih ha

/-- An entry afterwards reaches the address it stands under, if that was so before. -/
theorem address_of_mem_gather (hheld : ∀ r ∈ held, r.2.endpoint.address = r.1) (n : Nat)
    (addrs : List String) :
    ∀ r ∈ (gather build held n addrs).entries, r.2.endpoint.address = r.1 := by
  refine gather_induction
    (motive := fun _ _ g => ∀ r ∈ g.entries, r.2.endpoint.address = r.1)
    ?nil ?kept ?fresh ?refused n addrs
  case nil => exact fun _ r hr => nomatch hr
  case kept =>
    intro _ a _ e h g ih r hr
    rcases List.mem_cons.mp hr with rfl | hr
    · exact hheld _ (mem_of_lookup_eq_some h)
    · exact ih r hr
  case fresh =>
    intro _ a _ _ _ _ g ih r hr
    rcases List.mem_cons.mp hr with rfl | hr
    · rfl
    · exact ih r hr
  case refused => exact fun _ _ _ _ _ _ ih => ih

/-- The factory is called once, in the order of the list, for each address without an entry. -/
theorem dialled_gather (n : Nat) (addrs : List String) :
    dialled (gather build held n addrs).events
      = addrs.filter fun a => (held.lookup a).isNone := by
  refine gather_induction
    (motive := fun _ addrs g => dialled g.events = addrs.filter fun a => (held.lookup a).isNone)
    ?nil ?kept ?fresh ?refused n addrs
  case nil => exact fun _ => rfl
  case kept =>
    intro _ a rest e h g ih
    rw [List.filter_cons_of_neg (by simp [h])]
    exact ih
  case fresh =>
    intro _ a rest releasable h _ g ih
    rw [List.filter_cons_of_pos (by simp [h]), ← ih]
    rfl
  case refused =>
    intro _ a rest h _ g ih
    rw [List.filter_cons_of_pos (by simp [h]), ← ih]
    rfl

/-- Going through the list releases nothing. -/
theorem freed_gather (n : Nat) (addrs : List String) :
    freed (gather build held n addrs).events = [] := by
  refine gather_induction (motive := fun _ _ g => freed g.events = [])
    ?nil ?kept ?fresh ?refused n addrs
  case nil => exact fun _ => rfl
  case kept => exact fun _ _ _ _ _ _ ih => ih
  case fresh => exact fun _ _ _ _ _ _ _ ih => ih
  case refused => exact fun _ _ _ _ _ _ ih => ih

/-- The endpoints that come with a handle get fresh serial numbers, in order. -/
theorem serials_gather (n : Nat) (addrs : List String) :
    n ≤ (gather build held n addrs).built ∧
      (∀ e ∈ granted (gather build held n addrs).events,
        n < e.serial ∧ e.serial ≤ (gather build held n addrs).built) ∧
      (granted (gather build held n addrs).events).Pairwise (·.serial < ·.serial) := by
  refine gather_induction
    (motive := fun n _ g => n ≤ g.built ∧
      (∀ e ∈ granted g.events, n < e.serial ∧ e.serial ≤ g.built) ∧
      (granted g.events).Pairwise (·.serial < ·.serial))
    ?nil ?kept ?fresh ?refused n addrs
  case nil =>
    exact fun n => ⟨Nat.le_refl n, fun _ he => absurd he List.not_mem_nil, List.Pairwise.nil⟩
  case kept => exact fun _ _ _ _ _ _ ih => ih
  case fresh =>
    intro n a rest releasable _ _ g ⟨hle, hin, hpair⟩
    have hin' : ∀ e ∈ granted g.events, n < e.serial ∧ e.serial ≤ g.built :=
      fun e he => ⟨Nat.lt_of_succ_lt (hin e he).1, (hin e he).2⟩
    cases releasable with
    | false => exact ⟨Nat.le_of_succ_le hle, hin', hpair⟩
    | true =>
      refine ⟨Nat.le_of_succ_le hle, fun e he => ?_, List.pairwise_cons.mpr ⟨?_, hpair⟩⟩
      · rcases List.mem_cons.mp he with rfl | he
        · exact ⟨Nat.lt_succ_self n, hle⟩
        · exact hin' e he
      · exact fun e he => (hin e he).1
  case refused => exact fun _ _ _ _ _ _ ih => ih

end Gather

/-! ## The list that is served -/

/-- The list that is served is read off the entries, if they are in the order of the list. -/
theorem endpointsOf_eq_map {entries : PoolEntries} {addrs : List String}
    (hsub : (entries.map Prod.fst).Sublist addrs) (hnodup : addrs.Nodup) :
    endpointsOf entries addrs = entries.map fun r => r.2.endpoint := by
  induction addrs generalizing entries with
  | nil =>
    have hnil : entries = [] := by simpa using hsub
    subst hnil
    rfl
  | cons a rest ih =>
    obtain ⟨ha, hrest⟩ := List.nodup_cons.mp hnodup
    cases entries with
    | nil => simp [endpointsOf]
    | cons r entries =>
      by_cases hr : r.1 = a
      · -- the first entry is that of the first address, which occurs nowhere else
        have htail : (entries.map Prod.fst).Sublist rest := by
          rw [List.map_cons, hr] at hsub
          exact List.cons_sublist_cons.mp hsub
        have hlookup : (r :: entries).lookup a = some r.2 := by
          rw [← hr]
          exact List.lookup_cons_self
        have hsame : endpointsOf (r :: entries) rest = endpointsOf entries rest := by
          refine List.filterMap_congr fun x hx => ?_
          have hne : x ≠ r.1 := fun e => ha (hr ▸ e ▸ hx)
          rw [List.lookup_cons, beq_eq_false_iff_ne.mpr hne]
        show (a :: rest).filterMap _ = _
        rw [List.filterMap_cons, hlookup]
        show r.2.endpoint :: endpointsOf (r :: entries) rest = r.2.endpoint :: _
        rw [hsame, ih htail hrest]
      · have hsub' : ((r :: entries).map Prod.fst).Sublist rest := by
          cases hsub with
          | cons _ h => exact h
          | cons_cons _ _ => exact absurd rfl hr
        have hnone : (r :: entries).lookup a = none :=
          lookup_eq_none_of_notMem fun h => ha (hsub'.subset h)
        show (a :: rest).filterMap _ = _
        rw [List.filterMap_cons, hnone]
        exact ih hsub' hrest

/-! ## Where the handles go -/

theorem handlesOf_cons (r : String × PoolEntry) (entries : PoolEntries) :
    handlesOf (r :: entries)
      = if r.2.releasable then r.2.endpoint :: handlesOf entries else handlesOf entries := by
  unfold handlesOf
  rw [List.filter_cons]
  split <;> rfl

theorem handlesOf_append (l m : PoolEntries) :
    handlesOf (l ++ m) = handlesOf l ++ handlesOf m := by
  unfold handlesOf
  rw [List.filter_append, List.map_append]

theorem handlesOf_perm {l m : PoolEntries} (h : l.Perm m) : (handlesOf l).Perm (handlesOf m) :=
  (h.filter _).map _

/-- The entries kept for one more address are one more entry, if it has one. -/
theorem filter_contains_cons_perm {held : PoolEntries} {a : String} {rest : List String}
    {e : PoolEntry} (hkeys : (held.map Prod.fst).Nodup) (h : held.lookup a = some e)
    (ha : a ∉ rest) :
    (held.filter fun r => (a :: rest).contains r.1).Perm
      ((a, e) :: held.filter fun r => rest.contains r.1) := by
  induction held with
  | nil => exact nomatch h
  | cons r held ih =>
    obtain ⟨hr, hheld⟩ := List.nodup_cons.mp hkeys
    by_cases hra : r.1 = a
    · -- no later entry stands under `a`, so the two filters agree from here on
      have he : r = (a, e) := by
        rw [← hra, List.lookup_cons_self, Option.some.injEq] at h
        rw [← hra, ← h]
      have htail : (held.filter fun x => (a :: rest).contains x.1)
          = held.filter fun x => rest.contains x.1 := by
        refine List.filter_congr fun x hx => ?_
        have hne : x.1 ≠ a := fun e => hr (hra ▸ e ▸ List.mem_map_of_mem hx)
        simp [hne]
      rw [List.filter_cons_of_pos (by simp [hra]), List.filter_cons_of_neg (by simp [hra, ha]),
        htail, he]
    · have hlookup : held.lookup a = some e := by
        rw [List.lookup_cons, beq_eq_false_iff_ne.mpr (Ne.symm hra)] at h
        exact h
      by_cases hmem : r.1 ∈ rest
      · rw [List.filter_cons_of_pos (by simp [hmem]), List.filter_cons_of_pos (by simp [hmem])]
        exact ((ih hheld hlookup).cons r).trans (List.Perm.swap ..)
      · rw [List.filter_cons_of_neg (by simp [hra, hmem]),
          List.filter_cons_of_neg (by simp [hmem])]
        exact ih hheld hlookup

/-- The entries kept for one more address are the same, if it has none. -/
theorem filter_contains_cons_of_none {held : PoolEntries} {a : String} {rest : List String}
    (h : held.lookup a = none) :
    (held.filter fun r => (a :: rest).contains r.1)
      = held.filter fun r => rest.contains r.1 := by
  refine List.filter_congr fun r hr => ?_
  have hne : r.1 ≠ a := by
    have hra := List.lookup_eq_none_iff.mp h r hr
    exact fun e => by simp [e] at hra
  simp [hne]

/-- The handles of the entries afterwards are those of the entries kept and those that came with
the endpoints built. -/
theorem handlesOf_gather_perm (build : String → Build) {held : PoolEntries}
    (hkeys : (held.map Prod.fst).Nodup) (n : Nat) (addrs : List String) (hnodup : addrs.Nodup) :
    (handlesOf (gather build held n addrs).entries).Perm
      (handlesOf (held.filter fun r => addrs.contains r.1)
        ++ granted (gather build held n addrs).events) := by
  refine gather_induction
    (motive := fun _ addrs g => addrs.Nodup → (handlesOf g.entries).Perm
      (handlesOf (held.filter fun r => addrs.contains r.1) ++ granted g.events))
    ?nil ?kept ?fresh ?refused n addrs hnodup
  case nil =>
    intro _ _
    simp [handlesOf, granted]
  case kept =>
    intro _ a rest e h g ih hnodup
    obtain ⟨ha, hrest⟩ := List.nodup_cons.mp hnodup
    have hkept := (handlesOf_perm (filter_contains_cons_perm hkeys h ha)).append_right
      (granted g.events)
    refine List.Perm.trans ?_ hkept.symm
    rw [handlesOf_cons, handlesOf_cons]
    split
    · exact (ih hrest).cons _
    · exact ih hrest
  case fresh =>
    intro n a rest releasable h _ g ih hnodup
    rw [filter_contains_cons_of_none h, handlesOf_cons]
    cases releasable with
    | false => exact ih (List.nodup_cons.mp hnodup).2
    | true =>
      exact ((ih (List.nodup_cons.mp hnodup).2).cons _).trans List.perm_middle.symm
  case refused =>
    intro _ a rest h _ g ih hnodup
    rw [filter_contains_cons_of_none h]
    exact ih (List.nodup_cons.mp hnodup).2

/-- What is released are the handles of the entries that are not listed. -/
theorem freed_releasesOf (held : PoolEntries) (addrs : List String) :
    freed (releasesOf held addrs) = handlesOf (held.filter fun r => !addrs.contains r.1) := by
  unfold releasesOf freed handlesOf
  rw [List.filterMap_map, List.filter_filter, ← List.filterMap_eq_map]
  congr 1
  exact List.filter_congr fun r _ => Bool.and_comm ..

theorem granted_releasesOf (held : PoolEntries) (addrs : List String) :
    granted (releasesOf held addrs) = [] := by
  unfold releasesOf granted
  rw [List.filterMap_map]
  exact List.filterMap_eq_nil_iff.mpr fun _ _ => rfl

theorem dialled_releasesOf (held : PoolEntries) (addrs : List String) :
    dialled (releasesOf held addrs) = [] := by
  unfold releasesOf dialled
  rw [List.filterMap_map]
  exact List.filterMap_eq_nil_iff.mpr fun _ _ => rfl

end Pool

end Switchboard
