import Switchboard.Proofs.Agent.Registry
import Switchboard.Proofs.Lookup
/-!
# An agent in memory

An agent that keeps bodies in a list and writes its listings in JSON. It does what clients rely on in
agents, so that there is something of which all that is said of them is true.

* `Ledger` — the bodies kept, each under one identity.
* `Ledger.entry` — an instance as it is listed.
* `Ledger.registry` — the agent; `isHonest_registry` — it can be relied on.
-/

namespace Switchboard.Agent

open Document

/-- Bodies under their identities, each of which occurs once. -/
structure Ledger where
  rows : List (String × Json)
  nodup : (rows.map Prod.fst).Nodup

namespace Ledger

/-- Nothing is kept. -/
def empty : Ledger := ⟨[], List.nodup_nil⟩

/-- One more body is kept, in the place of one under the same identity. -/
def keep (l : Ledger) (id : String) (body : Json) : Ledger where
  rows := (id, body) :: l.rows.filter fun row => row.1 != id
  nodup := by
    refine List.nodup_cons.mpr ⟨fun hmem => ?_, l.nodup.sublist (List.filter_sublist.map _)⟩
    obtain ⟨row, hrow, hid⟩ := List.mem_map.mp hmem
    exact bne_iff_ne.mp (List.mem_filter.mp hrow).2 hid

/-! ## Listings -/

/-- The members of an instance as it is listed, with their names in a body. -/
def names : List (String × String) :=
  [("ID", "ID"), ("Service", "Name"), ("Tags", "Tags"), ("Address", "Address"), ("Port", "Port")]

/-- What a body says, under the names of a listing. -/
def restated (body : Json) : Json :=
  .record (names.filterMap fun p => (body.member? p.2).map fun v => (p.1, v))

/-- The one node of this agent. -/
def node : Json := .record [("Node", .text "node"), ("Address", .text "127.0.0.1")]

/-- An instance as it is listed. -/
def entry (body : Json) : Json := .record [("Node", node), ("Service", restated body)]

/-- The listing of the instances that a request wants. -/
def listing (l : Ledger) (healthy : String → Bool) (service : String)
    (params : List (String × String)) : Json :=
  .list ((l.rows.filter fun row => isWanted healthy service params row.1 row.2).map fun row =>
    entry row.2)

/-- A reply that says a value. -/
def success (v : Json) : Reply := { status := 200, body := Text.utf8 v.render.toList }

theorem content?_of_bytes (body : List UInt8) :
    ({ status := 200, body } : Reply).content? = some body := rfl

/-- The agent in memory that answers for a root. -/
def registry (root : List (List Char)) (healthy : String → Bool) : Registry Ledger where
  kept l id := l.rows.lookup id
  reply l request :=
    match request.wish? root with
    | some (.store _) => some { status := 200 }
    | some (.list service params) => some (success (l.listing healthy service params))
    | none => some { status := 404 }
  after l request :=
    match request.wish? root with
    | some (.store body) =>
      match (body.member? "ID").bind Json.text? with
      | some id => l.keep id body
      | none => l
    | _ => l

/-! ## It can be relied on -/

theorem member?_document (members : List (String × Json)) (name : String) :
    (Json.record members).document.member? name = (members.lookup name).map Json.document := by
  show (Json.memberDocuments members).lookup (some name) = _
  induction members with
  | nil => rfl
  | cons m members ih =>
    obtain ⟨first, v⟩ := m
    rw [Json.memberDocuments, List.lookup_cons, List.lookup_cons, ih]
    show (match name == first with
      | true => some v.document
      | false => _) = _
    cases name == first <;> rfl

theorem isRecord_document {members : List (String × Json)} (h : (members.map Prod.fst).Nodup) :
    (Json.record members).document.IsRecord := by
  have hnames : (Json.memberDocuments members).map (·.1) = (members.map Prod.fst).map some := by
    induction members with
    | nil => rfl
    | cons m members ih =>
      rw [Json.memberDocuments, List.map_cons, ih (List.nodup_cons.mp h).2]
      rfl
  refine ⟨Json.memberDocuments members, rfl, fun e he => ?_, ?_⟩
  · obtain ⟨name, -, hname⟩ := List.mem_map.mp (hnames ▸ List.mem_map_of_mem he)
    rw [← hname]
    rfl
  · rw [hnames]
    exact h.map fun _ _ => Option.some_inj.mp

section Names

variable {names : List (String × String)} (f : String → Option Json)

theorem map_fst_filterMap_sublist :
    ((names.filterMap fun p => (f p.2).map fun v => (p.1, v)).map Prod.fst).Sublist
      (names.map Prod.fst) := by
  induction names with
  | nil => exact List.Sublist.slnil
  | cons p names ih =>
    rw [List.filterMap_cons]
    cases f p.2 with
    | none => exact ih.cons _
    | some v => exact ih.cons_cons _

theorem lookup_filterMap (hnames : (names.map Prod.fst).Nodup) {a b : String} (h : (a, b) ∈ names) :
    (names.filterMap fun p => (f p.2).map fun v => (p.1, v)).lookup a = f b := by
  induction names with
  | nil => exact absurd h List.not_mem_nil
  | cons p names ih =>
    obtain ⟨hp, hrest⟩ := List.nodup_cons.mp hnames
    rw [List.filterMap_cons]
    rcases List.mem_cons.mp h with rfl | h
    · cases hb : f b with
      | none =>
        refine lookup_eq_none_of_notMem fun hmem => hp ?_
        exact (map_fst_filterMap_sublist f).subset hmem
      | some v => exact List.lookup_cons_self
    · have hne : a ≠ p.1 := fun heq => hp (heq ▸ List.mem_map_of_mem h)
      cases f p.2 with
      | none => exact ih hrest h
      | some v =>
        show List.lookup a ((p.1, v) :: _) = _
        rw [List.lookup_cons, beq_eq_false_iff_ne.mpr hne]
        exact ih hrest h

end Names

theorem restates_restated (body : Json) : Restates (restated body).document body := by
  have hnodup : (names.map Prod.fst).Nodup := by decide
  have hmember {a b : String} (h : (a, b) ∈ names) :
      (restated body).document.member? a = (body.member? b).map Json.document := by
    rw [restated, member?_document, lookup_filterMap _ hnodup h]
  exact {
    isRecord := isRecord_document (hnodup.sublist (map_fst_filterMap_sublist _))
    id := hmember (by decide)
    service := hmember (by decide)
    tags := .inl (hmember (by decide))
    address := hmember (by decide)
    port := hmember (by decide) }

theorem lists_entry (body : Json) : Lists (entry body).document body := by
  have hnames : ["Node", "Service"].Nodup := by decide
  refine ⟨isRecord_document hnames, ⟨node.document, ?_, ?_⟩,
    ⟨(restated body).document, ?_, restates_restated body⟩⟩
  · rw [entry, member?_document]
    rfl
  · have hnode : ["Node", "Address"].Nodup := by decide
    exact ⟨isRecord_document hnode, ⟨"node", member?_document _ _⟩,
      ⟨"127.0.0.1", member?_document _ _⟩⟩
  · rw [entry, member?_document]
    rfl

theorem documents_eq_map (vs : List Json) : Json.documents vs = vs.map Json.document := by
  induction vs with
  | nil => rfl
  | cons v vs ih => rw [Json.documents, ih, List.map_cons]

theorem lookup_keep (l : Ledger) (id : String) (body : Json) :
    (fun id' => (l.keep id body).rows.lookup id')
      = Function.update (fun id' => l.rows.lookup id') id (some body) := by
  funext id'
  by_cases heq : id' = id
  · subst heq
    rw [Function.update_self]
    exact List.lookup_cons_self
  · rw [Function.update_of_ne heq, keep, List.lookup_cons, beq_eq_false_iff_ne.mpr heq]
    show (l.rows.filter fun row => row.1 != id).lookup id' = _
    induction l.rows with
    | nil => rfl
    | cons row rows ih =>
      by_cases hrow : row.1 = id
      · have hne : (id' == row.1) = false := beq_eq_false_iff_ne.mpr (hrow ▸ heq)
        rw [List.filter_cons_of_neg (by simp [hrow]), ih, List.lookup_cons, hne]
      · rw [List.filter_cons_of_pos (by simp [hrow]), List.lookup_cons, List.lookup_cons, ih]

/-- **The agent in memory can be relied on.** -/
theorem isHonest_registry (root : List (List Char)) (healthy : String → Bool) :
    (registry root healthy).IsHonest root healthy where
  stores l request body id hwish hid := by
    refine ⟨⟨{ status := 200 }, ?_, by decide, rfl⟩, ?_⟩
    · simp only [registry, hwish]
    · simp only [registry, hwish, hid]
      exact lookup_keep l id body
  lists l request service params hwish := by
    let wanted := l.rows.filter fun row => isWanted healthy service params row.1 row.2
    refine ⟨success (l.listing healthy service params), ?_, rfl, rfl, ⟨noIndex, rfl⟩,
      (wanted.map fun row => entry row.2).map Json.document, wanted.map (·.2), ?_, ?_,
      fun body => ?_⟩
    · simp only [registry, hwish]
    · rw [success, content?_of_bytes, Option.bind_some, ofJsonBytes, Json.textOf_utf8, ofJson_render,
        listing, Json.document, documents_eq_map]
    · rw [List.map_map, List.forall₂_map_left_iff, List.forall₂_map_right_iff]
      exact List.forall₂_same.mpr fun row _ => lists_entry row.2
    · constructor
      · intro hmem
        obtain ⟨⟨id, body⟩, hrow, rfl⟩ := List.mem_map.mp hmem
        obtain ⟨hrow, hwanted⟩ := List.mem_filter.mp hrow
        exact ⟨id, lookup_eq_some_of_mem l.nodup hrow, hwanted⟩
      · rintro ⟨id, hkept, hwanted⟩
        exact List.mem_map.mpr
          ⟨(id, body), List.mem_filter.mpr ⟨mem_of_lookup_eq_some hkept, hwanted⟩, rfl⟩

end Ledger

end Switchboard.Agent
