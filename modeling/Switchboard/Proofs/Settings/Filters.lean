import Switchboard.Agent.Request
import Switchboard.Catalog
import Switchboard.Settings
/-!
# Filters are merged by conjunction

Filters from the command line are merged into the settings one after the other, and a tag that is
there already is not added. For a catalog the order of tags and their number do not matter, so that
merged settings ask for the instances that all filters let through; for an agent the first tag is
the one that is sent, so that the order of the tags that were there must not change.

* `mergeAll` — filters merged one after the other; `mergedTags` — their tags.
* `Extends` — tags with others behind them, none of them twice; `extends_mergeAll` by induction on
  the filters.
* `fits_mergeAll` — an instance fits the merged query if it fits the one before and passes the
  filters.
* `merged_by_conjunction` — this for whole catalogs, and the laws of merging.
-/

namespace Switchboard

namespace Settings

/-- Filters: tags, and whether only healthy instances are wanted. -/
abbrev Filters := List (List String × Bool)

/-- The settings with filters merged into them, one after the other. -/
def mergeAll (s : Settings) (filters : Filters) : Settings :=
  filters.foldl (fun s f => s.merge f.1 f.2) s

/-- The tags of filters. -/
def mergedTags (filters : Filters) : List String := filters.flatMap (·.1)

/-! ## Tags -/

theorem mem_addTag {tags : List String} {t u : String} : u ∈ addTag tags t ↔ u ∈ tags ∨ u = t := by
  unfold addTag
  split
  · rename_i h
    rw [List.contains_iff_mem] at h
    exact ⟨.inl, fun hu => hu.elim id fun heq => heq ▸ h⟩
  · rw [List.mem_append, List.mem_singleton]

theorem mem_foldl_addTag {tags new : List String} {u : String} :
    u ∈ new.foldl addTag tags ↔ u ∈ tags ∨ u ∈ new := by
  induction new generalizing tags with
  | nil => simp
  | cons t new ih => rw [List.foldl_cons, ih, mem_addTag, List.mem_cons, or_assoc]

/-- Tags that are there already are not added. -/
theorem foldl_addTag_of_subset {tags new : List String} (h : ∀ t ∈ new, t ∈ tags) :
    new.foldl addTag tags = tags := by
  induction new with
  | nil => rfl
  | cons t new ih =>
    have ht : addTag tags t = tags := if_pos (List.contains_iff_mem.mpr (h t List.mem_cons_self))
    rw [List.foldl_cons, ht]
    exact ih fun u hu => h u (List.mem_cons_of_mem _ hu)

/-- `more` stands for `tags` with some of the tags `new` behind them: those that are not there, once
each and in their order. -/
structure Extends (tags new more : List String) : Prop where
  added : ∃ added, more = tags ++ added ∧ added.Sublist new ∧ added.Nodup ∧ ∀ t ∈ added, t ∉ tags
  mem_iff : ∀ t, t ∈ more ↔ t ∈ tags ∨ t ∈ new

theorem extends_foldl_addTag (tags new : List String) : Extends tags new (new.foldl addTag tags) := by
  refine ⟨?_, fun t => mem_foldl_addTag⟩
  induction new generalizing tags with
  | nil =>
    exact ⟨[], (List.append_nil _).symm, .slnil, List.nodup_nil, fun t ht => absurd ht List.not_mem_nil⟩
  | cons t new ih =>
    rw [List.foldl_cons]
    obtain ⟨added, heq, hsub, hnodup, hnew⟩ := ih (addTag tags t)
    by_cases ht : t ∈ tags
    · -- the tag is there already
      have hsame : addTag tags t = tags := if_pos (List.contains_iff_mem.mpr ht)
      rw [hsame] at heq hnew ⊢
      exact ⟨added, heq, hsub.cons t, hnodup, hnew⟩
    · have hmore : addTag tags t = tags ++ [t] := if_neg fun h => ht (List.contains_iff_mem.mp h)
      rw [hmore] at heq hnew ⊢
      have hother : ∀ u ∈ added, u ∉ tags ∧ u ≠ t := fun u hu => by
        have hu' := hnew u hu
        rw [List.mem_append, List.mem_singleton, not_or] at hu'
        exact hu'
      refine ⟨t :: added, by rw [heq, List.append_assoc]; rfl, hsub.cons_cons t, ?_, ?_⟩
      · exact List.nodup_cons.mpr ⟨fun hmem => (hother t hmem).2 rfl, hnodup⟩
      · intro u hu
        rcases List.mem_cons.mp hu with rfl | hu
        · exact ht
        · exact (hother u hu).1

/-! ## Merging -/

theorem merge_merge (s : Settings) (tags tags' : List String) (p p' : Bool) :
    (s.merge tags p).merge tags' p' = s.merge (tags ++ tags') (p || p') := by
  rw [merge, merge, merge, List.foldl_append, Bool.or_assoc]

theorem merge_self (s : Settings) (tags : List String) (p : Bool) :
    (s.merge tags p).merge tags p = s.merge tags p := by
  rw [merge_merge, Bool.or_self, merge, merge, List.foldl_append,
    foldl_addTag_of_subset fun t ht => mem_foldl_addTag.mpr (.inr ht)]

/-- Filters merged one after the other are one filter: all tags, and the health if any asks for it. -/
theorem mergeAll_eq_merge (s : Settings) (filters : Filters) :
    s.mergeAll filters = s.merge (mergedTags filters) (filters.any (·.2)) := by
  induction filters generalizing s with
  | nil =>
    show s = { s with tags := s.tags, passingOnly := s.passingOnly || false }
    rw [Bool.or_false]
  | cons f filters ih =>
    show (s.merge f.1 f.2).mergeAll filters = _
    rw [ih, merge_merge]
    rfl

theorem extends_mergeAll (s : Settings) (filters : Filters) :
    Extends s.tags (mergedTags filters) (s.mergeAll filters).tags := by
  rw [mergeAll_eq_merge]
  exact extends_foldl_addTag s.tags (mergedTags filters)

/-- The first tag stays the first. -/
theorem Extends.head? {tags new more : List String} (h : Extends tags new more) {t : String}
    (ht : tags.head? = some t) : more.head? = some t := by
  obtain ⟨added, rfl, -⟩ := h.added
  rw [List.head?_append, ht]
  rfl

/-! ## What merged settings ask for -/

/-- An instance passes filters: it carries their tags, and is healthy if any asks for that. -/
structure Passes (filters : Filters) (i : Instance) : Prop where
  tags : ∀ f ∈ filters, ∀ t ∈ f.1, t ∈ i.tags
  healthy : (∃ f ∈ filters, f.2 = true) → i.passing = true

theorem fits_query_iff {s : Settings} {service : String} {i : Instance} :
    i.fits (s.query service) = true ↔
      i.service = service ∧ (s.passingOnly = true → i.passing = true) ∧ ∀ t ∈ s.tags, t ∈ i.tags := by
  rw [Instance.fits, Bool.and_eq_true, Bool.and_eq_true, beq_iff_eq, Bool.or_eq_true, Bool.not_eq_true',
    List.all_eq_true, and_assoc]
  refine and_congr Iff.rfl (and_congr ?_ ?_)
  · show s.passingOnly = false ∨ _ ↔ _
    cases s.passingOnly <;> simp
  · exact forall₂_congr fun t _ => List.contains_iff_mem

/-- **An instance fits the merged query if it fits the one before and passes the filters.** -/
theorem fits_mergeAll {s : Settings} {filters : Filters} {service : String} {i : Instance} :
    i.fits ((s.mergeAll filters).query service) = true ↔
      i.fits (s.query service) = true ∧ Passes filters i := by
  rw [fits_query_iff, fits_query_iff]
  have htags : (∀ t ∈ (s.mergeAll filters).tags, t ∈ i.tags) ↔
      (∀ t ∈ s.tags, t ∈ i.tags) ∧ ∀ f ∈ filters, ∀ t ∈ f.1, t ∈ i.tags := by
    simp only [(s.extends_mergeAll filters).mem_iff, or_imp, forall_and, mergedTags, List.mem_flatMap]
    refine and_congr Iff.rfl ⟨fun h f hf t ht => h t ⟨f, hf, ht⟩, fun h t ⟨f, hf, ht⟩ => h f hf t ht⟩
  have hpassing : ((s.mergeAll filters).passingOnly = true → i.passing = true) ↔
      (s.passingOnly = true → i.passing = true) ∧
        ((∃ f ∈ filters, f.2 = true) → i.passing = true) := by
    rw [mergeAll_eq_merge]
    show (s.passingOnly || filters.any (·.2)) = true → _ ↔ _
    rw [Bool.or_eq_true, List.any_eq_true, or_imp]
  rw [htags, hpassing]
  constructor
  · rintro ⟨hservice, ⟨hbefore, hhealthy⟩, hold, hnew⟩
    exact ⟨⟨hservice, hbefore, hold⟩, hnew, hhealthy⟩
  · rintro ⟨⟨hservice, hbefore, hold⟩, hpasses⟩
    exact ⟨hservice, ⟨hbefore, hpasses.healthy⟩, hold, hpasses.tags⟩

instance (filters : Filters) (i : Instance) : Decidable (Passes filters i) :=
  decidable_of_iff ((∀ f ∈ filters, ∀ t ∈ f.1, t ∈ i.tags) ∧
      ((∃ f ∈ filters, f.2 = true) → i.passing = true))
    ⟨fun h => ⟨h.1, h.2⟩, fun h => ⟨h.tags, h.healthy⟩⟩

theorem filter_fits_mergeAll (s : Settings) (filters : Filters) (service : String)
    (rows : List (String × Instance)) :
    rows.filter (fun r => r.2.fits ((s.mergeAll filters).query service))
      = (rows.filter fun r => r.2.fits (s.query service)).filter fun r => Passes filters r.2 := by
  rw [List.filter_filter]
  refine List.filter_congr fun r _ => ?_
  rw [Bool.eq_iff_iff, fits_mergeAll, Bool.and_eq_true, decide_eq_true_eq, and_comm]

/-- Of the parameters of a listing, the tag is the first that is asked for. -/
theorem tag_listingPairs (c : Agent.Client) {q : ServiceQuery} {t : String}
    (h : q.tags.head? = some t) (last : Nat) :
    (c.listingPairs q last).filter (·.1 == "tag") = [("tag", t)] := by
  rw [Agent.Client.listingPairs, h, List.filter_append, List.filter_append]
  have hwait : (if last = noIndex then [] else
      [("index", toString last), ("wait", c.waitText)]).filter (·.1 == "tag") = [] := by
    split <;> rfl
  have hpassing : (if q.passingOnly then [("passing", "true")] else []).filter
      (fun p : String × String => p.1 == "tag") = [] := by
    split <;> rfl
  rw [hwait, hpassing]
  rfl

/-- What merging filters into settings comes to. -/
structure Conjoins (s : Settings) (filters : Filters) : Prop where
  /-- The instances found are those found before that pass, in the same order. -/
  found : ∀ (service : String) (c : Catalog),
    c.table.rows.filter (fun r => r.2.fits ((s.mergeAll filters).query service))
      = (c.table.rows.filter fun r => r.2.fits (s.query service)).filter fun r => Passes filters r.2
  matching : ∀ (service : String) (c : Catalog), c.matching ((s.mergeAll filters).query service)
    = ((c.table.rows.filter fun r => r.2.fits (s.query service)).filter fun r =>
        Passes filters r.2).map fun r => r.2.address
  /-- The tags that were there stay in front; behind them is what was missing, once each. -/
  tags : Extends s.tags (mergedTags filters) (s.mergeAll filters).tags
  /-- The tag that an agent is asked for is the one from before. -/
  sent : ∀ t, s.tags.head? = some t → ∀ (a : Agent.Client) (service : String) (last : Nat),
    (a.listingPairs ((s.mergeAll filters).query service) last).filter (·.1 == "tag") = [("tag", t)]

/-- **Filters are merged by conjunction**: whatever is merged, the instances found are those found
before that pass all filters. Merging the same again changes nothing, and merging twice is merging
both at once. -/
theorem merged_by_conjunction :
    (∀ (s : Settings) (filters : Filters), s.Conjoins filters) ∧
    (∀ (s : Settings) (tags : List String) (p : Bool),
      (s.merge tags p).merge tags p = s.merge tags p) ∧
    ∀ (s : Settings) (tags tags' : List String) (p p' : Bool),
      (s.merge tags p).merge tags' p' = s.merge (tags ++ tags') (p || p') := by
  refine ⟨fun s filters => ?_, merge_self, merge_merge⟩
  have htags := s.extends_mergeAll filters
  exact {
    found := fun service c => filter_fits_mergeAll s filters service c.table.rows
    matching := fun service c => by
      rw [Catalog.matching, InstanceTable.matching, filter_fits_mergeAll]
    tags := htags
    sent := fun t ht a service last => tag_listingPairs a (htags.head? ht) last }

end Settings

end Switchboard
