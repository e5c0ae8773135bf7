import Mathlib.Data.List.Induction
import Switchboard.Proofs.Catalog.Waiting
/-!
# The law of queries that wait

A query that comes in at the catalog uses up a queued failure, or sees a standing one, or sees the
instances if they are newer than what it has. If none of this is so it waits, and `Fate` says what
becomes of it.

* `Known` — what is known after a run of the queries and of the answers so far; `Honest` says what an
  answer may be.
* `used`, `scripted` — the failures that were queued, and the queries that used them up
  (`ledger_after`).
* `Contract` — the whole law (`blocking_contract`).
* `cleared_before_looking` — what a query misses that does not get to look in time.
-/

namespace Switchboard

namespace Queries

/-! ## What was asked, and what there was to see -/

/-- The queries that were sent along a run; each one's number is its place. -/
def asked (steps : List QueriesStep) : List (ServiceQuery × Nat) :=
  steps.filterMap fun
    | .ask q last => some (q, last)
    | _ => none

def catalogs (s : Queries) : List QueriesStep → List Catalog
  | [] => [s.catalog]
  | a :: rest => s.catalog :: catalogs (s.step a) rest

/-- The failures that were ever set or queued, by the end of a run. -/
def named (c : Catalog) (steps : List QueriesStep) : List DiscoveryFailure :=
  c.failure.toList ++ c.queued ++ steps.filterMap fun
    | .change (.setFailure why) => why
    | .change (.failNext why) => some why
    | _ => none

theorem catalogs_snoc (s : Queries) (steps : List QueriesStep) (a : QueriesStep) :
    catalogs s (steps ++ [a]) = catalogs s steps ++ [((s.after steps).step a).catalog] := by
  induction steps generalizing s with
  | nil => rfl
  | cons b rest ih =>
    rw [List.cons_append, catalogs, ih, catalogs, after_cons, List.cons_append]

/-- The catalogs along a run are in order, and the present one is the last. -/
theorem catalogs_ordered {s : Queries} {patience : Option Nat} (h : Orderly patience s)
    (steps : List QueriesStep) :
    (catalogs s steps).Pairwise Catalog.Later ∧ (s.after steps).catalog ∈ catalogs s steps := by
  induction steps generalizing s with
  | nil => exact ⟨List.pairwise_singleton _ _, List.mem_singleton_self _⟩
  | cons a rest ih =>
    obtain ⟨hordered, hlast⟩ := ih (h.step a)
    have hlater : ∀ l s', Orderly patience s' → ∀ d ∈ catalogs s' l, s'.catalog.Later d := by
      intro l
      induction l with
      | nil =>
        intro s' _ d hd
        exact List.mem_singleton.mp hd ▸ .refl _
      | cons b l ihl =>
        intro s' hs' d hd
        rcases List.mem_cons.mp hd with rfl | hd
        · exact .refl _
        · exact (backend_step hs'.backend_eq b).2.trans (ihl _ (hs'.step b) d hd)
    refine ⟨List.pairwise_cons.mpr ⟨fun d hd => ?_, hordered⟩, List.mem_cons_of_mem _ hlast⟩
    exact (backend_step h.backend_eq a).2.trans (hlater rest _ (h.step a) d hd)

/-- Two catalogs of one run with the same index have the same instances. -/
theorem matching_eq_of_index_eq {past : List Catalog} (h : past.Pairwise Catalog.Later)
    {d e : Catalog} (hd : d ∈ past) (he : e ∈ past) (heq : d.index = e.index) (q : ServiceQuery) :
    d.matching q = e.matching q := by
  let R (d e : Catalog) : Prop := d.index = e.index → d.table = e.table
  have hforth : past.Pairwise R := h.imp fun hlater => hlater.table_eq
  have hback : past.Pairwise (flip R) :=
    h.imp fun hlater heq => (hlater.table_eq heq.symm).symm
  have htable : d.table = e.table :=
    List.Pairwise.forall_of_forall_of_flip (fun _ _ _ => rfl) hforth hback hd he heq
  rw [Catalog.matching, Catalog.matching, htable]

/-! ## What the answers are -/

/-- An answer that a query for something newer than `last` may be given, after these catalogs and
with these failures. -/
inductive Honest (past : List Catalog) (failures : List DiscoveryFailure) (patience : Option Nat)
    (q : ServiceQuery) (last : Nat) : Answer → Prop
  /-- What a catalog had for it, under that catalog's index; not older than asked for, unless the
  query may give up. -/
  | found {d : Catalog} (mem : d ∈ past)
      (newer : patience = none → last ≠ noIndex → last < d.index) :
    Honest past failures patience q last (d.current q)
  | failed {why : DiscoveryFailure} (mem : why ∈ failures) :
    Honest past failures patience q last (.failed why)

theorem Honest.mono {past past' : List Catalog} {failures failures' : List DiscoveryFailure}
    {patience : Option Nat} {q : ServiceQuery} {last : Nat} {a : Answer}
    (h : Honest past failures patience q last a) (hpast : past ⊆ past')
    (hfailures : failures ⊆ failures') : Honest past' failures' patience q last a := by
  cases h with
  | found mem newer => exact .found (hpast mem) newer
  | failed mem => exact .failed (hfailures mem)

theorem honest_look {past : List Catalog} {failures : List DiscoveryFailure}
    {patience : Option Nat} {c : Catalog} {q : ServiceQuery} {last : Nat} {a : Answer}
    (hmem : c ∈ past) (hfailure : ∀ why, c.failure = some why → why ∈ failures)
    (h : c.look q last = some a) : Honest past failures patience q last a := by
  obtain ⟨why, hwhy, rfl⟩ | ⟨-, rfl⟩ := Catalog.look_eq_some h
  · exact .failed (hfailure why hwhy)
  · refine .found hmem fun _ hne => ?_
    exact (Catalog.lt_index_of_look h).resolve_left hne

/-- What holds after a run that began with the catalog `c`. -/
structure Known (c : Catalog) (patience : Option Nat) (past : List Catalog)
    (steps : List QueriesStep) (s : Queries) : Prop where
  orderly : Orderly patience s
  present : s.catalog ∈ past
  sent_eq : s.sent = (asked steps).length
  waiting : ∀ o ∈ s.waiting, (asked steps)[o.number]? = some (o.query, o.last)
  /-- A query that came in and was not answered has looked, and there was nothing. -/
  parked : ∀ o ∈ s.waiting, ∀ seen giveUpAt, o.inquiry = .parked seen giveUpAt →
    seen ≤ s.catalog.revision ∧
      (seen = s.catalog.revision → s.catalog.look o.query o.last = none) ∧
      (patience = none → giveUpAt = none)
  failure : ∀ why, s.catalog.failure = some why → why ∈ named c steps
  queued : ∀ why ∈ s.catalog.queued, why ∈ named c steps
  /-- The answers so far are honest. -/
  answered : ∀ x ∈ s.answered, ∃ q last, (asked steps)[x.number]? = some (q, last) ∧
    Honest past (named c steps) patience q last x.answer

section Knowledge

variable {c : Catalog} {patience : Option Nat} {past past' : List Catalog}
  {steps : List QueriesStep} {s s' : Queries}

theorem asked_append (l m : List QueriesStep) : asked (l ++ m) = asked l ++ asked m :=
  List.filterMap_append

theorem named_append (c : Catalog) (l m : List QueriesStep) :
    named c l ⊆ named c (l ++ m) := by
  intro why hwhy
  rw [named, List.filterMap_append]
  rcases List.mem_append.mp hwhy with hwhy | hwhy
  · exact List.mem_append_left _ hwhy
  · exact List.mem_append_right _ (List.mem_append_left _ hwhy)

theorem getElem?_asked_append {l : List QueriesStep} {n : Nat} {x : ServiceQuery × Nat}
    (h : (asked l)[n]? = some x) (m : List QueriesStep) : (asked (l ++ m))[n]? = some x := by
  rw [asked_append, List.getElem?_append_left]
  · exact h
  · exact (List.getElem?_eq_some_iff.mp h).1

/-- What is known stays known if it is known of every query that waits somewhere else, or has its
answer, since then. -/
theorem Known.grow (h : Known c patience past steps s) (a : QueriesStep)
    (horderly : Orderly patience s') (hsub : past ⊆ past') (hpresent : s'.catalog ∈ past')
    (hsent : s'.sent = (asked (steps ++ [a])).length) (hlater : s.catalog.Later s'.catalog)
    (hwaiting : ∀ o ∈ s'.waiting, o ∈ s.waiting ∨
      ((asked (steps ++ [a]))[o.number]? = some (o.query, o.last) ∧
        ∀ seen giveUpAt, o.inquiry = .parked seen giveUpAt → seen = s'.catalog.revision ∧
          s'.catalog.look o.query o.last = none ∧ (patience = none → giveUpAt = none)))
    (hanswered : ∀ x ∈ s'.answered, x ∈ s.answered ∨
      ∃ q last, (asked steps)[x.number]? = some (q, last) ∧
        Honest past (named c steps) patience q last x.answer)
    (hfailure : ∀ why, s'.catalog.failure = some why → why ∈ named c (steps ++ [a]))
    (hqueued : ∀ why ∈ s'.catalog.queued, why ∈ named c (steps ++ [a])) :
    Known c patience past' (steps ++ [a]) s' where
  orderly := horderly
  present := hpresent
  sent_eq := hsent
  waiting o ho := by
    rcases hwaiting o ho with ho | ⟨hnew, -⟩
    · exact getElem?_asked_append (h.waiting o ho) [a]
    · exact hnew
  parked o ho seen giveUpAt hparked := by
    rcases hwaiting o ho with ho | ⟨-, hnew⟩
    · obtain ⟨hle, hlooked, hpatience⟩ := h.parked o ho seen giveUpAt hparked
      refine ⟨Nat.le_trans hle hlater.revision_le, fun heq => ?_, hpatience⟩
      have hrevision : s.catalog.revision = s'.catalog.revision :=
        Nat.le_antisymm hlater.revision_le (heq ▸ hle)
      rw [hlater.look_eq hrevision]
      exact hlooked (heq.trans hrevision.symm)
    · obtain ⟨heq, hlook, hpatience⟩ := hnew seen giveUpAt hparked
      exact ⟨Nat.le_of_eq heq, fun _ => hlook, hpatience⟩
  failure := hfailure
  queued := hqueued
  answered x hx := by
    obtain ⟨q, last, hasked, hhonest⟩ := (hanswered x hx).elim (h.answered x) id
    exact ⟨q, last, getElem?_asked_append hasked [a], hhonest.mono hsub (named_append c steps [a])⟩

/-- A failure stands only if it was set. -/
theorem failure_apply {d : Catalog} {ch : Catalog.Change} {why : DiscoveryFailure}
    (h : (d.apply ch).failure = some why) : d.failure = some why ∨ ch = .setFailure (some why) := by
  cases ch with
  | setFailure failure => exact .inr (congrArg Catalog.Change.setFailure h)
  | _ => exact .inl h

/-- A failure is queued only if someone queued it. -/
theorem queued_apply {d : Catalog} {ch : Catalog.Change} {why : DiscoveryFailure}
    (h : why ∈ (d.apply ch).queued) : why ∈ d.queued ∨ ch = .failNext why := by
  cases ch with
  | failNext why' =>
    rcases List.mem_append.mp h with h | h
    · exact .inl h
    · exact .inr (congrArg Catalog.Change.failNext (List.mem_singleton.mp h).symm)
  | _ => exact .inl h

theorem mem_named_change {ch : Catalog.Change} {why : DiscoveryFailure}
    (h : ch = .setFailure (some why) ∨ ch = .failNext why) :
    why ∈ named c (steps ++ [.change ch]) := by
  rw [named, List.filterMap_append]
  refine List.mem_append_right _ (List.mem_append_right _ ?_)
  rcases h with rfl | rfl <;> exact List.mem_singleton_self why

theorem Known.honest (h : Known c patience past steps s) {o : OpenQuery} (ho : o ∈ s.waiting)
    {t : QueryTurn} {c' : Catalog} {a : Answer}
    (leads : TurnTo s.catalog patience s.now o t c' (.replied (some s.now) (.answer a))) :
    Honest past (named c steps) patience o.query o.last a := by
  cases leads with
  | queued sent hqueued => exact .failed (h.queued _ (hqueued ▸ List.mem_cons_self))
  | atOnce sent hqueued look => exact honest_look h.present h.failure look
  | told parked written look => exact honest_look h.present h.failure look
  | @gaveUp seen giveUpAt parked due =>
    refine .found h.present fun hforever => ?_
    rw [(h.parked o ho seen giveUpAt parked).2.2 hforever] at due
    exact nomatch due

/-- A query that waits after a turn has looked, and there was nothing. -/
theorem Known.looked (h : Known c patience past steps s) {o : OpenQuery} (ho : o ∈ s.waiting)
    {t : QueryTurn} {c' : Catalog} {seen : Nat} {giveUpAt : Option Nat}
    (leads : TurnTo s.catalog patience s.now o t c' (.parked seen giveUpAt)) :
    seen = s.catalog.revision ∧ s.catalog.look o.query o.last = none ∧
      (patience = none → giveUpAt = none) := by
  cases leads with
  | parks sent hqueued look => exact ⟨rfl, look, fun hforever => by rw [hforever]; rfl⟩
  | waitsOn parked written look => exact ⟨rfl, look, (h.parked o ho _ _ parked).2.2⟩

theorem Known.put (h : Known c patience past steps s) {o : OpenQuery} (ho : o ∈ s.waiting)
    {t : QueryTurn} {c' : Catalog} {i : Inquiry}
    (leads : TurnTo s.catalog patience s.now o t c' i)
    (horderly : Orderly patience (s.put o.number (.catalog c' patience) i)) :
    Known c patience (past ++ [c']) (steps ++ [.turn o.number t])
      (s.put o.number (.catalog c' patience) i) := by
  have hasked : asked (steps ++ [.turn o.number t]) = asked steps := by
    rw [asked_append]
    exact List.append_nil _
  have hnamed := named_append c steps [.turn o.number t]
  refine h.grow _ horderly (List.subset_append_left _ _) ?_ ?_ ?_ (fun p hp => ?_)
    (fun x hx => ?_) (fun why hwhy => ?_) fun why hwhy => ?_
  · rw [put_catalog]
    exact List.mem_append_right _ (List.mem_singleton_self _)
  · rw [put_sent, hasked]
    exact h.sent_eq
  · rw [put_catalog]
    exact leads.later
  · rw [hasked, put_catalog, leads.revision_eq, leads.later.look_eq leads.revision_eq.symm]
    rcases leads.ready with ⟨a, rfl, hready⟩ | ⟨seen, giveUpAt, rfl, hready⟩
    · rw [put_of_ready hready] at hp
      exact .inl (List.mem_of_mem_filter hp)
    · rw [put_of_not_ready hready] at hp
      obtain ⟨p', hp', rfl⟩ := List.mem_map.mp hp
      split
      · rename_i hnumber
        obtain rfl := List.inj_on_of_nodup_map h.orderly.waiting_nodup hp' ho hnumber
        refine .inr ⟨h.waiting p' hp', fun seen' giveUpAt' hparked => ?_⟩
        obtain ⟨rfl, rfl⟩ := Inquiry.parked.inj hparked
        exact h.looked ho leads
      · exact .inl hp'
  · rcases leads.ready with ⟨a, rfl, hready⟩ | ⟨seen, giveUpAt, rfl, hready⟩
    · rw [put_of_ready hready] at hx
      rcases List.mem_append.mp hx with hx | hx
      · exact .inl hx
      · obtain rfl := List.mem_singleton.mp hx
        exact .inr ⟨o.query, o.last, h.waiting o ho, h.honest ho leads⟩
    · rw [put_of_not_ready hready] at hx
      exact .inl hx
  · rw [put_catalog, leads.failure_eq] at hwhy
    exact hnamed (h.failure why hwhy)
  · rw [put_catalog] at hwhy
    exact hnamed (h.queued why (leads.queued_subset hwhy))

/-- **What is known stays known.** -/
theorem Known.step (h : Known c patience past steps s) (a : QueriesStep) :
    Known c patience (past ++ [(s.step a).catalog]) (steps ++ [a]) (s.step a) := by
  have horderly := h.orderly.step a
  have hlater := (backend_step h.orderly.backend_eq a).2
  have hpast : past ⊆ past ++ [(s.step a).catalog] := List.subset_append_left _ _
  have hpresent : (s.step a).catalog ∈ past ++ [(s.step a).catalog] :=
    List.mem_append_right _ (List.mem_singleton_self _)
  have hnamed := named_append c steps [a]
  have hmove := moves_step h.orderly.backend_eq a
  generalize s.step a = s' at horderly hlater hpast hpresent hmove ⊢
  cases hmove with
  | ask q last =>
    have hasked : asked (steps ++ [.ask q last]) = asked steps ++ [(q, last)] := asked_append _ _
    refine h.grow _ horderly hpast hpresent ?_ hlater (fun o ho => ?_)
      (fun x hx => .inl hx) (fun why hwhy => hnamed (h.failure why hwhy)) fun why hwhy => hnamed (h.queued why hwhy)
    · rw [hasked, List.length_append, ← h.sent_eq]
      rfl
    · rcases List.mem_append.mp ho with ho | ho
      · exact .inl ho
      · obtain rfl := List.mem_singleton.mp ho
        refine .inr ⟨?_, nofun⟩
        rw [hasked, h.sent_eq, List.getElem?_concat_length]
  | change ch =>
    refine h.grow _ horderly hpast hpresent ?_ hlater (fun o ho => .inl ho)
      (fun x hx => .inl hx) (fun why hwhy => ?_) fun why hwhy => ?_
    · rw [asked_append]
      exact h.sent_eq.trans (congrArg List.length (List.append_nil _).symm)
    · rcases failure_apply hwhy with hwhy | hch
      · exact hnamed (h.failure why hwhy)
      · exact mem_named_change (.inl hch)
    · rcases queued_apply hwhy with hwhy | hch
      · exact hnamed (h.queued why hwhy)
      · exact mem_named_change (.inr hch)
  | wait ms =>
    refine h.grow _ horderly hpast hpresent ?_ hlater (fun o ho => .inl ho)
      (fun x hx => .inl hx) (fun why hwhy => hnamed (h.failure why hwhy)) fun why hwhy => hnamed (h.queued why hwhy)
    rw [asked_append]
    exact h.sent_eq.trans (congrArg List.length (List.append_nil _).symm)
  | skip number t =>
    refine h.grow _ horderly hpast hpresent ?_ hlater (fun o ho => .inl ho)
      (fun x hx => .inl hx) (fun why hwhy => hnamed (h.failure why hwhy)) fun why hwhy => hnamed (h.queued why hwhy)
    rw [asked_append]
    exact h.sent_eq.trans (congrArg List.length (List.append_nil _).symm)
  | turn hopen leads =>
    obtain ⟨ho, rfl⟩ := mem_of_open? hopen
    rw [put_catalog]
    exact h.put ho leads horderly

theorem known_after (c : Catalog) (patience : Option Nat) (now : Nat) (steps : List QueriesStep) :
    Known c patience (catalogs (start c patience now) steps) steps
      ((start c patience now).after steps) := by
  induction steps using List.reverseRecOn with
  | nil =>
    refine { orderly := .start c patience now
             present := List.mem_singleton_self _
             sent_eq := rfl
             waiting := fun _ h => absurd h List.not_mem_nil
             parked := fun _ h => absurd h List.not_mem_nil
             failure := fun why hwhy => ?_
             queued := fun why hwhy => ?_
             answered := fun _ h => absurd h List.not_mem_nil }
    · exact List.mem_append_left _ (List.mem_append_left _ (Option.mem_toList.mpr hwhy))
    · exact List.mem_append_left _ (List.mem_append_right _ hwhy)
  | append_singleton l a ih =>
    rw [catalogs_snoc, after_append]
    exact ih.step a

end Knowledge

/-! ## Failures that are queued -/

/-- The failures that were queued along a run, oldest first. -/
def scripted (steps : List QueriesStep) : List DiscoveryFailure :=
  steps.filterMap fun
    | .change (.failNext why) => some why
    | _ => none

/-- The query that uses up a failure in a step, and the failure. -/
def uses? (s : Queries) : QueriesStep → Option (Nat × DiscoveryFailure)
  | .turn number .arrive =>
    match s.open? number with
    | some ⟨_, _, _, .sent⟩ => s.catalog.queued.head?.map (number, ·)
    | _ => none
  | _ => none

/-- The queries that use up a failure along a run, in order, and the failures. -/
def used (s : Queries) : List QueriesStep → List (Nat × DiscoveryFailure)
  | [] => []
  | a :: rest => (uses? s a).toList ++ used (s.step a) rest

section Ledger

variable {s : Queries} {patience : Option Nat}

/-- A query that was parked, or is not open, uses up nothing; one that comes in uses up the
oldest. -/
theorem uses?_turn {number : Nat} {o : OpenQuery} (hopen : s.open? number = some o)
    {t : QueryTurn} {c' : Catalog} {i : Inquiry}
    (leads : TurnTo s.catalog patience s.now o t c' i) :
    (uses? s (.turn number t) = none ∧ c'.queued = s.catalog.queued) ∨
      ∃ why, uses? s (.turn number t) = some (number, why) ∧ s.catalog.queued = why :: c'.queued ∧
        i = .replied (some s.now) (.answer (.failed why)) := by
  obtain ⟨n, q, last, inquiry⟩ := o
  cases leads with
  | @queued why rest sent hqueued =>
    obtain rfl := sent
    refine .inr ⟨why, ?_, hqueued, rfl⟩
    simp [uses?, hopen, hqueued]
  | atOnce sent hqueued look =>
    obtain rfl := sent
    refine .inl ⟨?_, rfl⟩
    simp [uses?, hopen, hqueued]
  | parks sent hqueued look =>
    obtain rfl := sent
    refine .inl ⟨?_, rfl⟩
    simp [uses?, hopen, hqueued]
  | told parked written look | waitsOn parked written look | gaveUp parked due =>
    exact .inl ⟨rfl, rfl⟩

/-- Only a query that comes in uses up a failure. -/
theorem uses?_eq_some {a : QueriesStep} {u : Nat × DiscoveryFailure} (h : uses? s a = some u) :
    ∃ o, a = .turn u.1 .arrive ∧ s.open? u.1 = some o ∧ o.inquiry = .sent := by
  unfold uses? at h
  split at h
  · split at h
    · rename_i number _ n q last hopen
      obtain ⟨why, -, rfl⟩ := Option.map_eq_some_iff.mp h
      exact ⟨_, rfl, hopen, rfl⟩
    · exact nomatch h
  · exact nomatch h

/-- One step, in the ledger: a failure that is queued goes to the end, one that is used up is taken
from the front, and answers the query that uses it. -/
theorem ledger_step (h : Orderly patience s) (a : QueriesStep) :
    s.catalog.queued ++ scripted [a]
        = (uses? s a).toList.map Prod.snd ++ (s.step a).catalog.queued ∧
      ∃ added, (s.step a).answered = s.answered ++ added ∧
        ((uses? s a).toList.map fun u => (u.1, Answer.failed u.2)).Sublist
          (added.map fun x => (x.number, x.answer)) := by
  cases huse : uses? s a with
  | some u =>
    obtain ⟨number, why⟩ := u
    obtain ⟨o, rfl, hopen, hsent⟩ := uses?_eq_some huse
    have hturn : QueryTurn.arrive ∈ o.inquiry.turns s.now s.catalog.revision := by
      rw [hsent]
      exact List.mem_singleton_self _
    obtain ⟨c', i, leads, hstep⟩ := step_turn h.backend_eq hopen hturn
    rcases uses?_turn hopen leads with ⟨hnone, -⟩ | ⟨why', hsome, hqueued, rfl⟩
    · rw [huse] at hnone
      exact nomatch hnone
    · obtain ⟨-, rfl⟩ := Prod.mk.inj (Option.some.inj (huse.symm.trans hsome))
      rw [hstep, put_catalog, hqueued]
      refine ⟨List.append_nil _, [⟨number, .failed why, s.now⟩], ?_, List.Sublist.refl _⟩
      rw [put_of_ready (ready?_replied s.now _)]
      rfl
  | none =>
    obtain ⟨added, hadded⟩ := answered_prefix_step h.backend_eq a
    refine ⟨?_, added, hadded.symm, List.nil_sublist _⟩
    have hmove := moves_step h.backend_eq a
    generalize s.step a = s' at hmove ⊢
    cases hmove with
    | ask q last | wait ms | skip number t => exact List.append_nil _
    | change ch =>
      cases ch with
      | failNext why => rfl
      | _ => exact List.append_nil _
    | turn hopen leads =>
      rcases uses?_turn hopen leads with ⟨-, hqueued⟩ | ⟨why, hsome, -⟩
      · rw [put_catalog, hqueued]
        exact List.append_nil _
      · rw [huse] at hsome
        exact nomatch hsome

/-- **The ledger of a run.** What was queued at first or along the run has been used up in that order,
by one query each, or is still there. -/
theorem ledger_after (h : Orderly patience s) (steps : List QueriesStep) :
    s.catalog.queued ++ scripted steps
        = (used s steps).map Prod.snd ++ (s.after steps).catalog.queued ∧
      ∃ added, (s.after steps).answered = s.answered ++ added ∧
        ((used s steps).map fun u => (u.1, Answer.failed u.2)).Sublist
          (added.map fun x => (x.number, x.answer)) := by
  induction steps generalizing s with
  | nil => exact ⟨List.append_nil _, [], (List.append_nil _).symm, List.Sublist.refl _⟩
  | cons a rest ih =>
    obtain ⟨hqueue, added, hadded, hsub⟩ := ledger_step h a
    obtain ⟨hqueue', added', hadded', hsub'⟩ := ih (h.step a)
    have hscripted : scripted (a :: rest) = scripted [a] ++ scripted rest :=
      List.filterMap_append (l := [a])
    rw [used, List.map_append, List.map_append, after_cons]
    refine ⟨?_, added ++ added', ?_, ?_⟩
    · rw [hscripted, ← List.append_assoc, hqueue, List.append_assoc, hqueue', List.append_assoc]
    · rw [hadded', hadded, List.append_assoc]
    · rw [List.map_append]
      exact hsub.append hsub'

end Ledger

/-! ## The law -/

/-- A step answers a query, now. -/
def Answers (s : Queries) (a : QueriesStep) (number : Nat) (answer : Answer) : Prop :=
  (s.step a).answered = s.answered ++ [⟨number, answer, s.now⟩] ∧ (s.step a).open? number = none

def indexMove : QueriesStep → Nat
  | .change (.setFailure _) | .change (.failNext _) => 0
  | .change _ => 1
  | .ask _ _ | .turn _ _ | .wait _ => 0

/-- What a query that comes in now is promised. -/
structure Arrival (patience : Option Nat) (s : Queries) (o : OpenQuery) : Prop where
  /-- The oldest of the failures that are queued answers it at once, and is used up. -/
  queued : ∀ why rest, s.catalog.queued = why :: rest →
    Answers s (.turn o.number .arrive) o.number (.failed why) ∧
      (s.step (.turn o.number .arrive)).catalog.queued = rest
  /-- Otherwise a failure that is set answers it at once. -/
  failing : s.catalog.queued = [] → ∀ why, s.catalog.failure = some why →
    Answers s (.turn o.number .arrive) o.number (.failed why)
  /-- Otherwise the instances do, if they are newer than what it has, or it has nothing. -/
  fresh : s.catalog.queued = [] → s.catalog.failure = none →
    o.last = noIndex ∨ o.last < s.catalog.index →
    Answers s (.turn o.number .arrive) o.number (s.catalog.current o.query)
  /-- Otherwise it waits, whatever happens then. -/
  waits : s.catalog.queued = [] → s.catalog.failure = none → o.last ≠ noIndex →
    s.catalog.index ≤ o.last → ∀ later, Fate (s.step (.turn o.number .arrive)) o.number o.query
      o.last (patience.map (s.now + ·)) later

/-- **The law of queries that wait**, after a run from `s₀` to `s`. -/
structure Contract (c : Catalog) (patience : Option Nat) (steps : List QueriesStep)
    (s₀ s : Queries) : Prop where
  arrival : ∀ o ∈ s.waiting, o.inquiry = .sent → Arrival patience s o
  /-- Once everything has run, a query waits only if there is nothing for it and its time is not
  up. -/
  atRest : ∀ o ∈ s.settle.waiting, ∃ seen giveUpAt, o.inquiry = .parked seen giveUpAt ∧
    s.settle.catalog.look o.query o.last = none ∧ hasCome s.settle.now giveUpAt = false
  /-- Failures that are queued are used up in order, by one query each, which they answer. -/
  ledger : c.queued ++ scripted steps = (used s₀ steps).map Prod.snd ++ s.catalog.queued
  spent : ((used s₀ steps).map fun u => (u.1, Answer.failed u.2)).Sublist
    (s.answered.map fun x => (x.number, x.answer))
  spent_once : ((used s₀ steps).map Prod.fst).Nodup
  /-- They wake nobody. -/
  quiet : ∀ why number, (s.step (.change (.failNext why))).hasNews number = s.hasNews number
  /-- No query is answered twice. -/
  once : (s.answered.map ClosedQuery.number).Nodup
  /-- Instances are told with the index of the one state that had them. -/
  found : ∀ x ∈ s.answered, ∀ instances index, x.answer = .found instances index →
    ∃ q last, (asked steps)[x.number]? = some (q, last) ∧
      (∃ d ∈ catalogs s₀ steps, d.index = index) ∧
      (∀ d ∈ catalogs s₀ steps, d.index = index → d.matching q = instances) ∧
      (patience = none → last ≠ noIndex → last < index)
  /-- A query fails only as someone said it should. -/
  failed : ∀ x ∈ s.answered, ∀ why, x.answer = .failed why → why ∈ named c steps
  /-- The index moves by one with every change of the instances, and with nothing else. -/
  index_eq : ∀ a, (s.step a).catalog.index = s.catalog.index + indexMove a

section Law

variable {s : Queries} {patience : Option Nat}

theorem answers_of_put {number : Nat} {t : QueryTurn} {c' : Catalog} {a : Answer}
    (hstep : s.step (.turn number t)
      = s.put number (.catalog c' patience) (.replied (some s.now) (.answer a))) :
    Answers s (.turn number t) number a := by
  have hready := ready?_replied s.now a
  refine ⟨?_, ?_⟩
  · rw [hstep, put_of_ready hready]
    rfl
  · rw [hstep]
    exact open?_put_of_ready hready

theorem Orderly.arrival (h : Orderly patience s) {o : OpenQuery} (ho : o ∈ s.waiting)
    (hsent : o.inquiry = .sent) : Arrival patience s o := by
  have hturn : QueryTurn.arrive ∈ o.inquiry.turns s.now s.catalog.revision := by
    rw [hsent]
    exact List.mem_singleton_self _
  obtain ⟨c', i, leads, hstep⟩ := step_turn h.backend_eq (h.open?_eq ho) hturn
  cases leads with
  | @queued why rest sent hqueued =>
    refine { queued := fun why' rest' h' => ?_, failing := fun hnil => ?_, fresh := fun hnil => ?_,
             waits := fun hnil => ?_ }
    · obtain ⟨rfl, rfl⟩ := List.cons.inj (hqueued.symm.trans h')
      refine ⟨answers_of_put hstep, ?_⟩
      rw [hstep, put_catalog]
    all_goals exact nomatch hqueued.symm.trans hnil
  | @atOnce a sent hqueued look =>
    have hanswers := answers_of_put hstep
    refine { queued := fun why rest h' => nomatch hqueued.symm.trans h'
             failing := fun _ why hwhy => ?_, fresh := fun _ hnone hnewer => ?_,
             waits := fun _ hnone hne hle => ?_ }
    · obtain rfl := Option.some.inj (look.symm.trans (Catalog.look_of_failure hwhy _ _))
      exact hanswers
    · obtain rfl := Option.some.inj (look.symm.trans (Catalog.look_of_newer hnone hnewer _))
      exact hanswers
    · exact nomatch look.symm.trans (Catalog.look_eq_none_iff.mpr ⟨hnone, hne, hle⟩)
  | parks sent hqueued look =>
    refine { queued := fun why rest h' => nomatch hqueued.symm.trans h'
             failing := fun _ why hwhy => ?_, fresh := fun _ hnone hnewer => ?_,
             waits := fun _ _ _ _ later => ?_ }
    · exact nomatch look.symm.trans (Catalog.look_of_failure hwhy _ _)
    · exact nomatch look.symm.trans (Catalog.look_of_newer hnone hnewer _)
    · have hnext := h.step (.turn o.number .arrive)
      rw [hstep] at hnext ⊢
      refine fate_of_parked later hnext (open?_put_of_not_ready rfl (h.open?_eq ho)) ?_ fun _ => ?_
      · exact Nat.le_of_eq (by rw [put_catalog])
      · rw [put_catalog]
        exact look

theorem index_step (h : Orderly patience s) (a : QueriesStep) :
    (s.step a).catalog.index = s.catalog.index + indexMove a := by
  have hmove := moves_step h.backend_eq a
  generalize s.step a = s' at hmove ⊢
  cases hmove with
  | ask q last | wait ms | skip number t => rfl
  | change ch => cases ch <;> rfl
  | turn hopen leads =>
    obtain ⟨queued, queries, rfl⟩ := leads.unwritten
    rw [put_catalog]
    rfl

/-- A query is left waiting only if there is nothing for it. -/
theorem Known.atRest {c : Catalog} {past : List Catalog} {steps : List QueriesStep}
    (h : Known c patience past steps s)
    (hturns : ∀ o ∈ s.waiting, o.inquiry.turns s.now s.catalog.revision = []) :
    ∀ o ∈ s.waiting, ∃ seen giveUpAt, o.inquiry = .parked seen giveUpAt ∧
      s.catalog.look o.query o.last = none ∧ hasCome s.now giveUpAt = false := by
  intro o ho
  have hnone := hturns o ho
  cases hi : o.inquiry with
  | sent =>
    rw [hi] at hnone
    exact nomatch hnone
  | replied due reply => exact absurd hi (h.orderly.unreplied o ho due reply)
  | parked seen giveUpAt =>
    rw [hi] at hnone
    obtain ⟨hnotice, hexpire⟩ := List.append_eq_nil_iff.mp hnone
    have hseen : seen = s.catalog.revision := by
      by_contra hne
      rw [if_pos hne] at hnotice
      exact nomatch hnotice
    have hdue : hasCome s.now giveUpAt = false := by
      by_contra hdue
      rw [if_pos (Bool.of_not_eq_false hdue)] at hexpire
      exact nomatch hexpire
    exact ⟨seen, giveUpAt, rfl, (h.parked o ho seen giveUpAt hi).2.1 hseen, hdue⟩

/-- **Every run keeps the law**, whatever the catalog was to begin with. -/
theorem blocking_contract (c : Catalog) (patience : Option Nat) (now : Nat)
    (steps : List QueriesStep) :
    Contract c patience steps (start c patience now) ((start c patience now).after steps) := by
  have hknown := known_after c patience now steps
  have horderly := hknown.orderly
  have hcatalogs := catalogs_ordered (Orderly.start c patience now) steps
  obtain ⟨hledger, added, hadded, hspent⟩ := ledger_after (Orderly.start c patience now) steps
  obtain rfl : _ = added := hadded
  refine { arrival := fun o ho hsent => horderly.arrival ho hsent
           atRest := ?_
           ledger := hledger
           spent := hspent
           spent_once := ?_
           quiet := fun why number => ?_
           once := horderly.answered_nodup
           found := fun x hx instances index hanswer => ?_
           failed := fun x hx why hanswer => ?_
           index_eq := index_step horderly }
  · obtain ⟨more, hmore⟩ := horderly.settle_eq_after
    have hsettled := known_after c patience now (steps ++ more)
    rw [after_append, ← hmore] at hsettled
    exact hsettled.atRest horderly.settle_atRest
  · have hnumbers := hspent.map Prod.fst
    rw [List.map_map, List.map_map] at hnumbers
    exact hknown.orderly.answered_nodup.sublist hnumbers
  · rw [Queries.step, Queries.change, hasNews, hasNews, horderly.backend_eq]
    rfl
  · obtain ⟨q, last, hasked, hhonest⟩ := hknown.answered x hx
    rw [hanswer] at hhonest
    generalize hfound : Answer.found instances index = a at hhonest
    cases hhonest with
    | failed mem => cases hfound
    | found mem newer =>
      obtain ⟨rfl, rfl⟩ := Answer.found.inj hfound
      refine ⟨q, last, hasked, ⟨_, mem, rfl⟩, fun d hd heq => ?_, newer⟩
      exact matching_eq_of_index_eq hcatalogs.1 hd mem heq q
  · obtain ⟨q, last, -, hhonest⟩ := hknown.answered x hx
    rw [hanswer] at hhonest
    cases hhonest with
    | failed mem => exact mem

end Law

/-- A query for instances of `users` that waits at the empty catalog for something newer. -/
def parkedAtEmpty : Queries :=
  (start .empty none 0).after [.ask { service := "users" } 1, .turn 0 .arrive]

/-- A failure is set and cleared, and an instance appears, before the query gets to look. -/
def hurried : List QueriesStep :=
  [.change (.setFailure (some (.transport "boom"))), .change (.setFailure none),
    .change (.setInstances "users" ["a:1"]), .turn 0 .notice]

/-- A failure that is cleared before a query that waits gets to look never answers it, although it was
the first thing there was to see. -/
theorem cleared_before_looking :
    firstNews { service := "users" } 1 parkedAtEmpty hurried
        = some (0, .failed (.transport "boom")) ∧
      (parkedAtEmpty.after hurried).answered = [⟨0, .found ["a:1"] 2, 0⟩] := by
  decide

end Queries

end Switchboard
