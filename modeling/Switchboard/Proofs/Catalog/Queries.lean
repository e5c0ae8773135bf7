import Mathlib.Data.List.Nodup
import Switchboard.Backend.Queries
import Switchboard.Proofs.Catalog.Course
/-!
# Queries side by side

Any number of queries wait at one catalog, each for its own answer, while the catalog is changed, more
queries are sent and time passes. A run is driven by turns: at any moment a query may move on if it
can, and nothing says which one does, or when.

* `QueriesStep`, `Queries.step`, `Queries.after` — the steps; a turn that cannot be taken is skipped,
  so that every list of steps is a run.
* `TurnTo` — everything a turn of one query can lead to; `Moves`, `moves_step` is the inversion lemma
  that all later statements are derived from.
* `open?_put_of_ne`, `open?_put_of_ready` — a turn of one query leaves all the others where they
  are, and one that is answered is open no more.
* `Orderly` — every query has a number of its own, and is answered at most once.
-/

namespace Switchboard

/-- What can happen to queries at a catalog. -/
inductive QueriesStep
  | ask (q : ServiceQuery) (last : Nat)
  | turn (number : Nat) (t : QueryTurn)
  | change (ch : Catalog.Change)
  | wait (ms : Nat)
  deriving DecidableEq, Repr

/-- A catalog looks the same until it is written to. -/
theorem Catalog.Later.look_eq {c d : Catalog} (h : c.Later d) (hrevision : c.revision = d.revision)
    (q : ServiceQuery) (last : Nat) : d.look q last = c.look q last := by
  obtain ⟨hindex, hfailure⟩ := h.unwritten hrevision
  have htable := h.table_eq hindex
  unfold look current matching
  rw [hindex, hfailure, htable]

namespace Queries

/-- Queries at a catalog, before the first is sent. -/
def start (c : Catalog) (patience : Option Nat) (now : Nat) : Queries :=
  { now, backend := .catalog c patience }

/-- The catalog. -/
def catalog (s : Queries) : Catalog := s.backend.theCatalog

/-- The query of a number, if it is not answered yet. -/
def open? (s : Queries) (number : Nat) : Option OpenQuery :=
  s.waiting.find? fun o => o.number = number

/-- A query stands somewhere else, and is answered if its reply is ready. -/
def put (s : Queries) (number : Nat) (backend : Backend) (inquiry : Inquiry) : Queries :=
  match inquiry.ready? s.now with
  | some reply =>
    { s with
      backend
      waiting := s.waiting.filter fun o => o.number ≠ number
      answered := s.answered ++ [⟨number, reply.toAnswer, s.now⟩] }
  | none =>
    { s with
      backend
      waiting := s.waiting.map fun o => if o.number = number then { o with inquiry } else o }

/-- A step. -/
def step (s : Queries) : QueriesStep → Queries
  | .ask q last => s.ask q last
  | .change ch => s.change ch
  | .wait ms => { s with now := s.now + ms }
  | .turn number t =>
    match s.open? number with
    | some o =>
      if t ∈ o.inquiry.turns s.now s.backend.revision then
        s.put number (s.backend.progress o.query s.now o.last o.inquiry t).1
          (s.backend.progress o.query s.now o.last o.inquiry t).2
      else s
    | none => s

/-- The queries after steps. -/
def after (s : Queries) (steps : List QueriesStep) : Queries := steps.foldl step s

theorem after_cons (s : Queries) (a : QueriesStep) (l : List QueriesStep) :
    s.after (a :: l) = (s.step a).after l := rfl

theorem after_append (s : Queries) (l m : List QueriesStep) :
    s.after (l ++ m) = (s.after l).after m := List.foldl_append

/-! ## What a turn can do -/

/-- Everything that a turn of the query `o` at the catalog `c` can lead to: the catalog after it, and
where the query then stands. -/
inductive TurnTo (c : Catalog) (patience : Option Nat) (now : Nat) (o : OpenQuery) :
    QueryTurn → Catalog → Inquiry → Prop
  | queued {why : DiscoveryFailure} {rest : List DiscoveryFailure} (sent : o.inquiry = .sent)
      (hqueued : c.queued = why :: rest) :
    TurnTo c patience now o .arrive { c with queued := rest, queries := c.queries + 1 }
      (.replied (some now) (.answer (.failed why)))
  | atOnce {a : Answer} (sent : o.inquiry = .sent) (hqueued : c.queued = [])
      (look : c.look o.query o.last = some a) :
    TurnTo c patience now o .arrive { c with queries := c.queries + 1 }
      (.replied (some now) (.answer a))
  | parks (sent : o.inquiry = .sent) (hqueued : c.queued = [])
      (look : c.look o.query o.last = none) :
    TurnTo c patience now o .arrive { c with queries := c.queries + 1 }
      (.parked c.revision (patience.map (now + ·)))
  | told {seen : Nat} {giveUpAt : Option Nat} {a : Answer}
      (parked : o.inquiry = .parked seen giveUpAt) (written : seen ≠ c.revision)
      (look : c.look o.query o.last = some a) :
    TurnTo c patience now o .notice c (.replied (some now) (.answer a))
  | waitsOn {seen : Nat} {giveUpAt : Option Nat} (parked : o.inquiry = .parked seen giveUpAt)
      (written : seen ≠ c.revision) (look : c.look o.query o.last = none) :
    TurnTo c patience now o .notice c (.parked c.revision giveUpAt)
  | gaveUp {seen : Nat} {giveUpAt : Option Nat} (parked : o.inquiry = .parked seen giveUpAt)
      (due : hasCome now giveUpAt = true) :
    TurnTo c patience now o .expire c (.replied (some now) (.answer (c.current o.query)))

/-- Where a turn leads at a catalog. -/
theorem turnTo_progress (c : Catalog) (patience : Option Nat) (now : Nat) {o : OpenQuery}
    {t : QueryTurn} (h : t ∈ o.inquiry.turns now c.revision) :
    ∃ c' i, (Backend.catalog c patience).progress o.query now o.last o.inquiry t
        = (.catalog c' patience, i) ∧ TurnTo c patience now o t c' i := by
  cases hi : o.inquiry with
  | replied due reply =>
    rw [hi] at h
    exact absurd h List.not_mem_nil
  | sent =>
    rw [hi] at h
    obtain rfl := List.mem_singleton.mp h
    cases hqueued : c.queued with
    | cons why rest =>
      refine ⟨_, _, ?_, .queued hi hqueued⟩
      simp [Backend.progress, Backend.enter, Catalog.enter, hqueued]
    | nil =>
      -- counting the query makes no difference to what it sees
      have hsame : Catalog.look { c with queued := [], queries := c.queries + 1 } o.query o.last
          = c.look o.query o.last := rfl
      cases hlook : c.look o.query o.last with
      | some a =>
        refine ⟨_, _, ?_, .atOnce hi hqueued hlook⟩
        rw [hlook] at hsame
        simp [Backend.progress, Backend.enter, Catalog.enter, hqueued, hsame]
      | none =>
        refine ⟨_, _, ?_, .parks hi hqueued hlook⟩
        rw [hlook] at hsame
        simp [Backend.progress, Backend.enter, Catalog.enter, hqueued, hsame]
  | parked seen giveUpAt =>
    rw [hi] at h
    rcases List.mem_append.mp h with h | h
    · have hwritten : seen ≠ c.revision := by
        intro heq
        rw [if_neg (not_not.mpr heq)] at h
        exact absurd h List.not_mem_nil
      rw [if_pos hwritten] at h
      obtain rfl := List.mem_singleton.mp h
      cases hlook : c.look o.query o.last with
      | some a =>
        refine ⟨_, _, ?_, .told hi hwritten hlook⟩
        simp [Backend.progress, Backend.look, hlook]
      | none =>
        refine ⟨_, _, ?_, .waitsOn hi hwritten hlook⟩
        simp [Backend.progress, Backend.look, Backend.revision, hlook]
    · have hdue : hasCome now giveUpAt = true := by
        by_contra hnot
        rw [if_neg hnot] at h
        exact absurd h List.not_mem_nil
      rw [if_pos hdue] at h
      obtain rfl := List.mem_singleton.mp h
      exact ⟨_, _, rfl, .gaveUp hi hdue⟩

/-- Everything that a step can do at the catalog `c`. -/
inductive Moves (c : Catalog) (patience : Option Nat) (s : Queries) : QueriesStep → Queries → Prop
  | ask (q : ServiceQuery) (last : Nat) : Moves c patience s (.ask q last) (s.ask q last)
  | change (ch : Catalog.Change) : Moves c patience s (.change ch)
      { s with backend := .catalog (c.apply ch) patience }
  | wait (ms : Nat) : Moves c patience s (.wait ms) { s with now := s.now + ms }
  | skip (number : Nat) (t : QueryTurn) : Moves c patience s (.turn number t) s
  | turn {number : Nat} {t : QueryTurn} {o : OpenQuery} {c' : Catalog} {i : Inquiry}
      (hopen : s.open? number = some o) (leads : TurnTo c patience s.now o t c' i) :
    Moves c patience s (.turn number t) (s.put number (.catalog c' patience) i)

/-- **A step does one of these.** -/
theorem moves_step {c : Catalog} {patience : Option Nat} {s : Queries}
    (hbackend : s.backend = .catalog c patience) (a : QueriesStep) :
    Moves c patience s a (s.step a) := by
  cases a with
  | ask q last => exact .ask q last
  | wait ms => exact .wait ms
  | change ch =>
    have hmove : Moves c patience s _ _ := .change ch
    rw [step, Queries.change, hbackend]
    exact hmove
  | turn number t =>
    rw [step]
    cases hopen : s.open? number with
    | none => exact .skip number t
    | some o =>
      simp only [hbackend]
      split
      · rename_i ht
        obtain ⟨c', i, hprogress, hto⟩ := turnTo_progress c patience s.now ht
        rw [hprogress]
        exact .turn hopen hto
      · exact .skip number t

/-- A turn that can be taken is taken. -/
theorem step_turn {c : Catalog} {patience : Option Nat} {s : Queries}
    (hbackend : s.backend = .catalog c patience) {number : Nat} {t : QueryTurn} {o : OpenQuery}
    (hopen : s.open? number = some o) (ht : t ∈ o.inquiry.turns s.now c.revision) :
    ∃ c' i, TurnTo c patience s.now o t c' i ∧
      s.step (.turn number t) = s.put number (.catalog c' patience) i := by
  obtain ⟨c', i, hprogress, hto⟩ := turnTo_progress c patience s.now ht
  refine ⟨c', i, hto, ?_⟩
  have ht' : t ∈ o.inquiry.turns s.now (Backend.catalog c patience).revision := ht
  simp only [step, hopen, hbackend, if_pos ht', hprogress]

/-! ### What becomes of the catalog -/

section Turns

variable {c c' : Catalog} {patience : Option Nat} {now : Nat} {o : OpenQuery} {t : QueryTurn}
  {i : Inquiry}

/-- A turn writes nothing: at most it counts a query and uses up a failure. -/
theorem TurnTo.unwritten (h : TurnTo c patience now o t c' i) :
    ∃ queued queries, c' = { c with queued, queries } := by
  cases h with
  | queued sent hqueued => exact ⟨_, _, rfl⟩
  | atOnce sent hqueued look | parks sent hqueued look => exact ⟨c.queued, _, rfl⟩
  | told parked written look | waitsOn parked written look | gaveUp parked due =>
    exact ⟨c.queued, c.queries, rfl⟩

theorem TurnTo.later (h : TurnTo c patience now o t c' i) : c.Later c' := by
  obtain ⟨queued, queries, rfl⟩ := h.unwritten
  exact ⟨Nat.le_refl _, Nat.le_refl _, fun _ => rfl, fun _ => ⟨rfl, rfl⟩⟩

theorem TurnTo.revision_eq (h : TurnTo c patience now o t c' i) : c'.revision = c.revision := by
  obtain ⟨queued, queries, rfl⟩ := h.unwritten
  rfl

theorem TurnTo.failure_eq (h : TurnTo c patience now o t c' i) : c'.failure = c.failure := by
  obtain ⟨queued, queries, rfl⟩ := h.unwritten
  rfl

theorem TurnTo.queued_subset (h : TurnTo c patience now o t c' i) : c'.queued ⊆ c.queued := by
  cases h with
  | queued sent hqueued => exact hqueued ▸ List.subset_cons_self _ _
  | _ => exact List.Subset.refl _

/-- An answer that was just given is ready. -/
theorem ready?_replied (now : Nat) (a : Answer) :
    (Inquiry.replied (some now) (.answer a)).ready? now = some (.answer a) :=
  if_pos (decide_eq_true (Nat.le_refl now))

/-- After a turn a query has its answer, or waits. -/
theorem TurnTo.ready (h : TurnTo c patience now o t c' i) :
    (∃ a, i = .replied (some now) (.answer a) ∧ i.ready? now = some (.answer a)) ∨
      (∃ seen giveUpAt, i = .parked seen giveUpAt ∧ i.ready? now = none) := by
  cases h with
  | queued | atOnce | told | gaveUp => exact .inl ⟨_, rfl, ready?_replied now _⟩
  | parks | waitsOn => exact .inr ⟨_, _, rfl, rfl⟩

end Turns

/-! ### What becomes of the queries -/

section Put

variable {s : Queries} {number k : Nat} {backend : Backend} {i : Inquiry}

theorem put_of_ready {reply : Reply} (h : i.ready? s.now = some reply) :
    s.put number backend i =
      { s with
        backend
        waiting := s.waiting.filter fun o => o.number ≠ number
        answered := s.answered ++ [⟨number, reply.toAnswer, s.now⟩] } := by
  rw [put, h]

theorem put_of_not_ready (h : i.ready? s.now = none) :
    s.put number backend i =
      { s with
        backend
        waiting := s.waiting.map fun o =>
          if o.number = number then { o with inquiry := i } else o } := by
  rw [put, h]

@[simp] theorem put_backend : (s.put number backend i).backend = backend := by
  unfold put
  cases i.ready? s.now <;> rfl

@[simp] theorem put_catalog (c : Catalog) (patience : Option Nat) :
    (s.put number (.catalog c patience) i).catalog = c := by
  rw [catalog, put_backend]
  rfl

@[simp] theorem put_now : (s.put number backend i).now = s.now := by
  unfold put
  cases i.ready? s.now <;> rfl

@[simp] theorem put_sent : (s.put number backend i).sent = s.sent := by
  unfold put
  cases i.ready? s.now <;> rfl

/-- The other queries stay where they are. -/
theorem open?_put_of_ne (hne : k ≠ number) : (s.put number backend i).open? k = s.open? k := by
  cases hready : i.ready? s.now with
  | some reply =>
    rw [put_of_ready hready, open?, open?, List.find?_filter]
    congr 1
    funext o
    by_cases hk : o.number = k
    · simp [hk, hne]
    · simp [hk]
  | none =>
    have hnumber : ((fun o : OpenQuery => decide (o.number = k)) ∘ fun o =>
        if o.number = number then { o with inquiry := i } else o)
          = fun o => decide (o.number = k) := by
      funext o
      by_cases ho : o.number = number <;> simp [ho]
    rw [put_of_not_ready hready, open?, open?, List.find?_map, hnumber]
    cases hfind : s.waiting.find? fun o => o.number = k with
    | none => rfl
    | some o =>
      have ho : o.number = k := by simpa using List.find?_some hfind
      have hother : o.number ≠ number := ho ▸ hne
      simp [hother]

/-- A query that is answered is open no more. -/
theorem open?_put_of_ready {reply : Reply} (h : i.ready? s.now = some reply) :
    (s.put number backend i).open? number = none := by
  rw [put_of_ready h, open?, List.find?_filter]
  refine List.find?_eq_none.mpr fun o _ => ?_
  simp

/-- One that is not stands where it was put. -/
theorem open?_put_of_not_ready {o : OpenQuery} (h : i.ready? s.now = none)
    (hopen : s.open? number = some o) :
    (s.put number backend i).open? number = some { o with inquiry := i } := by
  have hnumber : ((fun o : OpenQuery => decide (o.number = number)) ∘ fun o =>
      if o.number = number then { o with inquiry := i } else o)
        = fun o => decide (o.number = number) := by
    funext o
    by_cases ho : o.number = number <;> simp [ho]
  have hfind : s.waiting.find? (fun o => o.number = number) = some o := hopen
  have ho : o.number = number := by simpa using List.find?_some hfind
  rw [put_of_not_ready h, open?, List.find?_map, hnumber, hfind]
  simp [ho]

/-- A new query does not get in the way of one that was sent before. -/
theorem open?_ask {o : OpenQuery} (h : s.open? number = some o) (q : ServiceQuery) (last : Nat) :
    (s.ask q last).open? number = some o := by
  have hfind : s.waiting.find? (fun o => o.number = number) = some o := h
  rw [open?, ask, List.find?_append, hfind]
  rfl

end Put

/-! ## Along a run -/

section Runs

variable {s : Queries} {patience : Option Nat}

/-- The catalog stays a catalog, and what it was says what it can become. -/
theorem backend_step (hbackend : s.backend = .catalog s.catalog patience) (a : QueriesStep) :
    (s.step a).backend = .catalog (s.step a).catalog patience ∧
      s.catalog.Later (s.step a).catalog := by
  have hmove := moves_step hbackend a
  generalize s.step a = s' at hmove ⊢
  cases hmove with
  | ask q last => exact ⟨hbackend, .refl _⟩
  | wait ms => exact ⟨hbackend, .refl _⟩
  | skip number t => exact ⟨hbackend, .refl _⟩
  | change ch => exact ⟨rfl, Catalog.later_apply _ ch⟩
  | turn hopen leads =>
    rw [put_backend, put_catalog]
    exact ⟨rfl, leads.later⟩

/-- Answers are never taken back. -/
theorem answered_prefix_step (hbackend : s.backend = .catalog s.catalog patience)
    (a : QueriesStep) : s.answered <+: (s.step a).answered := by
  have hmove := moves_step hbackend a
  generalize s.step a = s' at hmove ⊢
  cases hmove with
  | turn hopen leads =>
    rcases leads.ready with ⟨_, -, hready⟩ | ⟨_, _, -, hready⟩
    · rw [put_of_ready hready]
      exact List.prefix_append _ _
    · exact ⟨[], by rw [List.append_nil, put_of_not_ready hready]⟩
  | _ => exact List.prefix_rfl

theorem answered_prefix_after (hbackend : s.backend = .catalog s.catalog patience)
    (steps : List QueriesStep) : s.answered <+: (s.after steps).answered := by
  induction steps generalizing s with
  | nil => exact List.prefix_rfl
  | cons a rest ih =>
    exact (answered_prefix_step hbackend a).trans (ih (backend_step hbackend a).1)

end Runs

/-! ## Numbers -/

/-- Every query has a number of its own, and none that waits has a reply. -/
structure Orderly (patience : Option Nat) (s : Queries) : Prop where
  backend_eq : s.backend = .catalog s.catalog patience
  waiting_lt : ∀ o ∈ s.waiting, o.number < s.sent
  answered_lt : ∀ x ∈ s.answered, x.number < s.sent
  /-- No query waits twice, is answered twice, or waits although it was answered. -/
  waiting_nodup : (s.waiting.map OpenQuery.number).Nodup
  answered_nodup : (s.answered.map ClosedQuery.number).Nodup
  apart : ∀ o ∈ s.waiting, ∀ x ∈ s.answered, o.number ≠ x.number
  unreplied : ∀ o ∈ s.waiting, ∀ due reply, o.inquiry ≠ .replied due reply

section Order

variable {s : Queries} {patience : Option Nat}

theorem Orderly.start (c : Catalog) (patience : Option Nat) (now : Nat) :
    Orderly patience (start c patience now) where
  backend_eq := rfl
  waiting_lt _ h := absurd h List.not_mem_nil
  answered_lt _ h := absurd h List.not_mem_nil
  waiting_nodup := .nil
  answered_nodup := .nil
  apart _ h := absurd h List.not_mem_nil
  unreplied _ h := absurd h List.not_mem_nil

/-- A query that waits is the open one of its number. -/
theorem Orderly.open?_eq (h : Orderly patience s) {o : OpenQuery} (ho : o ∈ s.waiting) :
    s.open? o.number = some o := by
  have hsome : (s.open? o.number).isSome = true :=
    List.find?_isSome.mpr ⟨o, ho, decide_eq_true rfl⟩
  obtain ⟨p, hp⟩ := Option.isSome_iff_exists.mp hsome
  have hfind : s.waiting.find? (fun p => p.number = o.number) = some p := hp
  have hnumber : p.number = o.number := by simpa using List.find?_some hfind
  rw [hp, List.inj_on_of_nodup_map h.waiting_nodup (List.mem_of_find?_eq_some hfind) ho hnumber]

theorem mem_of_open? {o : OpenQuery} {number : Nat} (h : s.open? number = some o) :
    o ∈ s.waiting ∧ o.number = number := by
  have hfind : s.waiting.find? (fun p => p.number = number) = some o := h
  exact ⟨List.mem_of_find?_eq_some hfind, by simpa using List.find?_some hfind⟩

/-- Asking gives out the next number. -/
theorem Orderly.ask (h : Orderly patience s) (q : ServiceQuery) (last : Nat) :
    Orderly patience (s.ask q last) where
  backend_eq := h.backend_eq
  waiting_lt o ho := by
    rcases List.mem_append.mp ho with ho | ho
    · exact Nat.lt_succ_of_lt (h.waiting_lt o ho)
    · rw [List.mem_singleton.mp ho]
      exact Nat.lt_succ_self _
  answered_lt x hx := Nat.lt_succ_of_lt (h.answered_lt x hx)
  waiting_nodup := by
    show ((s.waiting ++ [_]).map OpenQuery.number).Nodup
    rw [List.map_append, List.map_singleton]
    refine h.waiting_nodup.append (List.nodup_singleton _) fun n hn hnew => ?_
    obtain ⟨o, ho, rfl⟩ := List.mem_map.mp hn
    exact absurd (List.mem_singleton.mp hnew) (Nat.ne_of_lt (h.waiting_lt o ho))
  answered_nodup := h.answered_nodup
  apart o ho x hx := by
    rcases List.mem_append.mp ho with ho | ho
    · exact h.apart o ho x hx
    · rw [List.mem_singleton.mp ho]
      exact Nat.ne_of_gt (h.answered_lt x hx)
  unreplied o ho := by
    rcases List.mem_append.mp ho with ho | ho
    · exact h.unreplied o ho
    · rw [List.mem_singleton.mp ho]
      exact nofun

/-- A query that moves on keeps its number, and gives it up when it is answered. -/
theorem Orderly.put (h : Orderly patience s) {number : Nat} {o : OpenQuery}
    (hopen : s.open? number = some o) {t : QueryTurn} {c' : Catalog} {i : Inquiry}
    (leads : TurnTo s.catalog patience s.now o t c' i) :
    Orderly patience (s.put number (.catalog c' patience) i) := by
  obtain ⟨ho, hnumber⟩ := mem_of_open? hopen
  have hlt : number < s.sent := hnumber ▸ h.waiting_lt o ho
  have hbackend : ∀ s' : Queries, s'.backend = .catalog c' patience →
      s'.backend = .catalog s'.catalog patience := by
    intro s' hs'
    rw [catalog, hs']
    rfl
  rcases leads.ready with ⟨a, -, hready⟩ | ⟨seen, giveUpAt, rfl, hready⟩
  · rw [put_of_ready hready]
    refine { backend_eq := hbackend _ rfl
             waiting_lt := fun p hp => h.waiting_lt p (List.mem_of_mem_filter hp)
             answered_lt := fun x hx => ?_
             waiting_nodup := h.waiting_nodup.sublist (List.Sublist.map _ List.filter_sublist)
             answered_nodup := ?_
             apart := fun p hp x hx => ?_
             unreplied := fun p hp => h.unreplied p (List.mem_of_mem_filter hp) }
    · rcases List.mem_append.mp hx with hx | hx
      · exact h.answered_lt x hx
      · rw [List.mem_singleton.mp hx]
        exact hlt
    · show ((s.answered ++ [_]).map ClosedQuery.number).Nodup
      rw [List.map_append, List.map_singleton]
      refine h.answered_nodup.append (List.nodup_singleton _) fun n hn hnew => ?_
      obtain ⟨x, hx, rfl⟩ := List.mem_map.mp hn
      exact h.apart o ho x hx (hnumber.trans (List.mem_singleton.mp hnew).symm)
    · obtain ⟨hp, hne⟩ := List.mem_filter.mp hp
      rcases List.mem_append.mp hx with hx | hx
      · exact h.apart p hp x hx
      · rw [List.mem_singleton.mp hx]
        exact of_decide_eq_true hne
  · rw [put_of_not_ready hready]
    -- a query that waits on takes the place that it had
    have hmap : ∀ p ∈ s.waiting.map (fun p =>
        if p.number = number then { p with inquiry := .parked seen giveUpAt } else p),
        ∃ p' ∈ s.waiting, p'.number = p.number ∧
          (p = p' ∨ p.inquiry = .parked seen giveUpAt) := by
      intro p hp
      obtain ⟨p', hp', rfl⟩ := List.mem_map.mp hp
      refine ⟨p', hp', ?_⟩
      split
      · exact ⟨rfl, .inr rfl⟩
      · exact ⟨rfl, .inl rfl⟩
    refine { backend_eq := hbackend _ rfl
             waiting_lt := fun p hp => ?_
             answered_lt := h.answered_lt
             waiting_nodup := ?_
             answered_nodup := h.answered_nodup
             apart := fun p hp x hx => ?_
             unreplied := fun p hp => ?_ }
    · obtain ⟨p', hp', hsame, -⟩ := hmap p hp
      exact hsame ▸ h.waiting_lt p' hp'
    · have hnumbers : (s.waiting.map fun p =>
          if p.number = number then { p with inquiry := .parked seen giveUpAt } else p).map
            OpenQuery.number = s.waiting.map OpenQuery.number := by
        rw [List.map_map]
        refine List.map_congr_left fun p _ => ?_
        rw [Function.comp_apply]
        split <;> rfl
      exact hnumbers ▸ h.waiting_nodup
    · obtain ⟨p', hp', hsame, -⟩ := hmap p hp
      exact hsame ▸ h.apart p' hp' x hx
    · obtain ⟨p', hp', -, rfl | hparked⟩ := hmap p hp
      · exact h.unreplied p hp'
      · rw [hparked]
        exact nofun

theorem Orderly.step (h : Orderly patience s) (a : QueriesStep) : Orderly patience (s.step a) := by
  have hmove := moves_step h.backend_eq a
  generalize s.step a = s' at hmove ⊢
  cases hmove with
  | ask q last => exact h.ask q last
  | change ch => exact { h with backend_eq := rfl }
  | wait ms => exact { h with backend_eq := h.backend_eq }
  | skip number t => exact h
  | turn hopen leads => exact h.put hopen leads

theorem Orderly.after (h : Orderly patience s) (steps : List QueriesStep) :
    Orderly patience (s.after steps) := by
  induction steps generalizing s with
  | nil => exact h
  | cons a rest ih => exact ih (h.step a)

end Order

end Queries

end Switchboard
