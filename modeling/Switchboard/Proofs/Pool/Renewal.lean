import Switchboard.Proofs.Pool.Grace
/-!
# What a list of addresses makes of a pool

An open pool that takes a list keeps what it has of it, builds the rest, and gives up what is not
listed. This file says so address by address, for every pool that a run leads to and every factory.

* `lookup_gather_of_held`, `lookup_gather_of_built`, `lookup_gather_of_refused` — the entry of one
  address after going through a list: the old one, a new one, or none.
* `PoolEntry.terms` — what can be said of an entry without its serial number.
* `retried_after` — an address that was refused is tried again by the next list that has it.
* `Renewed` — the whole law; its last two clauses say that the order and the repetitions of a list
  do not count, and that no address depends on what becomes of another.
-/

namespace Switchboard

/-- What can be said of an entry whatever was built before it: the address that its endpoint
reaches, and whether it came with a handle. -/
def PoolEntry.terms (e : PoolEntry) : String × Bool := (e.endpoint.address, e.releasable)

namespace Pool

/-! ## The entry of one address -/

section Gather

variable {build : String → Build} {held : PoolEntries} {addrs : List String} {a : String}

/-- A listed address keeps its entry. -/
theorem lookup_gather_of_held {e : PoolEntry} (h : held.lookup a = some e) (n : Nat)
    (ha : a ∈ addrs) : (gather build held n addrs).entries.lookup a = some e := by
  refine gather_induction
    (motive := fun _ addrs g => a ∈ addrs → g.entries.lookup a = some e)
    ?nil ?kept ?fresh ?refused n addrs ha
  case nil => exact fun _ ha => nomatch ha
  case kept =>
    intro _ b rest e' hb g ih ha
    by_cases hab : a = b
    · subst hab
      rw [List.lookup_cons_self, ← hb, h]
    · rw [List.lookup_cons, beq_eq_false_iff_ne.mpr hab]
      exact ih ((List.mem_cons.mp ha).resolve_left hab)
  case fresh =>
    intro _ b rest releasable hb _ g ih ha
    have hab : a ≠ b := fun hab => nomatch (hab ▸ h).symm.trans hb
    rw [List.lookup_cons, beq_eq_false_iff_ne.mpr hab]
    exact ih ((List.mem_cons.mp ha).resolve_left hab)
  case refused =>
    intro _ b rest hb _ g ih ha
    have hab : a ≠ b := fun hab => nomatch (hab ▸ h).symm.trans hb
    exact ih ((List.mem_cons.mp ha).resolve_left hab)

theorem lookup_gather_of_built (h : held.lookup a = none) {releasable : Bool}
    (hb : build a = .built releasable) (n : Nat) (ha : a ∈ addrs) :
    ∃ serial, n < serial ∧
      (gather build held n addrs).entries.lookup a = some ⟨⟨serial, a⟩, releasable⟩ := by
  refine gather_induction
    (motive := fun n addrs g => a ∈ addrs → ∃ serial, n < serial ∧
      g.entries.lookup a = some ⟨⟨serial, a⟩, releasable⟩)
    ?nil ?kept ?fresh ?refused n addrs ha
  case nil => exact fun _ ha => nomatch ha
  case kept =>
    intro _ b rest e' hheld g ih ha
    have hab : a ≠ b := fun hab => nomatch (hab ▸ h).symm.trans hheld
    rw [List.lookup_cons, beq_eq_false_iff_ne.mpr hab]
    exact ih ((List.mem_cons.mp ha).resolve_left hab)
  case fresh =>
    intro n b rest releasable' _ hb' g ih ha
    by_cases hab : a = b
    · subst hab
      obtain rfl : releasable = releasable' := Build.built.inj (hb.symm.trans hb')
      exact ⟨n + 1, Nat.lt_succ_self n, List.lookup_cons_self⟩
    · obtain ⟨serial, hlt, hlookup⟩ := ih ((List.mem_cons.mp ha).resolve_left hab)
      refine ⟨serial, Nat.lt_of_succ_lt hlt, ?_⟩
      rw [List.lookup_cons, beq_eq_false_iff_ne.mpr hab]
      exact hlookup
  case refused =>
    intro _ b rest _ hb' g ih ha
    have hab : a ≠ b := fun hab => nomatch (hab ▸ hb).symm.trans hb'
    exact ih ((List.mem_cons.mp ha).resolve_left hab)

theorem lookup_gather_of_refused (h : held.lookup a = none) (hb : build a = .refused) (n : Nat)
    (addrs : List String) : (gather build held n addrs).entries.lookup a = none := by
  refine gather_induction (motive := fun _ _ g => g.entries.lookup a = none)
    ?nil ?kept ?fresh ?refused n addrs
  case nil => exact fun _ => rfl
  case kept =>
    intro _ b rest e' hheld g ih
    have hab : a ≠ b := fun hab => nomatch (hab ▸ h).symm.trans hheld
    rw [List.lookup_cons, beq_eq_false_iff_ne.mpr hab]
    exact ih
  case fresh =>
    intro _ b rest releasable _ hb' g ih
    have hab : a ≠ b := fun hab => nomatch (hab ▸ hb).symm.trans hb'
    rw [List.lookup_cons, beq_eq_false_iff_ne.mpr hab]
    exact ih
  case refused => exact fun _ _ _ _ _ _ ih => ih

theorem lookup_gather_of_unlisted (n : Nat) (ha : a ∉ addrs) :
    (gather build held n addrs).entries.lookup a = none :=
  lookup_eq_none_of_notMem fun h => ha ((keys_gather_sublist build held n addrs).subset h)

end Gather

/-- What becomes of an address that is listed: its entry is kept, or else it is dialled. -/
def outcome (held : PoolEntries) (build : String → Build) (a : String) : Option (String × Bool) :=
  match held.lookup a with
  | some e => some e.terms
  | none =>
    match build a with
    | .built releasable => some (a, releasable)
    | .refused => none

/-- What an address comes to is read off its own entry and its own build. -/
theorem terms_lookup_gather (build : String → Build) (held : PoolEntries) (n : Nat)
    {addrs : List String} {a : String} (ha : a ∈ addrs) :
    ((gather build held n addrs).entries.lookup a).map PoolEntry.terms
      = outcome held build a := by
  unfold outcome
  cases h : held.lookup a with
  | some e => rw [lookup_gather_of_held h n ha, Option.map_some]
  | none =>
    cases hb : build a with
    | built releasable =>
      obtain ⟨serial, -, hlookup⟩ := lookup_gather_of_built h hb n ha
      rw [hlookup]
      rfl
    | refused => rw [lookup_gather_of_refused h hb n addrs, Option.map_none]

theorem isSome_outcome (held : PoolEntries) (build : String → Build) (a : String) :
    (outcome held build a).isSome = ((held.lookup a).isSome || build a != .refused) := by
  unfold outcome
  cases held.lookup a with
  | some e => rfl
  | none => cases build a <;> rfl

/-! ## The next list -/

/-- Failures and reads leave an open pool's entries as they are or drop them all, and leave it
open. -/
theorem held_performAll_of_quiet {p : Pool} (hcalm : p.pending = none) (hpurged : p.purged = false)
    (hopen : p.closed = false) {ops : List (Nat × Op)} (hquiet : Quiet ops) :
    ((p.performAll ops).1.held = [] ∨ (p.performAll ops).1.held = p.held) ∧
      (p.performAll ops).1.closed = false := by
  refine ⟨?_, (open_performAll hopen fun o ho => (hquiet o ho).2).1⟩
  rw [performAll_eq_amid hcalm hpurged hopen hquiet,
    (held_served_amid p (outage? p.grace ops)).1]
  split
  · exact .inl rfl
  · exact .inr rfl

/-- A list makes an open pool call the factory for the addresses that have no entry. -/
theorem dialled_update {p : Pool} (hopen : p.closed = false) (build : String → Build) (now : Nat)
    (addrs : List String) :
    dialled (p.update build now (.instances addrs)).2
      = (ascending addrs).filter fun a => (p.held.lookup a).isNone := by
  rw [update_of_open hopen]
  show dialled ((gather build p.held p.built (ascending addrs)).events
    ++ releasesOf p.held (ascending addrs)) = _
  rw [dialled_append, dialled_gather, dialled_releasesOf, List.append_nil]

/-- An address without an entry is tried once by the next list that has it, whatever failures and
reads come before. -/
theorem retried_after {p : Pool} (hcalm : p.pending = none) (hpurged : p.purged = false)
    (hopen : p.closed = false) {a : String} (ha : p.held.lookup a = none)
    {between : List (Nat × Op)} (hquiet : Quiet between) (build : String → Build) (now : Nat)
    {addrs : List String} (hlisted : a ∈ addrs) :
    (dialled ((p.performAll between).1.update build now (.instances addrs)).2).count a = 1 := by
  obtain ⟨hheld, hopen'⟩ := held_performAll_of_quiet hcalm hpurged hopen hquiet
  have hnone : (p.performAll between).1.held.lookup a = none := by
    rcases hheld with hheld | hheld
    · rw [hheld]
      rfl
    · rw [hheld, ha]
  rw [dialled_update hopen']
  refine List.count_eq_one_of_mem ((pairwise_ascending addrs).nodup.filter _) ?_
  rw [List.mem_filter, mem_ascending, hnone]
  exact ⟨hlisted, rfl⟩

/-! ## The law -/

/-- What a list that comes at a moment makes of a pool `p`: the pool `q` and the events. -/
structure Renewed (p : Pool) (build : String → Build) (now : Nat) (addrs : List String)
    (q : Pool) (events : List PoolEvent) : Prop where
  served_eq : q.served = q.held.map fun r => r.2.endpoint
  /-- Served are, in ascending order and once each, the listed addresses that had an entry or were
  built now. -/
  addresses : q.served.map Endpoint.address
    = (ascending addrs).filter fun a => (p.held.lookup a).isSome || build a != .refused
  /-- A listed address that had an entry has the very same one, with its endpoint and handle. -/
  kept : ∀ a ∈ addrs, ∀ e, p.held.lookup a = some e → q.held.lookup a = some e
  /-- The factory is called once, in ascending order, for every other listed address, and for none
  that had an entry. -/
  dialled : dialled events = (ascending addrs).filter fun a => (p.held.lookup a).isNone
  /-- The handles of the entries that are not listed are released, and no other. -/
  freed : freed events = handlesOf (p.held.filter fun r => !addrs.contains r.1)
  /-- What a listed address comes to depends on nothing but its own entry and its own build. -/
  apart : ∀ a ∈ addrs, (q.held.lookup a).map PoolEntry.terms = outcome p.held build a
  /-- An address that was refused is tried again by the next list that has it, once, whatever
  failures and reads come before. -/
  retried : ∀ a ∈ addrs, p.held.lookup a = none → build a = .refused →
    ∀ between, Quiet between → ∀ (build' : String → Build) (later : Nat) (addrs' : List String),
      a ∈ addrs' → (Pool.dialled
        ((q.performAll between).1.update build' later (.instances addrs')).2).count a = 1
  /-- The order and the repetitions of the list do not count. -/
  unordered : ∀ addrs' : List String, (∀ a, a ∈ addrs' ↔ a ∈ addrs) →
    p.update build now (.instances addrs') = (q, events)

/-- Reconciling renews an open pool whose accounts are in order. -/
theorem Sound.renewed {p : Pool} {events : List PoolEvent} (h : Sound p events)
    (hopen : p.closed = false) (build : String → Build) (now : Nat) (addrs : List String) :
    Renewed p build now addrs (p.update build now (.instances addrs)).1
      (p.update build now (.instances addrs)).2 := by
  have hsound := sound_update h build now (.instances addrs)
  have hheld : (p.update build now (.instances addrs)).1.held
      = (gather build p.held p.built (ascending addrs)).entries := by
    rw [update_of_open hopen]
    rfl
  have hfresh : Fresh p.grace (p.perform now (.update build (.instances addrs))).1 :=
    fresh_perform_list hopen now rfl
  have hterms : ∀ a ∈ addrs, ((p.update build now (.instances addrs)).1.held.lookup a).map
      PoolEntry.terms = outcome p.held build a := fun a ha => by
    rw [hheld]
    exact terms_lookup_gather build p.held p.built (mem_ascending.mpr ha)
  refine { served_eq := hsound.served, addresses := ?_, kept := fun a ha e he => ?_,
           dialled := dialled_update hopen build now addrs, freed := ?_, apart := hterms,
           retried := fun a _ hnone hrefused between hquiet build' later addrs' ha' => ?_,
           unordered := fun addrs' hset => ?_ }
  · have hserved : (p.update build now (.instances addrs)).1.served.map Endpoint.address
        = (p.update build now (.instances addrs)).1.held.map Prod.fst := by
      rw [hsound.served, List.map_map]
      exact List.map_congr_left hsound.address
    rw [hserved]
    refine eq_of_pairwise_of_mem_iff hsound.keys ((pairwise_ascending addrs).filter _) fun a => ?_
    rw [List.mem_filter, mem_ascending, ← isSome_lookup_iff, ← isSome_outcome]
    by_cases ha : a ∈ addrs
    · rw [← hterms a ha, Option.isSome_map]
      exact ⟨fun hsome => ⟨ha, hsome⟩, fun hsome => hsome.2⟩
    · rw [hheld, lookup_gather_of_unlisted p.built (mt mem_ascending.mp ha)]
      exact ⟨fun hsome => (nomatch hsome), fun hmem => absurd hmem.1 ha⟩
  · rw [hheld]
    exact lookup_gather_of_held he p.built (mem_ascending.mpr ha)
  · rw [update_of_open hopen]
    show Pool.freed ((gather build p.held p.built (ascending addrs)).events
      ++ releasesOf p.held (ascending addrs)) = _
    rw [freed_append, freed_gather, List.nil_append, freed_releasesOf]
    refine congrArg handlesOf (List.filter_congr fun r _ => ?_)
    rw [Bool.eq_iff_iff]
    simp [mem_ascending]
  · have hlookup : (p.update build now (.instances addrs)).1.held.lookup a = none := by
      rw [hheld]
      exact lookup_gather_of_refused hnone hrefused p.built _
    exact retried_after hfresh.pending hfresh.purged hfresh.closed hlookup hquiet build' later ha'
  · rw [update_of_open hopen, update_of_open hopen, ascending_congr hset]

/-- **A list renews a pool**: whatever was done to an open pool, a list of addresses in any order
and with any repetitions makes it serve, in ascending order, the listed addresses that it had or
could build now. What it had of them it keeps as it was, the others are dialled once each, and the
handles of what is not listed are released. An address that is refused keeps no other from being
built, and is tried again by the next list that has it. -/
theorem renewed_performAll (grace : Option Duration) (ops : List (Nat × Op))
    (hopen : ((empty grace).performAll ops).1.closed = false) (build : String → Build) (now : Nat)
    (addrs : List String) :
    Renewed ((empty grace).performAll ops).1 build now addrs
      (((empty grace).performAll ops).1.update build now (.instances addrs)).1
      (((empty grace).performAll ops).1.update build now (.instances addrs)).2 :=
  (sound_performAll (sound_empty grace) ops).renewed hopen build now addrs

/-- Builds every address but `"c"`, each with a handle. -/
def allButC (a : String) : Build := if a = "c" then .refused else .built true

/-- After `b` and `a`, a list of `d`, `b`, `c` and `b` again keeps `b`, builds `d`, is refused `c`
and releases `a`. -/
theorem renewed_performAll_overlap :
    let p := ((empty none).performAll [(0, .update allButC (.instances ["b", "a"]))]).1
    let r := p.update allButC 1 (.instances ["d", "b", "c", "b"])
    p.closed = false ∧ r.1.served = [⟨2, "b"⟩, ⟨3, "d"⟩] ∧
      r.2 = [.refused "c", .built ⟨⟨3, "d"⟩, true⟩, .released ⟨1, "a"⟩] ∧
      Renewed p allButC 1 ["d", "b", "c", "b"] r.1 r.2 :=
  ⟨by decide, by decide, by decide, renewed_performAll none _ (by decide) allButC 1 _⟩

end Pool

end Switchboard
