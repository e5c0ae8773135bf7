import Switchboard.Proofs.Pool.Reconcile
/-!
# Who owns the handles of a pool

A pool takes a release handle over when it builds an endpoint and gives it up when the address of
the endpoint goes away. This file proves that no handle is lost and none is released twice or
while its endpoint is still served, whatever is done to the pool:

* `Op`, `performAll` — what can be done to a pool, and a run of it. The factory is part of each
  update, so that any address may fail at any time;
* `Stocked` — the part of the invariant that `reconcile` keeps (`stocked_reconcile`): the list that
  is served is read off the entries, and the handles handed out are those released and those held;
* `Sound` — the whole invariant, kept by every operation (`sound_perform`) and so by every run
  (`sound_performAll`);
* `Ownership`, `Spent` — what the invariant comes to in terms of handles, after every run, and
  after every run in which the pool was closed.

Moments are any numbers here: none of this depends on time going on between the operations.
-/

namespace Switchboard

namespace Pool

inductive Op
  /-- A snapshot arrives; building an endpoint comes to what the function says. -/
  | update (build : String → Build) (snapshot : Snapshot)
  | read
  | close

/-- The pool after an operation at a moment, and what it did to the outside. -/
def perform (p : Pool) (now : Nat) : Op → Pool × List PoolEvent
  | .update build snapshot => p.update build now snapshot
  | .read => ((p.read now).1, (p.read now).2.1)
  | .close => p.close

/-- The pool after operations at their moments, and all that they did to the outside. -/
def performAll (p : Pool) : List (Nat × Op) → Pool × List PoolEvent
  | [] => (p, [])
  | (now, op) :: rest =>
    let (p, events) := p.perform now op
    let (p, more) := p.performAll rest
    (p, events ++ more)

theorem performAll_append (p : Pool) (ops more : List (Nat × Op)) :
    p.performAll (ops ++ more)
      = (((p.performAll ops).1.performAll more).1,
          (p.performAll ops).2 ++ ((p.performAll ops).1.performAll more).2) := by
  induction ops generalizing p with
  | nil => rfl
  | cons op ops ih =>
    rw [List.cons_append, performAll, performAll]
    simp only [ih, List.append_assoc]

/-! ## What the operations do -/

theorem update_of_closed {p : Pool} (h : p.closed = true) (build : String → Build) (now : Nat)
    (addrs : List String) : p.update build now (.instances addrs) = (p, []) := by
  rw [update, if_pos h]

/-- An open pool reconciles with good news, after which no failure is pending. -/
theorem update_of_open {p : Pool} (h : p.closed = false) (build : String → Build) (now : Nat)
    (addrs : List String) :
    p.update build now (.instances addrs)
      = ({ (p.reconcile build (ascending addrs)).1 with
            pending := none, deadline := none, purged := false },
          (p.reconcile build (ascending addrs)).2) := by
  rw [update, if_neg (by simp [h])]

theorem reconcile_nil (p : Pool) (build : String → Build) :
    p.reconcile build [] = ({ p with held := [], served := [] }, releasesOf p.held []) := rfl

/-- A pool that may not hand its list out has a failure pending. -/
theorem exists_pending_of_not_isServing {p : Pool} {now : Nat} (h : p.isServing now = false) :
    ∃ why, p.pending = some why := by
  cases hp : p.pending with
  | some why => exact ⟨why, rfl⟩
  | none => simp [isServing, hp] at h

/-- A read serves the list; or it reports a failure whose entries were dropped before; or it drops
them and reports it. -/
theorem read_cases (p : Pool) (now : Nat) :
    (p.isServing now = true ∧ p.read now = (p, [], .ok p.served)) ∨
    (∃ why, p.pending = some why ∧ p.isServing now = false ∧ p.purged = true ∧
      p.read now = (p, [], .error why)) ∨
    (∃ why, p.pending = some why ∧ p.isServing now = false ∧ p.purged = false ∧
      p.read now = ({ p with purged := true, held := [], served := [] },
        releasesOf p.held [], .error why)) := by
  cases hs : p.isServing now with
  | true => exact .inl ⟨rfl, by simp [read, glance, hs]⟩
  | false =>
    obtain ⟨why, hwhy⟩ := exists_pending_of_not_isServing hs
    cases hp : p.purged with
    | true => exact .inr (.inl ⟨why, hwhy, rfl, rfl, by simp [read, glance, hs, hp, hwhy]⟩)
    | false =>
      refine .inr (.inr ⟨why, hwhy, rfl, rfl, ?_⟩)
      simp [read, glance, resolve, hs, hp, hwhy, reconcile_nil]

theorem closed_update (p : Pool) (build : String → Build) (now : Nat) (s : Snapshot) :
    (p.update build now s).1.closed = p.closed := by
  cases s with
  | failure why =>
    show (p.noteFailure now why).closed = p.closed
    unfold noteFailure
    split <;> rfl
  | instances addrs =>
    cases h : p.closed with
    | true => rw [update_of_closed h, h]
    | false =>
      rw [update_of_open h]
      exact h

theorem closed_read (p : Pool) (now : Nat) : (p.read now).1.closed = p.closed := by
  rcases read_cases p now with ⟨-, h⟩ | ⟨why, -, -, -, h⟩ | ⟨why, -, -, -, h⟩ <;> rw [h]

/-! ## What reconciling keeps -/

/-- The entries and the list that is served agree, and the handles handed out so far are those
released and those held. -/
structure Stocked (p : Pool) (events : List PoolEvent) : Prop where
  keys : (p.held.map Prod.fst).Pairwise (· < ·)
  address : ∀ r ∈ p.held, r.2.endpoint.address = r.1
  served : p.served = p.held.map fun r => r.2.endpoint
  handles : (granted events).Perm (freed events ++ handlesOf p.held)
  fresh : (granted events).Pairwise (·.serial < ·.serial)
  counted : ∀ e ∈ granted events, e.serial ≤ p.built

theorem stocked_empty (grace : Option Duration) : Stocked (empty grace) [] :=
  { keys := List.Pairwise.nil, address := fun _ hr => (nomatch hr), served := rfl,
    handles := List.Perm.refl [], fresh := List.Pairwise.nil,
    counted := fun _ he => (nomatch he) }

/-- The handles of old entries and of endpoints just built end up released or held. -/
theorem handles_reconcile (p : Pool) (build : String → Build) {addrs : List String}
    (hkeys : (p.held.map Prod.fst).Pairwise (· < ·)) (haddrs : addrs.Pairwise (· < ·)) :
    (handlesOf p.held ++ granted (p.reconcile build addrs).2).Perm
      (freed (p.reconcile build addrs).2 ++ handlesOf (p.reconcile build addrs).1.held) := by
  show (handlesOf p.held ++ granted ((gather build p.held p.built addrs).events
      ++ releasesOf p.held addrs)).Perm
    (freed ((gather build p.held p.built addrs).events ++ releasesOf p.held addrs)
      ++ handlesOf (gather build p.held p.built addrs).entries)
  rw [granted_append, granted_releasesOf, List.append_nil, freed_append, freed_gather,
    List.nil_append, freed_releasesOf]
  have hgather := handlesOf_gather_perm build hkeys.nodup p.built addrs haddrs.nodup
  have hsplit := handlesOf_perm (List.filter_append_perm (fun r => addrs.contains r.1) p.held)
  rw [handlesOf_append] at hsplit
  calc handlesOf p.held ++ granted (gather build p.held p.built addrs).events
      |>.Perm ((handlesOf (p.held.filter fun r => addrs.contains r.1)
          ++ handlesOf (p.held.filter fun r => !addrs.contains r.1))
          ++ granted (gather build p.held p.built addrs).events) := hsplit.symm.append_right _
    _ |>.Perm (handlesOf (p.held.filter fun r => !addrs.contains r.1)
          ++ (handlesOf (p.held.filter fun r => addrs.contains r.1)
          ++ granted (gather build p.held p.built addrs).events)) := by
        rw [← List.append_assoc]
        exact List.perm_append_comm.append_right _
    _ |>.Perm _ := hgather.symm.append_left _

/-- **Reconciling keeps the accounts**: with an ascending list, whatever the factory does. -/
theorem stocked_reconcile {p : Pool} {events : List PoolEvent} (h : Stocked p events)
    (build : String → Build) {addrs : List String} (haddrs : addrs.Pairwise (· < ·)) :
    Stocked (p.reconcile build addrs).1 (events ++ (p.reconcile build addrs).2) := by
  have hsub := keys_gather_sublist build p.held p.built addrs
  obtain ⟨hbuilt, hserials, hpair⟩ := serials_gather build p.held p.built addrs
  have hgranted : granted (p.reconcile build addrs).2
      = granted (gather build p.held p.built addrs).events := by
    show granted ((gather build p.held p.built addrs).events ++ releasesOf p.held addrs) = _
    rw [granted_append, granted_releasesOf, List.append_nil]
  refine { keys := haddrs.sublist hsub, address := ?_, served := ?_, handles := ?_, fresh := ?_,
           counted := ?_ }
  · exact address_of_mem_gather build p.held h.address p.built addrs
  · exact endpointsOf_eq_map hsub haddrs.nodup
  · rw [granted_append, freed_append, List.append_assoc]
    calc granted events ++ granted (p.reconcile build addrs).2
        |>.Perm ((freed events ++ handlesOf p.held) ++ granted (p.reconcile build addrs).2) :=
          h.handles.append_right _
      _ |>.Perm _ := by
          rw [List.append_assoc]
          exact (handles_reconcile p build h.keys haddrs).append_left _
  · rw [granted_append, hgranted]
    refine List.pairwise_append.mpr ⟨h.fresh, hpair, fun e he e' he' => ?_⟩
    exact Nat.lt_of_le_of_lt (h.counted e he) (hserials e' he').1
  · intro e he
    rw [granted_append, hgranted, List.mem_append] at he
    rcases he with he | he
    · exact Nat.le_trans (h.counted e he) hbuilt
    · exact (hserials e he).2

/-- The accounts do not depend on what is known of discovery. -/
theorem Stocked.congr {p p' : Pool} {events : List PoolEvent} (h : Stocked p events)
    (hheld : p'.held = p.held) (hserved : p'.served = p.served) (hbuilt : p'.built = p.built) :
    Stocked p' events :=
  { keys := hheld ▸ h.keys, address := hheld ▸ h.address,
    served := by rw [hserved, hheld, h.served], handles := hheld ▸ h.handles, fresh := h.fresh,
    counted := hbuilt ▸ h.counted }

/-! ## The invariant of a pool -/

/-- The invariant of a pool, over what it has done to the outside so far. -/
structure Sound (p : Pool) (events : List PoolEvent) : Prop extends Stocked p events where
  deadline : p.pending.isSome = p.deadline.isSome
  purged : p.purged = true → p.pending.isSome = true ∧ p.held = []
  closed : p.closed = true → p.held = []

theorem sound_empty (grace : Option Duration) : Sound (empty grace) [] :=
  { stocked_empty grace with
    deadline := rfl, purged := fun h => (nomatch h), closed := fun h => (nomatch h) }

theorem sound_noteFailure {p : Pool} {events : List PoolEvent} (h : Sound p events) (now : Nat)
    (why : DiscoveryFailure) : Sound (p.noteFailure now why) events := by
  unfold noteFailure
  split
  · rename_i _ _ _ _ _ hpending
    refine { h.toStocked.congr rfl rfl rfl with
             deadline := rfl, purged := fun hp => ?_, closed := h.closed }
    have hsome := (h.purged hp).1
    rw [hpending] at hsome
    exact nomatch hsome
  · exact h

theorem sound_update {p : Pool} {events : List PoolEvent} (h : Sound p events)
    (build : String → Build) (now : Nat) (snapshot : Snapshot) :
    Sound (p.update build now snapshot).1 (events ++ (p.update build now snapshot).2) := by
  cases snapshot with
  | failure why =>
    show Sound (p.noteFailure now why) (events ++ [])
    rw [List.append_nil]
    exact sound_noteFailure h now why
  | instances addrs =>
    cases hclosed : p.closed with
    | true =>
      rw [update_of_closed hclosed, List.append_nil]
      exact h
    | false =>
      rw [update_of_open hclosed]
      have hstocked := stocked_reconcile h.toStocked build (pairwise_ascending addrs)
      exact { hstocked.congr rfl rfl rfl with
              deadline := rfl, purged := fun hp => (nomatch hp),
              closed := fun hc => absurd (hclosed.symm.trans hc) (by decide) }

theorem stocked_drop {p : Pool} {events : List PoolEvent} (h : Stocked p events) :
    Stocked { p with held := [], served := [] } (events ++ releasesOf p.held []) :=
  stocked_reconcile h noBuild List.Pairwise.nil

theorem sound_read {p : Pool} {events : List PoolEvent} (h : Sound p events) (now : Nat) :
    Sound (p.read now).1 (events ++ (p.read now).2.1) := by
  rcases read_cases p now with ⟨-, hr⟩ | ⟨why, -, -, -, hr⟩ | ⟨why, hwhy, -, -, hr⟩
  · rw [hr, List.append_nil]
    exact h
  · rw [hr, List.append_nil]
    exact h
  · rw [hr]
    exact { (stocked_drop h.toStocked).congr rfl rfl rfl with
            deadline := h.deadline, purged := fun _ => ⟨by rw [hwhy]; rfl, rfl⟩,
            closed := fun _ => rfl }

theorem sound_close {p : Pool} {events : List PoolEvent} (h : Sound p events) :
    Sound p.close.1 (events ++ p.close.2) :=
  { (stocked_drop h.toStocked).congr rfl rfl rfl with
    deadline := h.deadline, purged := fun hp => ⟨(h.purged hp).1, rfl⟩, closed := fun _ => rfl }

/-- Every operation keeps the invariant. -/
theorem sound_perform {p : Pool} {events : List PoolEvent} (h : Sound p events) (now : Nat)
    (op : Op) : Sound (p.perform now op).1 (events ++ (p.perform now op).2) := by
  cases op with
  | update build snapshot => exact sound_update h build now snapshot
  | read => exact sound_read h now
  | close => exact sound_close h

/-- Every run keeps the invariant. -/
theorem sound_performAll {p : Pool} {events : List PoolEvent} (h : Sound p events)
    (ops : List (Nat × Op)) :
    Sound (p.performAll ops).1 (events ++ (p.performAll ops).2) := by
  induction ops generalizing p events with
  | nil =>
    show Sound p (events ++ [])
    rw [List.append_nil]
    exact h
  | cons op ops ih =>
    have hnext := ih (sound_perform h op.1 op.2)
    rw [List.append_assoc] at hnext
    exact hnext

/-! ## After the pool was closed -/

/-- A closed pool stays closed and calls the factory no more. -/
theorem perform_of_closed {p : Pool} (h : p.closed = true) (now : Nat) (op : Op) :
    (p.perform now op).1.closed = true ∧ dialled (p.perform now op).2 = [] := by
  cases op with
  | update build snapshot =>
    cases snapshot with
    | failure why =>
      show (p.noteFailure now why).closed = true ∧ _
      unfold noteFailure
      split
      · rename_i _ _ _ _ hc _
        rw [h] at hc
        exact nomatch hc
      · exact ⟨h, rfl⟩
    | instances addrs =>
      rw [perform, update_of_closed h]
      exact ⟨h, rfl⟩
  | read =>
    rw [perform]
    rcases read_cases p now with ⟨-, hr⟩ | ⟨why, -, -, -, hr⟩ | ⟨why, -, -, -, hr⟩
    · rw [hr]
      exact ⟨h, rfl⟩
    · rw [hr]
      exact ⟨h, rfl⟩
    · rw [hr]
      exact ⟨h, dialled_releasesOf p.held []⟩
  | close => exact ⟨rfl, dialled_releasesOf p.held []⟩

theorem performAll_of_closed {p : Pool} (h : p.closed = true) (ops : List (Nat × Op)) :
    (p.performAll ops).1.closed = true ∧ dialled (p.performAll ops).2 = [] := by
  induction ops generalizing p with
  | nil => exact ⟨h, rfl⟩
  | cons op ops ih =>
    obtain ⟨hclosed, hdialled⟩ := perform_of_closed h op.1 op.2
    obtain ⟨hend, hrest⟩ := ih hclosed
    refine ⟨hend, ?_⟩
    show dialled ((p.perform op.1 op.2).2 ++ ((p.perform op.1 op.2).1.performAll ops).2) = []
    rw [dialled_append, hdialled, hrest]
    rfl

/-! ## What it comes to -/

/-- What holds of a pool that has done `events` to the outside so far. -/
structure Ownership (p : Pool) (events : List PoolEvent) : Prop where
  /-- The endpoints of the entries are served, in the order of the entries. -/
  served_eq : p.served = p.held.map fun r => r.2.endpoint
  /-- The addresses that entries stand under are strictly ascending, so there is one for each. -/
  keys_ascending : (p.held.map Prod.fst).Pairwise (· < ·)
  /-- The endpoint of an entry reaches the address the entry stands under. -/
  address_eq : ∀ r ∈ p.held, r.2.endpoint.address = r.1
  /-- A failure is pending iff a deadline is set. -/
  pending_iff : p.pending.isSome = true ↔ p.deadline.isSome = true
  /-- Entries are dropped over a pending failure, and then nothing is held or served. -/
  purged_imp : p.purged = true → p.pending.isSome = true ∧ p.held = [] ∧ p.served = []
  /-- The factory never hands out the same handle twice. -/
  granted_nodup : (granted events).Nodup
  /-- No handle is released twice. -/
  freed_nodup : (freed events).Nodup
  /-- Only handles that were handed out are released. -/
  granted_of_freed : ∀ e ∈ freed events, e ∈ granted events
  /-- The handles that entries hold are those handed out and not released yet. -/
  mem_held_iff : ∀ e, e ∈ handlesOf p.held ↔ e ∈ granted events ∧ e ∉ freed events

theorem Stocked.granted_nodup {p : Pool} {events : List PoolEvent} (h : Stocked p events) :
    (granted events).Nodup := by
  refine h.fresh.imp ?_
  intro a b hlt heq
  rw [heq] at hlt
  exact Nat.lt_irrefl _ hlt

/-- The handles held are those handed out and not released: the two lists on the right of the
account have no handle in common, as the left has none twice. -/
theorem Stocked.mem_handlesOf_held {p : Pool} {events : List PoolEvent} (h : Stocked p events)
    (e : Endpoint) : e ∈ handlesOf p.held ↔ e ∈ granted events ∧ e ∉ freed events := by
  have hnodup : (freed events ++ handlesOf p.held).Nodup :=
    h.handles.nodup_iff.mp h.granted_nodup
  have hdisjoint := (List.nodup_append.mp hnodup).2.2
  constructor
  · intro he
    refine ⟨h.handles.mem_iff.mpr (List.mem_append_right _ he), fun hfreed => ?_⟩
    exact hdisjoint e hfreed e he rfl
  · rintro ⟨he, hfreed⟩
    rcases List.mem_append.mp (h.handles.mem_iff.mp he) with hf | hheld
    · exact absurd hf hfreed
    · exact hheld

theorem Sound.ownership {p : Pool} {events : List PoolEvent} (h : Sound p events) :
    Ownership p events where
  served_eq := h.served
  keys_ascending := h.keys
  address_eq := h.address
  pending_iff := by rw [h.deadline]
  purged_imp hp := by
    obtain ⟨hpending, hheld⟩ := h.purged hp
    exact ⟨hpending, hheld, by rw [h.served, hheld]; rfl⟩
  granted_nodup := h.granted_nodup
  freed_nodup := (List.nodup_append.mp (h.handles.nodup_iff.mp h.granted_nodup)).1
  granted_of_freed e he := h.handles.mem_iff.mpr (List.mem_append_left _ he)
  mem_held_iff := h.mem_handlesOf_held

/-- What holds for ever of a pool that was closed, when it had done `before` to the outside by
then, and `events` by now. -/
structure Spent (p : Pool) (before events : List PoolEvent) : Prop where
  /-- Nothing is held, and nothing served. -/
  held_eq : p.held = []
  served_eq : p.served = []
  /-- The factory was not called any more. -/
  undialled : dialled events = dialled before
  /-- No handle remains. -/
  released : ∀ e ∈ granted events, e ∈ freed events

/-- A pool that is closed after some operations is spent, whatever is done to it later. -/
theorem spent_of_close {p : Pool} (h : Sound p []) (ops later : List (Nat × Op)) (now : Nat) :
    Spent (p.performAll (ops ++ (now, .close) :: later)).1 (p.performAll ops).2
      (p.performAll (ops ++ (now, .close) :: later)).2 := by
  have hrun := sound_performAll h (ops ++ (now, .close) :: later)
  obtain ⟨hclosed, hquiet⟩ :=
    performAll_of_closed (p := (p.performAll ops).1.close.1) rfl later
  have hend : (p.performAll (ops ++ (now, .close) :: later)).1.closed = true := by
    rw [performAll_append]
    exact hclosed
  have hheld := hrun.closed hend
  refine ⟨hheld, by rw [hrun.served, hheld]; rfl, ?_, fun e he => ?_⟩
  · rw [performAll_append, dialled_append]
    show _ ++ dialled ((p.performAll ops).1.close.2
      ++ ((p.performAll ops).1.close.1.performAll later).2) = _
    have hclose : dialled (p.performAll ops).1.close.2 = [] := dialled_releasesOf _ []
    rw [dialled_append, hquiet, hclose, List.append_nil, List.append_nil]
  · -- a handle that was not released would be held, and none is
    by_contra hfreed
    have hmem := (hrun.mem_handlesOf_held e).mpr ⟨he, hfreed⟩
    rw [hheld] at hmem
    exact nomatch hmem

/-- An open pool that takes a list holds an entry for each of its addresses that can be dialled. -/
theorem mem_keys_update {p : Pool} (h : p.closed = false) (build : String → Build) (now : Nat)
    {addrs : List String} {a : String} (ha : a ∈ addrs) (hbuild : build a ≠ .refused) :
    a ∈ (p.update build now (.instances addrs)).1.held.map Prod.fst := by
  rw [update_of_open h]
  exact mem_keys_gather build _ _ _ (mem_ascending.mpr ha) hbuild

/-- **A pool owns its handles**: after any operations at any moments, with a factory that fails
as it likes, what is served are the endpoints of the entries in ascending order, and every handle
handed out is either held by an entry or was released once. An open pool that takes a list then
holds an entry for each of its addresses that can be dialled. And once the pool was closed, it holds
and serves nothing for ever, the factory is not called any more, and every handle is released. -/
theorem ownership_performAll (grace : Option Duration) (ops : List (Nat × Op)) :
    Ownership ((empty grace).performAll ops).1 ((empty grace).performAll ops).2 ∧
      (∀ (now : Nat) (build : String → Build) (addrs : List String),
        ((empty grace).performAll ops).1.closed = false →
          ∀ a ∈ addrs, build a ≠ .refused →
            a ∈ (((empty grace).performAll
              (ops ++ [(now, .update build (.instances addrs))])).1.held.map Prod.fst)) ∧
      ∀ (now : Nat) (later : List (Nat × Op)),
        Spent ((empty grace).performAll (ops ++ (now, .close) :: later)).1
          ((empty grace).performAll ops).2
          ((empty grace).performAll (ops ++ (now, .close) :: later)).2 := by
  refine ⟨?_, fun now build addrs hopen a ha hbuild => ?_, fun now later => ?_⟩
  · exact (sound_performAll (sound_empty grace) ops).ownership
  · rw [performAll_append]
    exact mem_keys_update hopen build now ha hbuild
  · exact spent_of_close (sound_empty grace) ops later now

end Pool

end Switchboard
