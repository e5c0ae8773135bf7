import Switchboard.Proofs.Catalog.Course
import Switchboard.Proofs.Catalog.Table
/-!
# Services side by side in one catalog

All services of a catalog share one table, and the identities in it are glued together from names
and addresses. Whoever announces instances of one service can meet with the identity of an instance
of another: `api` at `gateway-1:80` and `api-gateway` at `1:80` are the same text. The newer instance
takes the place of the older one then, which is lost to its own service.

* `Catalog.Event`, `Catalog.history` — catalogs after anything that can happen to them.
* `Catalog.Tells` — which instances a query is told of, however it comes to its answer.
* `Catalog.Spares` — what an operation on one service leaves to the others: all but the instances
  under the identities that it writes to.
* `Catalog.isolation_history` — the law for each operation, after every history, and the names with
  which no two services meet; `Catalog.lost_to_another_service` — how they meet.
-/

namespace Switchboard

namespace Catalog

/-! ## All that can happen -/

/-- Something that happens to a catalog. -/
inductive Event
  | change (ch : Change)
  | ask (q : ServiceQuery) (last : Nat)

/-- The catalog after something happened. -/
def happen (c : Catalog) : Event → Catalog
  | .change ch => c.apply ch
  | .ask q last => (c.enter q last).1

/-- The catalog that has such a history. -/
def history (events : List Event) : Catalog := events.foldl happen empty

variable {c d : Catalog} {q : ServiceQuery} {service : String} {ids : List String}

theorem table_enter (c : Catalog) (q : ServiceQuery) (last : Nat) :
    (c.enter q last).1.table = c.table := by
  obtain ⟨queued, queries, heq⟩ := c.enter_fst q last
  rw [heq]

theorem ascending_apply (h : c.table.Ascending) (ch : Change) : (c.apply ch).table.Ascending := by
  cases ch with
  | setInstances service addrs => exact ascending_replaceService h service addrs
  | setPassing id passing => exact h.setPassing id passing
  | setFailure failure => exact h
  | failNext why => exact h
  | register r => exact h.insert r.id _
  | deregister r => exact h.erase r.id

/-- What every event keeps holds of a catalog after every history, if it holds of the empty one. -/
theorem history_induction {P : Catalog → Prop} (events : List Event) (hempty : P empty)
    (hevent : ∀ c, ∀ e ∈ events, P c → P (c.happen e)) : P (history events) := by
  unfold history
  generalize empty = start at hempty ⊢
  induction events generalizing start with
  | nil => exact hempty
  | cons e rest ih =>
    have hrest : ∀ c, ∀ e' ∈ rest, P c → P (c.happen e') := fun c e' he' =>
      hevent c e' (List.mem_cons_of_mem e he')
    exact ih hrest (start.happen e) (hevent start e List.mem_cons_self hempty)

theorem ascending_happen (h : c.table.Ascending) (e : Event) : (c.happen e).table.Ascending := by
  cases e with
  | change ch => exact ascending_apply h ch
  | ask q last =>
    show (c.enter q last).1.table.Ascending
    rw [table_enter]
    exact h

theorem ascending_history (events : List Event) : (history events).table.Ascending :=
  history_induction (P := fun c => c.table.Ascending) events List.Pairwise.nil
    fun _ e _ hc => ascending_happen hc e

/-! ## What a query is told -/

/-- A query is told of these instances: when it comes in, when it looks again, and when it gives up
waiting, unless it is told of a failure. It is told at once if it does not wait and nothing fails. -/
structure Tells (c : Catalog) (q : ServiceQuery) (l : List String) : Prop where
  enter : ∀ last a, (c.enter q last).2 = some a → (∃ why, a = .failed why) ∨ a = .found l c.index
  look : ∀ last a, c.look q last = some a → (∃ why, a = .failed why) ∨ a = .found l c.index
  current : c.current q = .found l c.index
  atOnce : c.failure = none → c.queued = [] → (c.enter q noIndex).2 = some (.found l c.index)

/-- Every query is told of the instances that match it, and of no others. -/
theorem tells_iff {l : List String} : c.Tells q l ↔ c.matching q = l := by
  constructor
  · intro h
    exact (Answer.found.inj h.current).1
  · rintro rfl
    refine { enter := fun last a ha => ?_, look := fun last a ha => ?_, current := rfl,
             atOnce := fun hfailure hqueued => ?_ }
    · obtain ⟨queued, queries, heq⟩ := c.enter_fst q last
      have hanswer := enter_eq_some ha
      rw [heq] at hanswer
      exact hanswer
    · exact (look_eq_some ha).imp (fun ⟨why, _, heq⟩ => ⟨why, heq⟩) And.right
    · unfold Catalog.enter
      simp only [hqueued, Catalog.look, hfailure]
      rfl

/-! ## What is left to the others -/

/-- The addresses of the instances that fit a query and are under none of some identities. -/
def matchingBut (c : Catalog) (ids : List String) (q : ServiceQuery) : List String :=
  (c.table.rows.filter fun row => row.2.fits q && !ids.contains row.1).map fun row => row.2.address

/-- A catalog `c` turns into `d` by an operation on a service that writes to some identities. -/
structure Spares (c d : Catalog) (service : String) (ids : List String) : Prop where
  /-- Queries for others are told of the instances that are not under these identities, ... -/
  tells : ∀ q, q.service ≠ service → d.Tells q (c.matchingBut ids q)
  /-- ... so that they are told the same as before iff none is. -/
  tells_iff : ∀ q, q.service ≠ service → ((∀ l, d.Tells q l ↔ c.Tells q l) ↔
    ∀ row ∈ c.table.rows, row.2.fits q = true → row.1 ∉ ids)

theorem matchingBut_eq_iff :
    c.matchingBut ids q = c.matching q ↔
      ∀ row ∈ c.table.rows, row.2.fits q = true → row.1 ∉ ids := by
  have hkeep (row : String × Instance) :
      (row.2.fits q && !ids.contains row.1) = (!ids.contains row.1 && row.2.fits q) :=
    Bool.and_comm _ _
  rw [matchingBut, funext hkeep, ← List.filter_filter]
  show _ = (c.table.rows.filter fun row => row.2.fits q).map _ ↔ _
  constructor
  · -- a list of the same length has lost nothing
    intro heq row hrow hfit hid
    have hlength := congrArg List.length heq
    rw [List.length_map, List.length_map, List.length_filter_eq_length_iff] at hlength
    have hout := hlength row (List.mem_filter.mpr ⟨hrow, hfit⟩)
    rw [List.contains_iff_mem.mpr hid] at hout
    exact nomatch hout
  · intro hnone
    congr 1
    refine List.filter_eq_self.mpr fun row hrow => ?_
    obtain ⟨hmem, hfit⟩ := List.mem_filter.mp hrow
    rw [Bool.not_eq_true', Bool.eq_false_iff, ne_eq, List.contains_iff_mem]
    exact hnone row hmem hfit

/-- An operation spares all that it leaves in the table, if that is all there is of others. -/
theorem spares_of_mem_rows_iff (h : c.table.Ascending) (h' : d.table.Ascending)
    (hrows : ∀ row : String × Instance, row.2.service ≠ service →
      (row ∈ d.table.rows ↔ row ∈ c.table.rows ∧ row.1 ∉ ids)) : Spares c d service ids := by
  have hmatching (q : ServiceQuery) (hq : q.service ≠ service) :
      d.matching q = c.matchingBut ids q := by
    refine h.matching_eq h' fun row => ?_
    rw [Bool.and_eq_true, Bool.not_eq_true', Bool.eq_false_iff, ne_eq, List.contains_iff_mem]
    constructor
    · rintro ⟨hmem, hfit⟩
      have hservice : row.2.service ≠ service := Instance.service_of_fits hfit ▸ hq
      obtain ⟨hold, hid⟩ := (hrows row hservice).mp hmem
      exact ⟨hold, hfit, hid⟩
    · rintro ⟨hold, hfit, hid⟩
      have hservice : row.2.service ≠ service := Instance.service_of_fits hfit ▸ hq
      exact ⟨(hrows row hservice).mpr ⟨hold, hid⟩, hfit⟩
  refine ⟨fun q hq => Catalog.tells_iff.mpr (hmatching q hq), fun q hq => ?_⟩
  rw [← matchingBut_eq_iff, ← hmatching q hq]
  constructor
  · intro hsame
    exact (Catalog.tells_iff.mp ((hsame _).mpr (Catalog.tells_iff.mpr rfl)))
  · intro heq l
    rw [Catalog.tells_iff, Catalog.tells_iff, heq]

theorem spares_setInstances (h : c.table.Ascending) (service : String) (addrs : List String) :
    Spares c (c.setInstances service addrs) service (addrs.map (defaultId service)) := by
  refine spares_of_mem_rows_iff h (ascending_replaceService h service addrs) fun row hrow => ?_
  refine Iff.trans (mem_replaceService h) ⟨?_, fun ⟨hold, hid⟩ => .inr ⟨hold, hrow, hid⟩⟩
  rintro (⟨a, -, rfl⟩ | ⟨hold, -, hid⟩)
  · exact absurd rfl hrow
  · exact ⟨hold, hid⟩

theorem spares_register (h : c.table.Ascending) (r : Registration) :
    Spares c (c.register r) r.name [r.id] := by
  refine spares_of_mem_rows_iff h (h.insert r.id _) fun row hrow => ?_
  rw [List.mem_singleton]
  refine Iff.trans (InstanceTable.mem_insert h) ⟨?_, .inr⟩
  rintro (rfl | hold)
  · exact absurd rfl hrow
  · exact hold

theorem spares_deregister (h : c.table.Ascending) (r : Registration) :
    Spares c (c.deregister r) r.name [r.id] := by
  refine spares_of_mem_rows_iff h (h.erase r.id) fun row _ => ?_
  rw [List.mem_singleton]
  exact InstanceTable.mem_erase

/-! ## Names that keep services apart -/

/-- Every instance is under an identity that begins with the name of its service and a dash, and no
name has a dash in it. -/
def Apart (t : InstanceTable) : Prop :=
  ∀ row ∈ t.rows, '-' ∉ row.2.service.toList ∧ ∃ rest, row.1 = row.2.service ++ "-" ++ rest

/-- An event that puts in no instance but of services without a dash in their name, under default
identities. -/
def Event.Undashed : Event → Prop
  | .change (.setInstances service _) => '-' ∉ service.toList
  | .change (.register r) =>
    '-' ∉ r.name.toList ∧ r.id = Registration.defaultId r.name r.address r.port
  | _ => True

/-- The name of a service without a dash can be read off such an identity. -/
theorem eq_of_glued_eq {s s' rest rest' : String} (hs : '-' ∉ s.toList) (hs' : '-' ∉ s'.toList)
    (h : s ++ "-" ++ rest = s' ++ "-" ++ rest') : s = s' := by
  have hread {s rest : String} (hs : '-' ∉ s.toList) :
      (s ++ "-" ++ rest).toList.takeWhile (· != '-') = s.toList := by
    have hall : ∀ c ∈ s.toList, (c != '-') = true := fun c hc =>
      bne_iff_ne.mpr fun heq => hs (heq ▸ hc)
    rw [String.toList_append, String.toList_append, List.append_assoc,
      List.takeWhile_append_of_pos hall]
    show s.toList ++ [] = s.toList
    exact List.append_nil _
  refine String.toList_inj.mp ?_
  rw [← hread hs, h, hread hs']

/-- A default identity begins with the name of the service and a dash. -/
theorem defaultId_eq (name address : String) (port : Nat) :
    Registration.defaultId name address port = name ++ "-" ++ (address ++ "-" ++ toString port) := by
  rw [Registration.defaultId, String.append_assoc, String.append_assoc, String.append_assoc,
    String.append_assoc, String.append_assoc]

theorem apart_happen (h : c.table.Ascending) (hc : Apart c.table) {e : Event} (he : e.Undashed) :
    Apart (c.happen e).table := by
  intro row hrow
  cases e with
  | ask q last =>
    have hmem : row ∈ (c.enter q last).1.table.rows := hrow
    rw [table_enter] at hmem
    exact hc row hmem
  | change ch =>
    cases ch with
    | setInstances service addrs =>
      rcases (mem_replaceService h).mp hrow with ⟨a, -, rfl⟩ | ⟨hold, -, -⟩
      · exact ⟨he, a, rfl⟩
      · exact hc row hold
    | setPassing id passing =>
      obtain ⟨old, hold, rfl⟩ := List.mem_map.mp hrow
      by_cases hid : old.1 = id
      · rw [if_pos hid]
        exact hc old hold
      · rw [if_neg hid]
        exact hc old hold
    | setFailure failure => exact hc row hrow
    | failNext why => exact hc row hrow
    | register r =>
      rcases (InstanceTable.mem_insert h).mp hrow with rfl | ⟨hold, -⟩
      · exact ⟨he.1, r.address ++ "-" ++ toString r.port, he.2.trans (defaultId_eq _ _ _)⟩
      · exact hc row hold
    | deregister r => exact hc row (InstanceTable.mem_erase.mp hrow).1

theorem apart_history {events : List Event} (h : ∀ e ∈ events, e.Undashed) :
    Apart (history events).table := by
  -- the rows after an event are known only of a table in order, which is kept along
  have hboth : (history events).table.Ascending ∧ Apart (history events).table := by
    refine history_induction (P := fun c => c.table.Ascending ∧ Apart c.table) events ?_ ?_
    · exact ⟨List.Pairwise.nil, fun row hrow => absurd hrow List.not_mem_nil⟩
    · intro c e he hc
      exact ⟨ascending_happen hc.1 e, apart_happen hc.1 hc.2 (h e he)⟩
  exact hboth.2

/-- An operation that writes to identities of its own service only leaves the others as they are. -/
theorem Spares.tells_of_apart (h : Spares c d service ids) (hc : Apart c.table)
    (hservice : '-' ∉ service.toList)
    (hids : ∀ id ∈ ids, ∃ rest, id = service ++ "-" ++ rest) (hq : q.service ≠ service)
    (l : List String) : d.Tells q l ↔ c.Tells q l := by
  refine (h.tells_iff q hq).mpr (fun row hrow hfit hid => ?_) l
  obtain ⟨hname, rest, hrest⟩ := hc row hrow
  obtain ⟨rest', hrest'⟩ := hids row.1 hid
  have hsame : row.2.service = service := eq_of_glued_eq hname hservice (hrest ▸ hrest')
  exact hq ((Instance.service_of_fits hfit).symm.trans hsame)

/-! ## The law -/

/-- **Services in one catalog**, after everything that can have happened to it. A service whose
instances are replaced has exactly the addresses given, once each and in ascending order, for every
query that does not ask for tags. Queries for other services are told of all that they were told of
before, but for the instances under the identities that the operation writes to: the default ones of
the addresses given, or that of the instance announced or withdrawn. So nothing changes for them if
there are none such, and there are none if all identities are default ones and no service has a dash
in its name. -/
theorem isolation_history (events : List Event) (service : String) (addrs : List String)
    (r : Registration) :
    let c := history events
    (∀ q, q.service = service → q.tags = [] →
        (c.setInstances service addrs).Tells q (ascending addrs)) ∧
      Spares c (c.setInstances service addrs) service (addrs.map (defaultId service)) ∧
      Spares c (c.register r) r.name [r.id] ∧ Spares c (c.deregister r) r.name [r.id] ∧
      ((∀ e ∈ events, e.Undashed) → '-' ∉ service.toList → r.name = service →
        r.id = Registration.defaultId r.name r.address r.port →
        ∀ q, q.service ≠ service → ∀ l, ((c.setInstances service addrs).Tells q l ↔ c.Tells q l) ∧
          ((c.register r).Tells q l ↔ c.Tells q l) ∧ ((c.deregister r).Tells q l ↔ c.Tells q l)) := by
  intro c
  have hascending : c.table.Ascending := ascending_history events
  have hreplace := spares_setInstances hascending service addrs
  have hregister := spares_register hascending r
  have hderegister := spares_deregister hascending r
  refine ⟨?_, hreplace, hregister, hderegister, ?_⟩
  · rintro q rfl htags
    exact tells_iff.mpr (matching_replaceService hascending addrs htags)
  · rintro hevents hdash rfl hid q hq l
    have hapart : Apart c.table := apart_history hevents
    have hone : ∀ id ∈ [r.id], ∃ rest, id = r.name ++ "-" ++ rest := by
      intro id hmem
      rw [List.mem_singleton.mp hmem, hid]
      exact ⟨_, defaultId_eq _ _ _⟩
    have hall : ∀ id ∈ addrs.map (defaultId r.name), ∃ rest, id = r.name ++ "-" ++ rest := by
      intro id hmem
      obtain ⟨a, -, rfl⟩ := List.mem_map.mp hmem
      exact ⟨a, rfl⟩
    exact ⟨hreplace.tells_of_apart hapart hdash hall hq l,
      hregister.tells_of_apart hapart hdash hone hq l,
      hderegister.tells_of_apart hapart hdash hone hq l⟩

/-- With `users` at two addresses, one of them given twice, `orders` keeps the instance that was
announced for it, whether `users` is replaced, joined or left by another. -/
theorem isolation_history_users :
    let c := history [.change (.register (.plain "orders" "10.0.0.7" 80)),
      .change (.setInstances "users" ["b:1"])]
    (c.setInstances "users" ["b:1", "a:1", "b:1"]).Tells ⟨"users", [], true⟩ ["a:1", "b:1"] ∧
      (c.setInstances "users" ["b:1", "a:1", "b:1"]).Tells ⟨"orders", [], false⟩ ["10.0.0.7:80"] ∧
      (c.register (.plain "users" "c" 1)).Tells ⟨"orders", [], false⟩ ["10.0.0.7:80"] ∧
      (c.deregister (.plain "users" "c" 1)).Tells ⟨"orders", [], false⟩ ["10.0.0.7:80"] := by
  intro c
  obtain ⟨hown, -, -, -, hothers⟩ := isolation_history
    [.change (.register (.plain "orders" "10.0.0.7" 80)), .change (.setInstances "users" ["b:1"])]
    "users" ["b:1", "a:1", "b:1"] (.plain "users" "c" 1)
  have hbefore : c.Tells ⟨"orders", [], false⟩ ["10.0.0.7:80"] := tells_iff.mpr (by decide)
  have hundashed : ∀ e ∈ [Event.change (.register (.plain "orders" "10.0.0.7" 80)),
      .change (.setInstances "users" ["b:1"])], e.Undashed := by
    intro e he
    rcases List.mem_cons.mp he with rfl | he
    · exact ⟨by decide, rfl⟩
    · rw [List.mem_singleton.mp he]
      show '-' ∉ "users".toList
      decide
  obtain ⟨hreplace, hregister, hderegister⟩ := hothers hundashed (by decide) rfl rfl
    ⟨"orders", [], false⟩ (by decide) ["10.0.0.7:80"]
  have hsorted : ascending ["b:1", "a:1", "b:1"] = ["a:1", "b:1"] := by decide
  exact ⟨hsorted ▸ hown ⟨"users", [], true⟩ rfl rfl, hreplace.mpr hbefore, hregister.mpr hbefore,
    hderegister.mpr hbefore⟩

/-- `api` has an instance at `gateway-1:80`. It is lost when the instances of `api-gateway` are
replaced by one at `1:80`, which has the same identity. -/
theorem lost_to_another_service :
    let c := history [.change (.setInstances "api" ["gateway-1:80"])]
    c.Tells ⟨"api", [], false⟩ ["gateway-1:80"] ∧
      (c.setInstances "api-gateway" ["1:80"]).Tells ⟨"api", [], false⟩ [] :=
  ⟨tells_iff.mpr (by decide), tells_iff.mpr (by decide)⟩

end Catalog

end Switchboard
