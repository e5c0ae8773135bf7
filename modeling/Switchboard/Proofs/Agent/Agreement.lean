import Switchboard.Proofs.Agent.Answers
import Switchboard.Proofs.Agent.Ledger
import Switchboard.Proofs.Catalog.Table
import Switchboard.Watcher
/-!
# The agent and the catalog agree

Instances that are announced to an agent that can be relied on, and to the catalog, are found again in
the same way. On the way to the agent a registration becomes the body of a request, and the first tag
and the wish for healthy instances become parameters of another; on the way back an instance is an
entry of a listing, with a null for no tags and a node to fall back on, and the client looks for
further tags itself. None of it shows: both sides come to the set of addresses that is said here of
the registrations alone.

* `latest` — what was announced last under each identity.
* `IsSought` — what a query asks for, said of a registration.
* `Catalog.announceAll`, `Registry.announceAll` — instances announced one after another.
* `mem_matching_judged`, `query_announceAll` — what a query then finds.
* `query_of_long_tag` — a query whose URL no request can have.
* `same_snapshot` — both find the same.
-/

namespace Switchboard

open Agent

/-! ## What was announced -/

/-- What was announced last under each identity. -/
def latest (rs : List Registration) : String → Option Registration :=
  rs.foldl (fun known r => Function.update known r.id (some r)) fun _ => none

theorem latest_eq_some {rs : List Registration} {id : String} {r : Registration}
    (h : latest rs id = some r) : r ∈ rs ∧ r.id = id := by
  -- kept by each announcement, whatever it replaces
  let OfList (known : String → Option Registration) : Prop :=
    ∀ id r, known id = some r → r ∈ rs ∧ r.id = id
  have hstep (known : String → Option Registration) (hknown : OfList known) (r : Registration)
      (hr : r ∈ rs) : OfList (Function.update known r.id (some r)) := by
    intro id r' h
    by_cases hid : id = r.id
    · rw [hid, Function.update_self, Option.some_inj] at h
      exact h ▸ ⟨hr, hid.symm⟩
    · rw [Function.update_of_ne hid] at h
      exact hknown id r' h
  have hnone : OfList fun _ => none := fun _ _ h => by cases h
  exact List.foldlRecOn (motive := OfList) rs _ hnone hstep id r h

/-- Does a query ask for an instance? It is of the service, it passes if that is wanted, and it
carries all the tags. -/
structure IsSought (healthy : String → Bool) (q : ServiceQuery) (r : Registration) : Prop where
  service : r.name = q.service
  passing : q.passingOnly = true → healthy r.id = true
  tags : ∀ tag ∈ q.tags, tag ∈ r.tags

/-! ## The catalog -/

namespace Catalog

/-- Instances are announced to the catalog one after another. -/
def announceAll (c : Catalog) (rs : List Registration) : Catalog := rs.foldl register c

/-- The health of each instance announced is set. -/
def judged (c : Catalog) (rs : List Registration) (healthy : String → Bool) : Catalog :=
  rs.foldl (fun c r => c.setPassing r.id (healthy r.id)) c

/-- An announced instance as the catalog holds it. -/
def announced (r : Registration) : Instance := ⟨r.name, r.instanceAddress, r.tags, true⟩

/-- The rows of a catalog are what is known of the instances announced. -/
structure Knows (c : Catalog) (known : String → Option Registration) : Prop where
  ascending : c.table.Ascending
  rows : ∀ row, row ∈ c.table.rows ↔ ∃ r, known row.1 = some r ∧ row.2 = announced r

theorem Knows.register {c : Catalog} {known : String → Option Registration} (h : c.Knows known)
    (r : Registration) : (c.register r).Knows (Function.update known r.id (some r)) := by
  refine ⟨h.ascending.insert r.id (announced r), fun row => ?_⟩
  show row ∈ (c.table.insert r.id (announced r)).rows ↔ _
  rw [InstanceTable.mem_insert h.ascending]
  -- under the identity announced only the new row is left, under any other nothing changes
  by_cases hid : row.1 = r.id
  · rw [hid, Function.update_self]
    constructor
    · rintro (rfl | ⟨-, hne⟩)
      · exact ⟨r, rfl, rfl⟩
      · exact absurd rfl hne
    · rintro ⟨r', hr', hrow⟩
      obtain rfl := Option.some_inj.mp hr'
      exact .inl (Prod.ext hid hrow)
  · rw [Function.update_of_ne hid, ← h.rows row]
    constructor
    · rintro (rfl | ⟨hmem, -⟩)
      · exact absurd rfl hid
      · exact hmem
    · exact fun hmem => .inr ⟨hmem, hid⟩

theorem knows_announceAll (rs : List Registration) : (empty.announceAll rs).Knows (latest rs) := by
  refine List.foldl_rel ⟨List.Pairwise.nil, fun row => ?_⟩ fun r _ c known h => h.register r
  constructor
  · exact fun h => nomatch h
  · rintro ⟨r, hr, -⟩
    cases hr

/-- A row with the health that its identity was given. -/
def judgedRow (rs : List Registration) (healthy : String → Bool) (row : String × Instance) :
    String × Instance :=
  if row.1 ∈ rs.map (·.id) then (row.1, { row.2 with passing := healthy row.1 }) else row

theorem rows_judged (c : Catalog) (rs : List Registration) (healthy : String → Bool) :
    (c.judged rs healthy).table.rows = c.table.rows.map (judgedRow rs healthy) := by
  induction rs generalizing c with
  | nil =>
    refine ((List.map_congr_left fun row _ => ?_).trans (List.map_id _)).symm
    exact if_neg List.not_mem_nil
  | cons r rs ih =>
    show ((c.setPassing r.id (healthy r.id)).judged rs healthy).table.rows = _
    rw [ih]
    show List.map _ (c.table.setPassing r.id (healthy r.id)).rows = _
    rw [InstanceTable.setPassing, List.map_map]
    refine List.map_congr_left fun row _ => ?_
    simp only [Function.comp_apply, judgedRow, List.map_cons, List.mem_cons]
    by_cases hid : row.1 = r.id
    · by_cases hmem : r.id ∈ rs.map (·.id)
      · simp [hid, hmem]
      · simp [hid, hmem]
    · by_cases hmem : row.1 ∈ rs.map (·.id)
      · simp [hid, hmem]
      · simp [hid, hmem]

theorem judgedRow_of_latest {rs : List Registration} (healthy : String → Bool) {id : String}
    {r : Registration} (hr : latest rs id = some r) :
    judgedRow rs healthy (id, announced r) = (id, { announced r with passing := healthy r.id }) := by
  obtain ⟨hmem, rfl⟩ := latest_eq_some hr
  exact if_pos (List.mem_map_of_mem hmem)

theorem fits_announced_iff {healthy : String → Bool} {q : ServiceQuery} {r : Registration} :
    ({ announced r with passing := healthy r.id } : Instance).fits q = true ↔
      IsSought healthy q r := by
  simp only [Instance.fits, announced, Bool.and_eq_true, beq_iff_eq, Bool.or_eq_true,
    Bool.not_eq_true', List.all_eq_true, List.contains_iff_mem]
  constructor
  · rintro ⟨⟨hservice, hpassing⟩, htags⟩
    exact ⟨hservice, fun hwanted => hpassing.resolve_left (by simp [hwanted]), htags⟩
  · rintro ⟨hservice, hpassing, htags⟩
    refine ⟨⟨hservice, ?_⟩, htags⟩
    cases hwanted : q.passingOnly with
    | true => exact .inr (hpassing hwanted)
    | false => exact .inl rfl

/-- **What a query finds in the catalog** is what it asks for. -/
theorem mem_matching_judged (rs : List Registration) (healthy : String → Bool) (q : ServiceQuery)
    (a : String) : a ∈ ((empty.announceAll rs).judged rs healthy).matching q ↔
      ∃ id r, latest rs id = some r ∧ IsSought healthy q r ∧ a = r.instanceAddress := by
  have hknows := knows_announceAll rs
  rw [matching, InstanceTable.matching, rows_judged, List.mem_map]
  constructor
  · rintro ⟨row, hmem, rfl⟩
    obtain ⟨hmem, hfit⟩ := List.mem_filter.mp hmem
    obtain ⟨⟨id, i⟩, hold, rfl⟩ := List.mem_map.mp hmem
    obtain ⟨r, hr, hi⟩ := (hknows.rows (id, i)).mp hold
    obtain rfl : i = announced r := hi
    rw [judgedRow_of_latest healthy hr] at hfit ⊢
    exact ⟨id, r, hr, fits_announced_iff.mp hfit, rfl⟩
  · rintro ⟨id, r, hr, hsought, rfl⟩
    have hold := (hknows.rows (id, announced r)).mpr ⟨r, hr, rfl⟩
    refine ⟨judgedRow rs healthy (id, announced r), List.mem_filter.mpr
      ⟨List.mem_map_of_mem hold, ?_⟩, ?_⟩
    · rw [judgedRow_of_latest healthy hr]
      exact fits_announced_iff.mpr hsought
    · rw [judgedRow_of_latest healthy hr]
      rfl

/-- A query that does not wait is answered at once. -/
theorem enter_judged (rs : List Registration) (healthy : String → Bool) (q : ServiceQuery) :
    (((empty.announceAll rs).judged rs healthy).enter q noIndex).2
      = some (((empty.announceAll rs).judged rs healthy).current q) := by
  let Calm (c : Catalog) : Prop := c.failure = none ∧ c.queued = []
  have hannounced : Calm (empty.announceAll rs) :=
    List.foldlRecOn (motive := Calm) rs _ ⟨rfl, rfl⟩ fun _ h _ _ => h
  obtain ⟨hfailure, hqueued⟩ : Calm ((empty.announceAll rs).judged rs healthy) :=
    List.foldlRecOn (motive := Calm) rs _ hannounced fun _ h _ _ => h
  simp only [enter, hqueued, look, hfailure]
  rfl

/-- An instance that was announced alone is found by a query for its service and its tags. -/
theorem enter_own (r : Registration) (healthy : String → Bool) :
    (((empty.announceAll [r]).judged [r] healthy).enter
      { service := r.name, tags := r.tags } noIndex).2.map Answer.snapshot
      = some (.instances [r.instanceAddress]) := by
  rw [enter_judged]
  refine congrArg (fun addrs => some (Snapshot.instances addrs))
    (ascending_congr (m := [r.instanceAddress]) fun a => ?_)
  rw [mem_matching_judged, List.mem_singleton]
  constructor
  · rintro ⟨id, r', hr, -, rfl⟩
    rw [List.mem_singleton.mp (latest_eq_some hr).1]
  · rintro rfl
    have hown : IsSought healthy { service := r.name, tags := r.tags } r :=
      ⟨rfl, fun hwanted => absurd hwanted Bool.false_ne_true, fun _ htag => htag⟩
    have hlatest : latest [r] r.id = some r := by
      rw [latest, List.foldl_cons, List.foldl_nil, Function.update_self]
    exact ⟨r.id, r, hlatest, hown, rfl⟩

end Catalog

/-! ## The agent -/

namespace Agent

/-- The requests that were answered took their effect. -/
def Registry.afterExchange {σ : Type} (R : Registry σ) (s : σ) (e : Exchange) : σ :=
  e.answered.foldl R.after s

/-- Instances are announced to an agent one after another. -/
def Registry.announceAll {σ : Type} (R : Registry σ) (c : Client) (s : σ) (rs : List Registration) :
    σ :=
  rs.foldl (fun s r => R.afterExchange s (Client.exchange (R.reply s) (c.announcing r))) s

/-- What a listing amounts to in which nothing is wrong. -/
theorem Reply.listed_of_entries {reply : Reply} {index : Nat} {d : Document} {es : List Entry}
    (hsuccess : reply.isSuccess = true) (hindex : reply.index = .ok index)
    (hcontent : reply.content?.bind Document.ofJsonBytes = some d) (hes : Entry.listOf d = some es)
    (q : ServiceQuery) :
    reply.listed q = .ok (Entry.addresses (Entry.kept q.tags es), index) := by
  have hentries : reply.entries = .ok es := by
    rw [Reply.entries, hcontent]
    simp only [Option.bind_some, hes]
  rw [Reply.listed_of_isSuccess hsuccess, hindex, hentries]
  rfl

/-! ### What is asked for

The client asks the agent for healthy instances and for those with the first tag, and looks for the
other tags itself. -/

theorem lookup_params (c : Client) (q : ServiceQuery) (last : Nat) :
    (c.datacenterPairs ++ c.listingPairs q last).lookup "passing"
        = (if q.passingOnly then some "true" else none) ∧
      (c.datacenterPairs ++ c.listingPairs q last).lookup "tag" = q.tags.head? := by
  rw [Client.datacenterPairs, Client.listingPairs]
  -- four things decide which pairs there are, and no two pairs share a name
  cases c.datacenter <;> cases q.passingOnly <;> cases q.tags <;> by_cases h : last = noIndex <;>
    simp [h, List.lookup_cons]

/-- What a query asks for is what its request wants, with the tags after the first. -/
theorem isSought_iff {healthy : String → Bool} {q : ServiceQuery} {r : Registration} (c : Client)
    (last : Nat) : IsSought healthy q r ↔
      isWanted healthy q.service (c.datacenterPairs ++ c.listingPairs q last) r.id
        (Announcement.ofRegistration r).toJson = true ∧ ∀ tag ∈ q.tags.tail, tag ∈ r.tags := by
  obtain ⟨hlookup, hlookupTag⟩ := lookup_params c q last
  rw [isWanted_body, hlookup, hlookupTag]
  have hpassing : (if q.passingOnly then some "true" else none) ≠ none ↔ q.passingOnly = true := by
    cases q.passingOnly <;> simp
  have htags : ((∀ tag, q.tags.head? = some tag → tag ∈ r.tags) ∧
      ∀ tag ∈ q.tags.tail, tag ∈ r.tags) ↔ ∀ tag ∈ q.tags, tag ∈ r.tags := by
    cases q.tags <;> simp
  rw [hpassing, and_assoc, and_assoc, htags]
  exact ⟨fun h => ⟨h.service, h.passing, h.tags⟩, fun ⟨hservice, hpassing, htags⟩ =>
    ⟨hservice, hpassing, htags⟩⟩

/-- From a listing of the instances that its request wants, the client keeps what a query asks for. -/
theorem mem_addresses_kept {healthy : String → Bool} {c : Client} {q : ServiceQuery} {last : Nat}
    {known : String → Option Registration} {listed : List Json} {es : List Entry}
    (hknown : ∀ id r, known id = some r → r.id = id ∧ r.IsAddressed)
    (hlisted : ∀ body, body ∈ listed ↔ ∃ id r, known id = some r ∧
      body = (Announcement.ofRegistration r).toJson ∧
      isWanted healthy q.service (c.datacenterPairs ++ c.listingPairs q last) id body = true)
    (hmatch : List.Forall₂ Entry.Says es listed) (a : String) :
    a ∈ Entry.addresses (Entry.kept q.tags es) ↔
      ∃ id r, known id = some r ∧ IsSought healthy q r ∧ a = r.instanceAddress := by
  simp only [Entry.addresses, Entry.kept, List.mem_map, List.mem_filter, Entry.keeps_iff]
  constructor
  · rintro ⟨e, ⟨he, hkeeps⟩, rfl⟩
    obtain ⟨body, hmem, hsaid⟩ := exists_beside hmatch he
    obtain ⟨id, r, hr, rfl, hwanted⟩ := (hlisted body).mp hmem
    obtain ⟨rfl, haddressed⟩ := hknown id r hr
    obtain ⟨haddress, htags⟩ := hsaid r haddressed rfl
    rw [htags] at hkeeps
    exact ⟨r.id, r, hr, (isSought_iff c last).mpr ⟨hwanted, hkeeps⟩, haddress⟩
  · rintro ⟨id, r, hr, hsought, rfl⟩
    obtain ⟨rfl, haddressed⟩ := hknown id r hr
    obtain ⟨hwanted, hkeeps⟩ := (isSought_iff c last).mp hsought
    have hmem := (hlisted _).mpr ⟨r.id, r, hr, rfl, hwanted⟩
    obtain ⟨e, he, hsaid⟩ := exists_beside (R := flip Entry.Says) hmatch.flip hmem
    obtain ⟨haddress, htags⟩ := hsaid r haddressed rfl
    rw [← htags] at hkeeps
    exact ⟨e, ⟨he, hkeeps⟩, haddress⟩

section Honest

variable {σ : Type} {R : Registry σ} {c : Client} {base : Url} {healthy : String → Bool}
  (hclient : c.LeadsTo base) (hhonest : R.IsHonest base.folder healthy)

include hclient hhonest

/-- An announcement succeeds, and its body is kept. -/
theorem announce_of_honest (s : σ) (r : Registration) :
    c.announce (R.reply s) r = none ∧
      R.kept (R.afterExchange s (Client.exchange (R.reply s) (c.announcing r)))
        = Function.update (R.kept s) r.id (some (Announcement.ofRegistration r).toJson) := by
  obtain ⟨request, hrequest⟩ : ∃ request, c.announcing r = .ok request :=
    ⟨_, Client.announcing_eq hclient r⟩
  obtain ⟨⟨reply, hreply, hreadable, hsuccess⟩, hkept⟩ := hhonest.stores s request _ r.id
    (Client.wish?_announcing hclient hrequest) rfl
  have hexchange : Client.exchange (R.reply s) (c.announcing r)
      = { answered := [request], result := .ok reply } := by
    rw [hrequest]
    exact Exchange.run_of_success hreply hreadable hsuccess _
  refine ⟨?_, ?_⟩
  · simp only [Client.announce, Client.outcome, hexchange, Except.bind,
      Reply.checked_of_isSuccess hsuccess]
  · rw [hexchange]
    exact hkept

/-- After instances were announced to an agent with nothing in it, what is kept is what was announced
last under each identity. -/
theorem kept_announceAll {s : σ} (hempty : ∀ id, R.kept s id = none) (rs : List Registration) :
    R.kept (R.announceAll c s rs)
      = Option.map (fun r => (Announcement.ofRegistration r).toJson) ∘ latest rs := by
  let Agrees (s : σ) (known : String → Option Registration) : Prop :=
    R.kept s = Option.map (fun r => (Announcement.ofRegistration r).toJson) ∘ known
  refine List.foldl_rel (r := Agrees) (funext hempty) fun r _ s known hs => ?_
  show R.kept (R.afterExchange s _) = _ ∘ Function.update known r.id (some r)
  rw [(announce_of_honest hclient hhonest s r).2, hs, Function.comp_update]
  rfl

/-- **What a query finds at an agent** is what it asks for. -/
theorem query_announceAll {s : σ} (hempty : ∀ id, R.kept s id = none) {rs : List Registration}
    (hrs : ∀ r ∈ rs, r.IsAddressed) {q : ServiceQuery} (hname : IsPlainName q.service) {last : Nat}
    (hlength : (c.listingUrl base q last).text.length ≤ Url.maxLength) :
    ∃ instances index,
      c.query (R.reply (R.announceAll c s rs)) q last = .found instances index ∧
      ∀ a, a ∈ instances ↔
        ∃ id r, latest rs id = some r ∧ IsSought healthy q r ∧ a = r.instanceAddress := by
  obtain ⟨request, hrequest⟩ : ∃ request, c.listing q last = .ok request :=
    ⟨_, (Client.listing_eq hclient hname last).trans (if_pos hlength)⟩
  obtain ⟨reply, hreply, hreadable, hsuccess, ⟨index, hindex⟩, docs, listed, hcontent, hlists,
    hlisted⟩ := hhonest.lists (R.announceAll c s rs) request _ _
      (Client.wish?_listing hclient hname hrequest)
  have hknown (id : String) (r : Registration) (hr : latest rs id = some r) :
      r.id = id ∧ r.IsAddressed :=
    ⟨(latest_eq_some hr).2, hrs r (latest_eq_some hr).1⟩
  -- what is listed are announced instances that are wanted
  have hbody (body : Json) : body ∈ listed ↔ ∃ id r, latest rs id = some r ∧
      body = (Announcement.ofRegistration r).toJson ∧
      isWanted healthy q.service (c.datacenterPairs ++ c.listingPairs q last) id body = true := by
    rw [hlisted, kept_announceAll hclient hhonest hempty]
    constructor
    · rintro ⟨id, hkept, hwanted⟩
      obtain ⟨r, hr, rfl⟩ := Option.map_eq_some_iff.mp hkept
      exact ⟨id, r, hr, rfl, hwanted⟩
    · rintro ⟨id, r, hr, rfl, hwanted⟩
      exact ⟨id, Option.map_eq_some_iff.mpr ⟨r, hr, rfl⟩, hwanted⟩
  obtain ⟨es, hes, hmatch⟩ := listOf_of_lists hlists fun body hmem => by
    obtain ⟨id, r, hr, hbody, -⟩ := (hbody body).mp hmem
    exact ⟨r, (hknown id r hr).2, hbody⟩
  refine ⟨Entry.addresses (Entry.kept q.tags es), index, ?_, mem_addresses_kept hknown hbody hmatch⟩
  rw [Client.query, hrequest]
  simp only [Client.exchange, Exchange.run_of_success hreply hreadable hsuccess, Except.bind,
    Reply.listed_of_entries hsuccess hindex hcontent hes]

end Honest

/-! ### Tags that no request can have -/

/-- A query for a tag that is too long for a URL fails at every agent. -/
theorem query_of_long_tag {c : Client} {base : Url} (hclient : c.LeadsTo base) {q : ServiceQuery}
    (hname : IsPlainName q.service) {tag : String} (hhead : q.tags.head? = some tag)
    (hlong : Url.maxLength < tag.length) (last : Nat) (network : Network) :
    c.query network q last
      = .failed (AgentFault.unsendable (c.listingUrl base q last)).toFailure := by
  have hlength : Url.maxLength < (c.listingUrl base q last).text.length := by
    -- the pair of the tag is the last of the query
    obtain ⟨ps, hps⟩ : ∃ ps, c.datacenterPairs ++ c.listingPairs q last = ps ++ [("tag", tag)] := by
      rw [Client.listingPairs, hhead, ← List.append_assoc]
      exact ⟨_, rfl⟩
    obtain ⟨query, hquery, hpair⟩ := Url.pairOf_suffix_addPairs base.query ps ("tag", tag)
    rw [← hps] at hquery
    have hinfix : Url.pairText tag <:+: (c.listingUrl base q last).text.toList :=
      (((List.suffix_cons _ _).trans (List.suffix_append _ _)).trans hpair).isInfix.trans
        (Url.query_infix_text hquery)
    calc Url.maxLength < tag.length := hlong
      _ ≤ (Url.pairText tag).length := Url.length_le_pairText tag
      _ ≤ (c.listingUrl base q last).text.length := String.length_toList ▸ hinfix.length_le
  have hlisting := (Client.listing_eq hclient hname last).trans (if_neg (Nat.not_le.mpr hlength))
  rw [Client.query, hlisting]
  rfl

end Agent

/-! ## The same snapshot -/

section Snapshot

variable {σ : Type} {R : Registry σ} {c : Client} {base : Url} {healthy : String → Bool}

/-- **The agent and the catalog agree.** Announced through a client to an agent that can be relied on,
instances are found again as if they had been announced to the catalog: every announcement succeeds,
and a query is answered with the same snapshot, unless its URL is too long for a request. -/
theorem same_snapshot (hclient : c.LeadsTo base) (hhonest : R.IsHonest base.folder healthy) {s : σ}
    (hempty : ∀ id, R.kept s id = none) {rs : List Registration} (hrs : ∀ r ∈ rs, r.IsAddressed)
    {q : ServiceQuery} (hname : IsPlainName q.service) {last : Nat}
    (hlength : (c.listingUrl base q last).text.length ≤ Url.maxLength) :
    (∀ s r, c.announce (R.reply s) r = none) ∧
    ∃ addrs,
      (c.query (R.reply (R.announceAll c s rs)) q last).snapshot = .instances addrs ∧
      (((Catalog.empty.announceAll rs).judged rs healthy).enter q noIndex).2.map Answer.snapshot
        = some (.instances addrs) := by
  refine ⟨fun s r => (announce_of_honest hclient hhonest s r).1, ?_⟩
  obtain ⟨instances, index, hquery, hmem⟩ :=
    query_announceAll hclient hhonest hempty hrs hname hlength
  refine ⟨ascending instances, ?_, ?_⟩
  · rw [hquery]
    rfl
  · rw [Catalog.enter_judged]
    refine congrArg (fun addrs => some (Snapshot.instances addrs)) (ascending_congr fun a => ?_)
    rw [hmem, Catalog.mem_matching_judged]

/-- Of two instances with the tags of a query, announced to an agent in memory, the one that passes is
found. -/
theorem same_snapshot_of_pair :
    let healthy := (· == "users-1")
    let R := Ledger.registry Client.loopbackUrl.folder healthy
    let rs : List Registration := [
      { id := "users-1", name := "users", address := "10.0.0.1", port := 9000, tags := ["eu", "v2"] },
      { id := "users-2", name := "users", address := "10.0.0.2", port := 9000, tags := ["v2", "eu"] }]
    let q : ServiceQuery := { service := "users", tags := ["v2", "eu", "v2"], passingOnly := true }
    (Client.loopback.query (R.reply (R.announceAll Client.loopback .empty rs)) q noIndex).snapshot
      = .instances ["10.0.0.1:9000"] := by
  intro healthy R rs q
  have hrs : ∀ r ∈ rs, r.IsAddressed := by
    intro r hr
    rcases List.mem_cons.mp hr with rfl | hr
    · exact ⟨by decide, by decide⟩
    · obtain rfl := List.mem_singleton.mp hr
      exact ⟨by decide, by decide⟩
  have hname : IsPlainName q.service := by decide +kernel
  have hlength : (Client.loopback.listingUrl Client.loopbackUrl q noIndex).text.length
      ≤ Url.maxLength := by decide +kernel
  obtain ⟨-, addrs, hagent, hcatalog⟩ := same_snapshot Client.leadsTo_loopback
    (Ledger.isHonest_registry Client.loopbackUrl.folder healthy) (s := Ledger.empty) (fun _ => rfl)
    hrs hname hlength
  have hfound : (((Catalog.empty.announceAll rs).judged rs healthy).enter q noIndex).2.map
      Answer.snapshot = some (.instances ["10.0.0.1:9000"]) := by decide +kernel
  exact hagent.trans (Option.some_inj.mp (hcatalog.symm.trans hfound))

/-- Neither condition can be left out. With a tag that is too long for a URL, or of a service whose name
is a step in a path, an instance is found in the catalog, but not at an agent that can be relied on. -/
theorem snapshots_differ :
    let healthy := fun _ => true
    let R := Ledger.registry Client.loopbackUrl.folder healthy
    let atAgent (r : Registration) (q : ServiceQuery) :=
      (Client.loopback.query (R.reply (R.announceAll Client.loopback .empty [r])) q noIndex).snapshot
    let inCatalog (r : Registration) (q : ServiceQuery) :=
      (((Catalog.empty.announceAll [r]).judged [r] healthy).enter q noIndex).2.map Answer.snapshot
    let users : Registration := {
      id := "users-1", name := "users", address := "10.0.0.1", port := 9000
      tags := [String.ofList (List.replicate 70000 'a')] }
    let dot : Registration := { id := "dot-1", name := ".", address := "10.0.0.1", port := 9000 }
    R.IsHonest Client.loopbackUrl.folder healthy ∧
      (inCatalog users { service := "users", tags := users.tags }
          = some (.instances ["10.0.0.1:9000"]) ∧
        atAgent users { service := "users", tags := users.tags } ≠ .instances ["10.0.0.1:9000"]) ∧
      (inCatalog dot { service := "." } = some (.instances ["10.0.0.1:9000"]) ∧
        atAgent dot { service := "." } = .instances []) := by
  intro healthy R atAgent inCatalog users dot
  refine ⟨Ledger.isHonest_registry _ _, ⟨?_, ?_⟩, by decide +kernel, by decide +kernel⟩
  · refine (Catalog.enter_own users healthy).trans ?_
    show some (Snapshot.instances [instanceAddress "10.0.0.1" 9000]) = _
    decide
  · have hname : IsPlainName "users" := by decide +kernel
    have hlong : Url.maxLength < (String.ofList (List.replicate 70000 'a')).length := by
      rw [String.length_ofList, List.length_replicate]
      decide
    have hquery := query_of_long_tag Client.leadsTo_loopback
      (q := { service := "users", tags := users.tags }) hname rfl hlong noIndex
    exact fun hfound => Snapshot.noConfusion ((congrArg Answer.snapshot (hquery _)).symm.trans hfound)

end Snapshot

end Switchboard
