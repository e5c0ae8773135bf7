import Switchboard.Agent.Exchange
import Switchboard.Proofs.Agent.Shapes
import Switchboard.Proofs.Agent.Encoding
import Switchboard.Proofs.Document.Json
/-!
# What an answer of the agent means

A reply to a query is taken as a whole, or not at all. Its status has to be a success, its index a
number, and its body a list of entries; the first of these that fails decides how the query fails, and
only when none does are there instances, one for each entry with the tags that are wanted. So a reply
with one bad entry is no shorter list.

* `Reply.GivesIndex`, `Reply.HasEntries` — index and entries, as they are written in a reply.
* `Reply.Means` — the answer that a reply means.
* `Reply.Means.query_eq`, `Reply.exists_means` — it is the answer to the query, and there is one.
* `query_eq_iff_means` — both.
-/

namespace Switchboard.Agent

open Document

namespace Reply

/-! ## The parts of a reply -/

/-- The index that a reply gives: a number of 64 bits, in digits with a plus sign in front or without;
zero where there is no header for it. -/
inductive GivesIndex (r : Reply) : Nat → Prop
  | missing (h : r.header? "x-consul-index" = none) : r.GivesIndex 0
  | written {value : List UInt8} {digits : List Char} {n : Nat}
      (h : r.header? "x-consul-index" = some value)
      (hvalue : value = Text.utf8 digits ∨ value = Text.utf8 ('+' :: digits))
      (hdigits : Text.IsNumeral digits n) (hword : n < 2 ^ 64) : r.GivesIndex n

/-- Only characters that show are those of a value's text. -/
theorem visible?_eq_some_iff {value : List UInt8} {text : String} : visible? value = some text ↔
    value = Text.utf8 text.toList ∧ ∀ c ∈ text.toList, isVisible c = true := by
  rw [visible?, Option.filter_eq_some_iff, List.all_eq_true]
  refine and_congr_left fun _ => ⟨Text.eq_utf8_of_textOf?, ?_⟩
  rintro rfl
  rw [Text.textOf?_utf8, String.ofList_toList]

theorem isVisible_of_isDigit {c : Char} (h : Text.isDigit c = true) : isVisible c = true := by
  obtain ⟨hlow, hhigh⟩ := Text.isDigit_iff.mp h
  rw [isVisible, Bool.or_eq_true, Bool.and_eq_true, decide_eq_true_eq, decide_eq_true_eq]
  exact .inl ⟨by omega, by omega⟩

theorem indexOf_eq_some_iff {value : List UInt8} {n : Nat} : indexOf value = some n ↔
    ∃ digits, (value = Text.utf8 digits ∨ value = Text.utf8 ('+' :: digits)) ∧
      Text.IsNumeral digits n ∧ n < 2 ^ 64 := by
  have hread : indexOf value = some n ↔ ∃ text, visible? value = some text ∧
      Text.readNatural Text.maxWord64 text.toList = .ok n := by
    refine Option.bind_eq_some_iff.trans (exists_congr fun text => and_congr_right fun _ => ?_)
    cases Text.readNatural Text.maxWord64 text.toList <;> simp [Except.toOption]
  rw [hread]
  constructor
  · rintro ⟨text, hvisible, hnumber⟩
    obtain ⟨digits, hplus, hdigits, hword⟩ := Text.readNatural_eq_ok_iff.mp hnumber
    obtain ⟨rfl, -⟩ := visible?_eq_some_iff.mp hvisible
    exact ⟨digits, hplus.imp (congrArg Text.utf8) (congrArg Text.utf8), hdigits,
      Nat.lt_succ_of_le hword⟩
  · rintro ⟨digits, hplus, hdigits, hword⟩
    obtain ⟨cs, hvalue, hcs⟩ : ∃ cs, value = Text.utf8 cs ∧ (cs = digits ∨ cs = '+' :: digits) := by
      rcases hplus with h | h
      · exact ⟨_, h, .inl rfl⟩
      · exact ⟨_, h, .inr rfl⟩
    have hshown : ∀ c ∈ cs, isVisible c = true := by
      intro c hc
      rcases hcs with rfl | rfl
      · exact isVisible_of_isDigit (hdigits.isDigit c hc)
      · rcases List.mem_cons.mp hc with rfl | hc
        · rfl
        · exact isVisible_of_isDigit (hdigits.isDigit c hc)
    refine ⟨String.ofList cs, visible?_eq_some_iff.mpr ?_, Text.readNatural_eq_ok_iff.mpr ?_⟩
    · rw [String.toList_ofList]
      exact ⟨hvalue, hshown⟩
    · rw [String.toList_ofList]
      exact ⟨digits, hcs, hdigits, Nat.le_of_lt_succ hword⟩

theorem index_eq_ok_iff {r : Reply} {n : Nat} : r.index = .ok n ↔ r.GivesIndex n := by
  unfold index
  cases hvalue : r.header? indexHeader with
  | none =>
    constructor
    · intro h
      obtain rfl := Except.ok.inj h
      exact .missing hvalue
    · rintro (_ | ⟨h, -⟩)
      · rfl
      · cases hvalue.symm.trans h
  | some value =>
    dsimp only
    constructor
    · intro h
      split at h
      · rename_i m hindex
        obtain rfl := Except.ok.inj h
        obtain ⟨digits, hplus, hdigits, hword⟩ := indexOf_eq_some_iff.mp hindex
        exact .written hvalue hplus hdigits hword
      · cases h
    · rintro (h | ⟨h, hplus, hdigits, hword⟩)
      · cases hvalue.symm.trans h
      · obtain rfl := Option.some_inj.mp (hvalue.symm.trans h)
        rw [indexOf_eq_some_iff.mpr ⟨_, hplus, hdigits, hword⟩]

/-- Where there is no number, the header is shown. -/
theorem index_of_bad {r : Reply} {value : List UInt8}
    (hvalue : r.header? "x-consul-index" = some value)
    (h : ¬ ∃ n, r.GivesIndex n) : r.index = .error (.badIndex (shown value)) := by
  cases hindex : r.index with
  | ok n => exact absurd ⟨n, index_eq_ok_iff.mp hindex⟩ h
  | error fault =>
    rw [index, show r.header? indexHeader = some value from hvalue] at hindex
    dsimp only at hindex
    split at hindex
    · cases hindex
    · exact hindex.symm

/-- The body is JSON, and a list of documents that have the shape of the entries. -/
def HasEntries (r : Reply) (es : List Entry) : Prop :=
  ∃ content ds, r.content? = some content ∧ Json.Denotes (Json.textOf content) (.list ds) ∧
    List.Forall₂ Entry.Shape ds es

theorem entries_eq_ok_iff {r : Reply} {es : List Entry} : r.entries = .ok es ↔ r.HasEntries es := by
  have hread : r.entries = .ok es ↔
      (r.content?.bind Document.ofJsonBytes).bind Entry.listOf = some es := by
    rw [entries]
    cases (r.content?.bind Document.ofJsonBytes).bind Entry.listOf <;> simp
  rw [hread, Option.bind_assoc, Option.bind_eq_some_iff]
  refine exists_congr fun content => ?_
  rw [exists_and_left]
  refine and_congr_right fun _ => ?_
  rw [Option.bind_eq_some_iff]
  constructor
  · rintro ⟨d, hd, hes⟩
    have hdenotes := ofJson_eq_some_iff.mp hd
    obtain ⟨ds, rfl, hshapes⟩ := (Entry.listOf_eq_some_iff hdenotes.isJson).mp hes
    exact ⟨ds, hdenotes, hshapes⟩
  · rintro ⟨ds, hdenotes, hshapes⟩
    exact ⟨.list ds, ofJson_eq_some_iff.mpr hdenotes,
      (Entry.listOf_eq_some_iff hdenotes.isJson).mpr ⟨ds, rfl, hshapes⟩⟩

/-- The entries in a body that was written from a value. -/
theorem entries_of_render {r : Reply} {v : Switchboard.Json} (hbare : r.isBare = false)
    (hchunked : r.isChunked = false) (hbody : r.body = Text.utf8 v.render.toList) :
    r.entries = match Entry.listOf v.document with
      | some es => .ok es
      | none => .error undecodable := by
  have hcontent : r.content? = some (Text.utf8 v.render.toList) := by
    rw [content?, hbare, hchunked, hbody]
    rfl
  rw [entries, hcontent, Option.bind_some, ofJsonBytes, Json.textOf_utf8, ofJson_render]
  rfl

theorem entries_of_bad {r : Reply} (h : ¬ ∃ es, r.HasEntries es) :
    r.entries = .error undecodable := by
  cases hentries : r.entries with
  | ok es => exact absurd ⟨es, entries_eq_ok_iff.mp hentries⟩ h
  | error fault =>
    unfold entries at hentries
    split at hentries
    · cases hentries
    · exact hentries.symm

/-! ## The whole reply -/

/-- The answer that a reply to a query means. The checks stand in their order: each case says that
those before it are passed. -/
inductive Means (r : Reply) (q : ServiceQuery) : Answer → Prop
  | refused (hstatus : ¬ (200 ≤ r.status ∧ r.status ≤ 299)) :
      r.Means q (.failed (.status r.status (Text.trimmed (Text.lossy (r.content?.getD [])))))
  | badIndex {value : List UInt8} (hstatus : 200 ≤ r.status ∧ r.status ≤ 299)
      (hvalue : r.header? "x-consul-index" = some value) (hindex : ¬ ∃ n, r.GivesIndex n) :
      r.Means q (.failed (.codec ("invalid index header: " ++ shown value)))
  | badBody {index : Nat} (hstatus : 200 ≤ r.status ∧ r.status ≤ 299) (hindex : r.GivesIndex index)
      (hbody : ¬ ∃ es, r.HasEntries es) :
      r.Means q (.failed (.codec "error decoding response body"))
  | found {index : Nat} {es : List Entry} (hstatus : 200 ≤ r.status ∧ r.status ≤ 299)
      (hindex : r.GivesIndex index) (hbody : r.HasEntries es) :
      r.Means q (.found
        ((es.filter fun e => ∀ tag ∈ q.tags.tail, tag ∈ e.service.tags.getD []).map fun e =>
          (if e.service.address = "" then e.node.address else e.service.address) ++ ":"
            ++ toString e.service.port) index)

theorem isSuccess_iff {r : Reply} : r.isSuccess = true ↔ 200 ≤ r.status ∧ r.status ≤ 299 := by
  rw [isSuccess, Bool.and_eq_true, decide_eq_true_eq, decide_eq_true_eq, Nat.lt_succ_iff]

theorem exists_means (r : Reply) (q : ServiceQuery) : ∃ a, r.Means q a := by
  by_cases hstatus : 200 ≤ r.status ∧ r.status ≤ 299
  · by_cases hindex : ∃ n, r.GivesIndex n
    · obtain ⟨index, hindex⟩ := hindex
      by_cases hbody : ∃ es, r.HasEntries es
      · obtain ⟨es, hbody⟩ := hbody
        exact ⟨_, .found hstatus hindex hbody⟩
      · exact ⟨_, .badBody hstatus hindex hbody⟩
    · cases hvalue : r.header? "x-consul-index" with
      | none => exact absurd ⟨0, .missing hvalue⟩ hindex
      | some value => exact ⟨_, .badIndex hstatus hvalue hindex⟩
  · exact ⟨_, .refused hstatus⟩

theorem checked_of_isSuccess {reply : Reply} (h : reply.isSuccess = true) :
    reply.checked = .ok reply := if_pos h

/-- After the status come the index and the entries. -/
theorem listed_of_isSuccess {r : Reply} (h : r.isSuccess = true) (q : ServiceQuery) :
    r.listed q = r.index.bind fun index => r.entries.bind fun es =>
      .ok (Entry.addresses (Entry.kept q.tags es), index) := by
  rw [listed, checked_of_isSuccess h]
  rfl

end Reply

theorem Entry.keeps_iff {tags : List String} {e : Entry} :
    e.keeps tags = true ↔ ∀ tag ∈ tags.tail, tag ∈ e.service.tags.getD [] := by
  simp only [Entry.keeps, List.all_eq_true, List.contains_iff_mem]

/-- The addresses of the entries with the tags that are wanted. -/
theorem Entry.addresses_kept (tags : List String) (es : List Entry) :
    Entry.addresses (Entry.kept tags es)
      = (es.filter fun e => ∀ tag ∈ tags.tail, tag ∈ e.service.tags.getD []).map fun e =>
        (if e.service.address = "" then e.node.address else e.service.address) ++ ":"
          ++ toString e.service.port := by
  have hkeeps : (fun e : Entry => e.keeps tags)
      = fun e => decide (∀ tag ∈ tags.tail, tag ∈ e.service.tags.getD []) :=
    funext fun e => by rw [Bool.eq_iff_iff, Entry.keeps_iff, decide_eq_true_eq]
  have haddress : Entry.address = fun e =>
      (if e.service.address = "" then e.node.address else e.service.address) ++ ":"
        ++ toString e.service.port :=
    funext fun e => by simp only [Entry.address, Entry.host, instanceAddress, String.isEmpty_iff]
  rw [Entry.addresses, Entry.kept, haddress]
  exact congrArg (List.map _) (congrArg (fun p => es.filter p) hkeeps)

/-- A success that can be read ends an exchange. -/
theorem Exchange.run_of_success {network : Network} {request : Request} {reply : Reply}
    (hreply : network request = some reply) (hreadable : reply.isReadable = true)
    (hsuccess : reply.isSuccess = true) (redirects : Nat) :
    Exchange.run network redirects request = { answered := [request], result := .ok reply } := by
  -- no status of a success sends the client elsewhere
  have hhere : request.redirected? reply = none := by
    obtain ⟨hlow, hhigh⟩ : 200 ≤ reply.status ∧ reply.status < 300 := by
      simpa [Reply.isSuccess] using hsuccess
    have hsame : sameElsewhere.contains reply.status = false := by
      simp [sameElsewhere]
      omega
    have hlook : lookElsewhere.contains reply.status = false := by
      simp [lookElsewhere]
      omega
    simp only [Request.redirected?, hsame, hlook]
    rfl
  rw [Exchange.run.eq_def]
  simp only [hreply, hreadable, hhere, Bool.not_true, Bool.false_eq_true, if_false]

section Query

variable {c : Client} {network : Network} {q : ServiceQuery} {last : Nat} {reply : Reply}

theorem query_of_reply (hreply : (Client.exchange network (c.listing q last)).result = .ok reply) :
    c.query network q last = match reply.listed q with
      | .ok (instances, index) => .found instances index
      | .error fault => .failed fault.toFailure := by
  rw [Client.query, hreply]
  rfl

/-- What a reply means is the answer to the query. -/
theorem Reply.Means.query_eq {a : Answer} (h : reply.Means q a)
    (hreply : (Client.exchange network (c.listing q last)).result = .ok reply) :
    c.query network q last = a := by
  rw [query_of_reply hreply]
  cases h with
  | refused hstatus =>
    have hchecked : reply.checked = .error _ := if_neg fun hsuccess =>
      hstatus (Reply.isSuccess_iff.mp hsuccess)
    rw [Reply.listed, hchecked]
    rfl
  | badIndex hstatus hvalue hindex =>
    rw [Reply.listed_of_isSuccess (Reply.isSuccess_iff.mpr hstatus), Reply.index_of_bad hvalue hindex]
    rfl
  | badBody hstatus hindex hbody =>
    rw [Reply.listed_of_isSuccess (Reply.isSuccess_iff.mpr hstatus),
      Reply.index_eq_ok_iff.mpr hindex, Reply.entries_of_bad hbody]
    rfl
  | found hstatus hindex hbody =>
    rw [Reply.listed_of_isSuccess (Reply.isSuccess_iff.mpr hstatus),
      Reply.index_eq_ok_iff.mpr hindex, Reply.entries_eq_ok_iff.mpr hbody, ← Entry.addresses_kept]
    rfl

/-- **An answer of the agent is taken as a whole, or not at all.** Whatever reply comes back, the answer
to the query is the one that it means. -/
theorem query_eq_iff_means
    (hreply : (Client.exchange network (c.listing q last)).result = .ok reply) {a : Answer} :
    c.query network q last = a ↔ reply.Means q a := by
  refine ⟨fun h => ?_, fun h => h.query_eq hreply⟩
  -- some answer is meant, and that is the one that was given
  obtain ⟨a', hmeans⟩ := reply.exists_means q
  rwa [← h, hmeans.query_eq hreply]

end Query

/-- Of two entries the one with the tag that is wanted is found, on the host of its node. With a port
that is none in the other entry, nothing is found. -/
theorem query_eq_iff_means_of_pair :
    let c : Client := { address := "http://127.0.0.1:8500" }
    let q : ServiceQuery := { service := "users", tags := ["eu", "v2"] }
    let entry (tags : Json) (address : String) (port : Nat) : Json := .record [
      ("Node", .record [("Address", .text "10.0.0.9")]),
      ("Service", .record [("Tags", tags), ("Address", .text address), ("Port", .natural port)]),
      ("Checks", .list [])]
    let entries (port : Nat) : Json :=
      .list [entry (.texts ["v2"]) "" 9000, entry .null "10.0.0.2" port]
    let reply (port : Nat) : Reply := {
      status := 200
      headers := [(Text.utf8 "X-Consul-Index".toList, Text.utf8 "+7".toList)]
      body := Text.utf8 (entries port).render.toList }
    let network (port : Nat) : Network := fun _ => some (reply port)
    c.query (network 9000) q noIndex = .found ["10.0.0.9:9000"] 7 ∧
      (reply 9000).Means q (.found ["10.0.0.9:9000"] 7) ∧
      (reply 70000).Means q (.failed (.codec "error decoding response body")) := by
  intro c q entry entries reply network
  have hexchange (port : Nat) (hreadable : (reply port).isReadable = true) :
      (Client.exchange (network port) (c.listing q noIndex)).result = .ok (reply port) := by
    cases hrequest : c.listing q noIndex with
    | ok request => rw [Client.exchange, Exchange.run_of_success rfl hreadable rfl]
    | error fault =>
      have hmade : (c.listing q noIndex).isOk = true := by decide +kernel
      rw [hrequest] at hmade
      exact nomatch hmade
  have hgood := hexchange 9000 (by decide +kernel)
  have hbad := hexchange 70000 (by decide +kernel)
  have hbody (port : Nat) : (reply port).body = Text.utf8 (entries port).render.toList := by
    dsimp only [reply]
  have hgoodEntries := Reply.entries_of_render rfl (by decide +kernel) (hbody 9000)
  have hbadEntries := Reply.entries_of_render rfl (by decide +kernel) (hbody 70000)
  have hgoodIndex : (reply 9000).index = .ok 7 := by decide +kernel
  have hbadIndex : (reply 70000).index = .ok 7 := by decide +kernel
  have hfound : c.query (network 9000) q noIndex = .found ["10.0.0.9:9000"] 7 := by
    rw [query_of_reply hgood, Reply.listed_of_isSuccess rfl, hgoodIndex, hgoodEntries]
    decide +kernel
  have hfailed : c.query (network 70000) q noIndex
      = .failed (.codec "error decoding response body") := by
    rw [query_of_reply hbad, Reply.listed_of_isSuccess rfl, hbadIndex, hbadEntries]
    decide +kernel
  exact ⟨hfound, (query_eq_iff_means hgood).mp hfound, (query_eq_iff_means hbad).mp hfailed⟩

end Switchboard.Agent
