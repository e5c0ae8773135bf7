import Mathlib.Data.List.Nodup
import Mathlib.Logic.Function.Basic
import Switchboard.Agent.Exchange
import Switchboard.Proofs.Agent.Requests
import Switchboard.Proofs.Document.Json
/-!
# Agents that can be relied on

What a client relies on in an agent: it keeps the body of every announcement under the identity in
it, and lists the instances of a service from the bodies it keeps, leaving out those that the
parameters of the request do not want. What it lists is said about the JSON of bodies and replies,
whatever else is in them: names of members, a null for no tags, the node that an instance is on.

* `Document.IsRecord`, `member?` — records that name each member once, and what they hold.
* `Lists` — a document lists the instance of a body.
* `isWanted` — is it one that a request to list instances wants?
* `Registry`, `Registry.IsHonest` — whoever answers requests, and what it is relied on for.
* `listOf_of_lists` — what the client reads from a listing of announced instances.
-/

namespace Switchboard

/-! ## Members -/

/-- The member of a name. -/
def Json.member? (v : Json) (name : String) : Option Json :=
  match v with
  | .record members => members.lookup name
  | _ => none

def Json.text? : Json → Option String
  | .text s => some s
  | _ => none

def Json.texts? : Json → Option (List String)
  | .list items => items.mapM Json.text?
  | _ => none

@[simp] theorem Json.texts?_texts (ss : List String) : (Json.texts ss).texts? = some ss := by
  rw [Json.texts, Json.texts?, List.mapM_map]
  exact (List.mapM_pure (m := Option) (f := id)).trans (congrArg some (List.map_id _))

namespace Document

def member? (d : Document) (name : String) : Option Document :=
  match d with
  | .record entries => entries.lookup (some name)
  | _ => none

/-- The document is a record in which each name is a text and occurs once. -/
def IsRecord (d : Document) : Prop :=
  ∃ entries, d = .record entries ∧ (∀ e ∈ entries, e.1.isSome = true) ∧
    (entries.map (·.1)).Nodup

/-- The fields of an open record are its members. -/
theorem fields_of_isRecord {d : Document} (h : d.IsRecord) (names : List String) :
    d.fields names true = some ⟨false, names.map d.member?⟩ := by
  obtain ⟨entries, rfl, hnames, hnodup⟩ := h
  have honce (name : String) : entries.countP (fun e => e.1 == some name) ≤ 1 := by
    have hcount := List.nodup_iff_count_le_one.mp hnodup (some name)
    rwa [List.count, List.countP_map] at hcount
  rw [fields, if_pos]
  · rfl
  · refine (Bool.and_eq_true _ _).mpr ⟨List.all_eq_true.mpr fun e he => ?_,
      List.all_eq_true.mpr fun name _ => decide_eq_true (honce name)⟩
    obtain ⟨name, hname⟩ := Option.isSome_iff_exists.mp (hnames e he)
    rw [hname]
    rfl

end Document

/-- A registration has a host, and a port that is a word of sixteen bits. -/
structure Registration.IsAddressed (r : Registration) : Prop where
  host : r.address ≠ ""
  port : r.port ≤ Text.maxWord16

namespace Agent

open Document

/-! ## What lists an instance -/

/-- A document says what a body says of an instance, under the names that a listing has for it. -/
structure Restates (d : Document) (body : Json) : Prop where
  isRecord : d.IsRecord
  id : d.member? "ID" = (body.member? "ID").map Json.document
  service : d.member? "Service" = (body.member? "Name").map Json.document
  /-- No tags may be written as a null. -/
  tags : d.member? "Tags" = (body.member? "Tags").map Json.document ∨
    d.member? "Tags" = some Json.null.document ∧ body.member? "Tags" = some (.texts [])
  address : d.member? "Address" = (body.member? "Address").map Json.document
  port : d.member? "Port" = (body.member? "Port").map Json.document

/-- A document names a node. -/
structure NamesNode (d : Document) : Prop where
  isRecord : d.IsRecord
  node : ∃ s, d.member? "Node" = some (Json.text s).document
  address : ∃ s, d.member? "Address" = some (Json.text s).document

/-- A document lists the instance of a body, on some node. -/
structure Lists (d : Document) (body : Json) : Prop where
  isRecord : d.IsRecord
  node : ∃ n, d.member? "Node" = some n ∧ NamesNode n
  service : ∃ i, d.member? "Service" = some i ∧ Restates i body

theorem exists_beside {α β : Type} {R : α → β → Prop} {as : List α} {bs : List β}
    (h : List.Forall₂ R as bs) {a : α} (ha : a ∈ as) : ∃ b ∈ bs, R a b := by
  induction h with
  | nil => exact absurd ha List.not_mem_nil
  | cons hab _ ih =>
    rcases List.mem_cons.mp ha with rfl | ha
    · exact ⟨_, List.mem_cons_self, hab⟩
    · obtain ⟨b, hb, hbeside⟩ := ih ha
      exact ⟨b, List.mem_cons_of_mem _ hb, hbeside⟩

theorem documents_texts (ss : List String) :
    Json.documents (ss.map .text) = ss.map fun s => Document.Json.textLeaf (some s) := by
  induction ss with
  | nil => rfl
  | cons s ss ih =>
    rw [List.map_cons, Json.documents, ih, List.map_cons, Json.document]

theorem asList_texts (ss : List String) : (Json.texts ss).document.asList asText = some ss := by
  rw [Json.texts, Json.document, documents_texts]
  show (ss.map _).mapM asText = some ss
  rw [List.mapM_map]
  exact (List.mapM_pure (m := Option) (f := id)).trans (congrArg some (List.map_id _))

theorem member?_body (r : Registration) :
    (Announcement.ofRegistration r).toJson.member? "ID" = some (.text r.id) ∧
    (Announcement.ofRegistration r).toJson.member? "Name" = some (.text r.name) ∧
    (Announcement.ofRegistration r).toJson.member? "Tags" = some (.texts r.tags) ∧
    (Announcement.ofRegistration r).toJson.member? "Address" = some (.text r.address) ∧
    (Announcement.ofRegistration r).toJson.member? "Port" = some (.natural r.port) :=
  ⟨rfl, rfl, rfl, rfl, rfl⟩

/-- What the client reads from a document that restates an announcement. -/
theorem serviceRecord_of_restates {d : Document} {r : Registration}
    (h : Restates d (Announcement.ofRegistration r).toJson) (hport : r.port ≤ Text.maxWord16) :
    ∃ tags, ServiceRecord.ofDocument d = some ⟨r.id, r.name, tags, r.address, r.port⟩ ∧
      tags.getD [] = r.tags := by
  obtain ⟨hid, hname, htags, haddress, hportMember⟩ := member?_body r
  have hidRead : d.member? "ID" = some (Json.text r.id).document := by rw [h.id, hid]; rfl
  have hnameRead : d.member? "Service" = some (Json.text r.name).document := by
    rw [h.service, hname]; rfl
  have haddressRead : d.member? "Address" = some (Json.text r.address).document := by
    rw [h.address, haddress]; rfl
  have hportRead : d.member? "Port" = some (Json.natural r.port).document := by
    rw [h.port, hportMember]; rfl
  have hport64 : r.port ≤ Text.maxWord64 := hport.trans (by decide)
  have hnatural : (Json.natural r.port).document.asNatural Text.maxWord16 = some r.port := by
    rw [Json.document, if_pos hport64]
    exact if_pos hport
  have htagsRead : ∃ v tags, d.member? "Tags" = some v ∧
      v.asOptional (·.asList asText) = some tags ∧ tags.getD [] = r.tags := by
    rcases h.tags with hsame | ⟨hnull, hnone⟩
    · refine ⟨(Json.texts r.tags).document, some r.tags, by rw [hsame, htags]; rfl, ?_, rfl⟩
      show ((Json.texts r.tags).document.asList asText).map some = _
      rw [asList_texts]
      rfl
    · -- a null is read as no tags, and there are none
      rw [htags, Option.some_inj] at hnone
      have hempty : r.tags = [] := List.map_eq_nil_iff.mp (Json.list.inj hnone)
      exact ⟨Json.null.document, none, hnull, rfl, hempty.symm⟩
  obtain ⟨v, tags, htagsMember, hread, hsame⟩ := htagsRead
  refine ⟨tags, ?_, hsame⟩
  rw [ServiceRecord.ofDocument, fields_of_isRecord h.isRecord]
  simp only [List.map_cons, List.map_nil, hidRead, hnameRead, htagsMember, haddressRead, hportRead]
  show (v.asOptional (·.asList asText)).bind (fun tags =>
    ((Json.natural r.port).document.asNatural Text.maxWord16).bind fun port =>
      some (⟨r.id, r.name, tags, r.address, port⟩ : ServiceRecord)) = _
  rw [hread, hnatural]
  rfl

theorem node_of_namesNode {d : Document} (h : NamesNode d) : ∃ node, Node.ofDocument d = some node := by
  obtain ⟨name, hname⟩ := h.node
  obtain ⟨address, haddress⟩ := h.address
  rw [Node.ofDocument, fields_of_isRecord h.isRecord]
  simp only [List.map_cons, List.map_nil, hname, haddress]
  exact ⟨⟨name, address⟩, rfl⟩

/-- The client reads a document that lists an announced instance: its address and its tags, whatever
the node it is on. -/
theorem entry_of_lists {d : Document} {r : Registration}
    (h : Lists d (Announcement.ofRegistration r).toJson) (hr : r.IsAddressed) :
    ∃ e, Entry.ofDocument d = some e ∧ e.address = r.instanceAddress ∧
      e.service.tags.getD [] = r.tags := by
  obtain ⟨n, hn, hnode⟩ := h.node
  obtain ⟨i, hi, hinstance⟩ := h.service
  obtain ⟨node, hreadNode⟩ := node_of_namesNode hnode
  obtain ⟨tags, hreadService, htags⟩ := serviceRecord_of_restates hinstance hr.port
  refine ⟨⟨node, ⟨r.id, r.name, tags, r.address, r.port⟩⟩, ?_, ?_, htags⟩
  · rw [Entry.ofDocument, fields_of_isRecord h.isRecord]
    simp only [List.map_cons, List.map_nil, hn, hi]
    show (Node.ofDocument n).bind (fun node =>
      (ServiceRecord.ofDocument i).bind fun service => some (⟨node, service⟩ : Entry)) = _
    rw [hreadNode, hreadService]
    rfl
  · -- the node stands in only for an address that is missing
    have hhost : r.address.isEmpty = false := by
      rw [← Bool.not_eq_true, String.isEmpty_iff]
      exact hr.host
    simp only [Entry.address, Entry.host, hhost, Registration.instanceAddress]
    rfl

/-- An entry says what a body does, whatever registration that is the body for. -/
def Entry.Says (e : Entry) (body : Json) : Prop :=
  ∀ r : Registration, r.IsAddressed → body = (Announcement.ofRegistration r).toJson →
    e.address = r.instanceAddress ∧ e.service.tags.getD [] = r.tags

/-- **What the client reads from a listing of announced instances**: an entry for each. -/
theorem listOf_of_lists {docs : List Document} {listed : List Json}
    (h : List.Forall₂ Lists docs listed)
    (hlisted : ∀ body ∈ listed, ∃ r : Registration, r.IsAddressed ∧
      body = (Announcement.ofRegistration r).toJson) :
    ∃ es, Entry.listOf (.list docs) = some es ∧ List.Forall₂ Entry.Says es listed := by
  show ∃ es, docs.mapM Entry.ofDocument = some es ∧ _
  induction h with
  | nil => exact ⟨[], rfl, .nil⟩
  | @cons d body docs listed hd _ ih =>
    obtain ⟨es, hes, hmatch⟩ := ih fun body hbody => hlisted body (List.mem_cons_of_mem _ hbody)
    obtain ⟨r, hr, rfl⟩ := hlisted body List.mem_cons_self
    obtain ⟨e, he, -⟩ := entry_of_lists hd hr
    refine ⟨e :: es, by rw [List.mapM_cons, he, hes]; rfl, .cons (fun r' hr' hbody => ?_) hmatch⟩
    -- two registrations with one body say the same
    obtain ⟨e', he', hsaid⟩ := entry_of_lists (hbody ▸ hd) hr'
    obtain rfl := Option.some_inj.mp (he.symm.trans he')
    exact hsaid

/-! ## What is relied on -/

/-- Whoever answers requests, and what is kept there. -/
structure Registry (σ : Type) where
  /-- The body that is kept under an identity. -/
  kept : σ → String → Option Json
  reply : σ → Network
  /-- The state after a request was answered. -/
  after : σ → Request → σ

/-- Is an instance listed, as far as its service, its health and its tags go? It has to be of the
service; with a parameter for health it has to pass, and with one for a tag to carry that. -/
def isWanted (healthy : String → Bool) (service : String) (params : List (String × String))
    (id : String) (body : Json) : Bool :=
  (body.member? "Name").bind Json.text? == some service
    && (healthy id || (params.lookup "passing").isNone)
    && (params.lookup "tag").all fun tag =>
      ((body.member? "Tags").bind Json.texts?).any (·.contains tag)

/-- What is wanted of the body of an announcement, said of what is announced. -/
theorem isWanted_body {healthy : String → Bool} {service : String} {params : List (String × String)}
    {id : String} {r : Registration} :
    isWanted healthy service params id (Announcement.ofRegistration r).toJson = true ↔
      r.name = service ∧ (params.lookup "passing" ≠ none → healthy id = true) ∧
        ∀ tag, params.lookup "tag" = some tag → tag ∈ r.tags := by
  obtain ⟨-, hname, htags, -⟩ := member?_body r
  have hservice : (some (Json.text r.name)).bind Json.text? = some r.name := rfl
  have htexts : (some (Json.texts r.tags)).bind Json.texts? = some r.tags := Json.texts?_texts r.tags
  rw [isWanted, hname, htags, hservice, htexts]
  simp only [Bool.and_eq_true, beq_iff_eq, Option.some_inj, Bool.or_eq_true, Option.isNone_iff_eq_none,
    Option.all_eq_true, Option.any_some, List.contains_iff_mem, and_assoc]
  refine and_congr_right fun _ => and_congr_left fun _ => ?_
  rw [or_comm, or_iff_not_imp_left]

namespace Registry

variable {σ : Type}

/-- What a registry that answers for a root is relied on for: it keeps every body under the identity
in it, and lists what it keeps of a service, in some order. The health of instances is what it is. -/
structure IsHonest (R : Registry σ) (root : List (List Char)) (healthy : String → Bool) : Prop where
  stores : ∀ (s : σ) (request : Request) (body : Json) (id : String),
    request.wish? root = some (.store body) → (body.member? "ID").bind Json.text? = some id →
      (∃ reply, R.reply s request = some reply ∧ reply.isReadable = true ∧ reply.isSuccess = true) ∧
        R.kept (R.after s request) = Function.update (R.kept s) id (some body)
  lists : ∀ (s : σ) (request : Request) (service : String) (params : List (String × String)),
    request.wish? root = some (.list service params) →
      ∃ reply, R.reply s request = some reply ∧ reply.isReadable = true ∧ reply.isSuccess = true ∧
        (∃ index, reply.index = .ok index) ∧
        ∃ docs listed, reply.content?.bind Document.ofJsonBytes = some (.list docs) ∧
          List.Forall₂ Lists docs listed ∧
          ∀ body, body ∈ listed ↔ ∃ id, R.kept s id = some body ∧
            isWanted healthy service params id body = true

end Registry

end Agent

end Switchboard
