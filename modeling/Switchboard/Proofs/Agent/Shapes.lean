import Mathlib.Data.List.Forall2
import Mathlib.Data.List.Nodup
import Switchboard.Agent.Entry
import Switchboard.Proofs.Document.Grammar
/-!
# The shapes of listed entries

What a document of JSON has to look like to list an entry, field by field: what may be left out, what
may be null, and which values there are. The client reads exactly these documents.

* `IsJson` — documents that a text of JSON can denote.
* `IsOpenRecord`, `field?` — a record with fields of given names, among others.
* `Gives`, `IsText`, `IsTags`, `IsPort` — what is made of a field that may be left out.
* `Node.Shape`, `ServiceRecord.Shape`, `Entry.Shape` — the shapes.
* `listOf_eq_some_iff` — what lists entries.
-/

namespace Switchboard

namespace Document

/-! ## Documents of JSON -/

/-- A document whose leaves are written in JSON. -/
inductive IsJson : Document → Prop
  | text (s : Option String) : IsJson (Json.textLeaf s)
  | plain (v : Scalar) : IsJson (Json.plainLeaf v)
  | list {ds : List Document} (h : ∀ d ∈ ds, IsJson d) : IsJson (.list ds)
  | record {ms : List (Option String × Document)} (h : ∀ m ∈ ms, IsJson m.2) : IsJson (.record ms)

/-- The documents in a phrase. -/
def Json.Phrase.documents : Json.Phrase → List Document
  | .value d | .spaced d => [d]
  | .items ds => ds
  | .member m => [m.2]
  | .members ms => ms.map (·.2)

theorem Json.Writes.isJson {cs : List Char} {p : Json.Phrase} (h : Json.Writes cs p) :
    ∀ d ∈ p.documents, d.IsJson := by
  induction h with
  | null | truth | untruth => exact List.forall_mem_singleton.mpr (.plain _)
  | text => exact List.forall_mem_singleton.mpr (.text _)
  | number => exact List.forall_mem_singleton.mpr (.plain _)
  | emptyList => exact List.forall_mem_singleton.mpr (.list fun _ hd => absurd hd List.not_mem_nil)
  | list _ ih => exact List.forall_mem_singleton.mpr (.list ih)
  | emptyRecord =>
    exact List.forall_mem_singleton.mpr (.record fun _ hm => absurd hm List.not_mem_nil)
  | record _ ih =>
    exact List.forall_mem_singleton.mpr (.record fun m hm => ih m.2 (List.mem_map_of_mem hm))
  | spaced _ _ _ ih | lastItem _ ih | member _ _ _ _ ih | lastMember _ ih => exact ih
  | item _ _ ih ihmore | nextMember _ _ ih ihmore =>
    exact List.forall_mem_cons.mpr ⟨List.forall_mem_singleton.mp ih, ihmore⟩

theorem Json.Denotes.isJson {s : String} {d : Document} (h : Json.Denotes s d) : d.IsJson :=
  List.forall_mem_singleton.mp (Writes.isJson h)

section Inversion

variable {l : Leaf} {ds : List Document} {ms : List (Option String × Document)}

theorem IsJson.of_leaf {d : Document} (h : d.IsJson) (hleaf : d = .leaf l) :
    (∃ s, d = Json.textLeaf s) ∨ ∃ v, d = Json.plainLeaf v := by
  cases h with
  | text s => exact .inl ⟨s, rfl⟩
  | plain v => exact .inr ⟨v, rfl⟩
  | list => cases hleaf
  | record => cases hleaf

theorem IsJson.of_list {d : Document} (h : d.IsJson) (hlist : d = .list ds) :
    ∀ d ∈ ds, d.IsJson := by
  cases h with
  | text s => cases s <;> cases hlist
  | plain => cases hlist
  | list h => exact Document.list.inj hlist ▸ h
  | record => cases hlist

theorem IsJson.of_record {d : Document} (h : d.IsJson) (hrecord : d = .record ms) :
    ∀ m ∈ ms, m.2.IsJson := by
  cases h with
  | text s => cases s <;> cases hrecord
  | plain => cases hrecord
  | list => cases hrecord
  | record h => exact Document.record.inj hrecord ▸ h

end Inversion

/-! ### Values -/

theorem IsJson.asText_eq_some_iff {d : Document} (h : d.IsJson) {s : String} :
    d.asText = some s ↔ d = Json.textLeaf (some s) := by
  constructor
  · intro hread
    cases d with
    | leaf l =>
      rcases h.of_leaf rfl with ⟨s', heq⟩ | ⟨v, heq⟩
      · rw [heq] at hread ⊢
        cases s' with
        | none => cases hread
        | some s' => rw [Option.some_inj.mp hread]
      · rw [heq] at hread
        cases hread
    | list => cases hread
    | record => cases hread
  · rintro rfl
    rfl

theorem IsJson.asNatural_eq_some_iff {d : Document} (h : d.IsJson) {limit n : Nat} :
    d.asNatural limit = some n ↔ d = Json.plainLeaf (.natural n) ∧ n ≤ limit := by
  constructor
  · intro hread
    cases d with
    | leaf l =>
      rcases h.of_leaf rfl with ⟨s, heq⟩ | ⟨v, heq⟩
      · rw [heq] at hread
        cases s <;> cases hread
      · rw [heq] at hread ⊢
        cases v with
        | natural n' =>
          obtain ⟨hle, heq⟩ := Option.ite_none_right_eq_some.mp hread
          exact ⟨by rw [Option.some_inj.mp heq], Option.some_inj.mp heq ▸ hle⟩
        | _ => cases hread
    | list => cases hread
    | record => cases hread
  · rintro ⟨rfl, hle⟩
    exact if_pos hle

/-- Only a null is absent. -/
theorem IsJson.isAbsent_iff {l : Leaf} (h : (Document.leaf l).IsJson) :
    l.isAbsent = true ↔ Document.leaf l = Json.plainLeaf .nothing := by
  constructor
  · intro habsent
    rcases h.of_leaf rfl with ⟨s, heq⟩ | ⟨v, heq⟩
    · cases s <;> (cases heq; cases habsent)
    · cases heq
      rw [eq_of_beq habsent]
      rfl
  · rintro ⟨⟩
    rfl

/-- A list is read if each of its items is, and into just as many values. -/
theorem mapM_eq_some_iff {α : Type} {read : Document → Option α} {R : Document → α → Prop}
    {ds : List Document} {as : List α} (h : ∀ d ∈ ds, ∀ a, read d = some a ↔ R d a) :
    ds.mapM read = some as ↔ List.Forall₂ R ds as := by
  induction ds generalizing as with
  | nil =>
    rw [List.mapM_nil, List.forall₂_nil_left_iff]
    exact Option.some_inj.trans eq_comm
  | cons d ds ih =>
    obtain ⟨hd, hds⟩ := List.forall_mem_cons.mp h
    rw [List.mapM_cons, List.forall₂_cons_left_iff]
    constructor
    · intro hread
      obtain ⟨a, ha, hread⟩ := Option.bind_eq_some_iff.mp hread
      obtain ⟨as', has, hread⟩ := Option.bind_eq_some_iff.mp hread
      exact ⟨a, as', (hd a).mp ha, (ih hds).mp has, (Option.some_inj.mp hread).symm⟩
    · rintro ⟨a, as', ha, has, rfl⟩
      rw [(hd a).mpr ha, (ih hds).mpr has]
      rfl

/-! ## Fields -/

/-- A record that has each of the names at most once, and any others; or a list of the fields in
order, that may stop early. -/
inductive IsOpenRecord (names : List String) : Document → Prop
  | byName {entries : List (Option String × Document)} (htexts : ∀ e ∈ entries, e.1 ≠ none)
      (honce : ∀ name ∈ names, (entries.map (·.1)).count (some name) ≤ 1) :
      IsOpenRecord names (.record entries)
  | inOrder {items : List Document} (h : items.length ≤ names.length) :
      IsOpenRecord names (.list items)

/-- The field of a name, if it is there. -/
def field? (d : Document) (names : List String) (name : String) : Option Document :=
  match d with
  | .record entries => entries.lookup (some name)
  | .list items => items[names.idxOf name]?
  | .leaf _ => none

/-- Are the fields written in order? -/
def isInOrder : Document → Bool
  | .list _ => true
  | _ => false

/-- The fields of an open record. -/
def openFields (d : Document) (names : List String) : Fields :=
  ⟨d.isInOrder, names.map (d.field? names)⟩

/-- The fields of a list, one by one. -/
theorem map_some_append_replicate {names : List String} (hnames : names.Nodup)
    {items : List Document} (h : items.length ≤ names.length) :
    items.map some ++ List.replicate (names.length - items.length) none
      = names.map fun name => items[names.idxOf name]? := by
  refine List.ext_getElem (by simp; omega) fun i hi hi' => ?_
  rw [List.length_map] at hi'
  rw [List.getElem_map, hnames.idxOf_getElem i hi']
  -- the list of fields may stop early
  by_cases hitem : i < items.length
  · rw [List.getElem_append_left (by rwa [List.length_map]), List.getElem_map,
      List.getElem?_eq_getElem hitem]
  · rw [List.getElem_append_right (by rw [List.length_map]; omega), List.getElem_replicate,
      List.getElem?_eq_none (by omega)]

theorem fields_eq_some_iff {names : List String} (hnames : names.Nodup) {d : Document} {f : Fields} :
    d.fields names true = some f ↔
      d.IsOpenRecord names ∧ f = d.openFields names := by
  cases d with
  | leaf l =>
    constructor
    · intro h
      cases h
    · rintro ⟨hopen, -⟩
      cases hopen
  | list items =>
    have hopen : (Document.list items).IsOpenRecord names ↔ items.length ≤ names.length :=
      ⟨fun h => by cases h; assumption, .inOrder⟩
    rw [hopen, fields, Option.ite_none_right_eq_some, eq_comm (b := some f), Option.some_inj]
    refine and_congr_right fun h => ?_
    rw [map_some_append_replicate hnames h]
    rfl
  | record entries =>
    have hopen : (Document.record entries).IsOpenRecord names ↔
        (∀ e ∈ entries, e.1 ≠ none) ∧
          ∀ name ∈ names, (entries.map (·.1)).count (some name) ≤ 1 :=
      ⟨fun h => by cases h; exact ⟨‹_›, ‹_›⟩, fun h => .byName h.1 h.2⟩
    have honce (name : String) : entries.countP (fun e => e.1 == some name)
        = (entries.map (·.1)).count (some name) := by
      rw [List.count, List.countP_map]
      rfl
    rw [hopen, fields, Option.ite_none_right_eq_some, eq_comm (b := some f), Option.some_inj]
    simp only [Bool.and_eq_true, List.all_eq_true, decide_eq_true_eq, honce]
    refine and_congr_left fun _ => and_congr_left fun _ => forall₂_congr fun e _ => ?_
    cases e.1 <;> simp

/-- The fields of a document of JSON are such documents. -/
theorem IsJson.openFields {d : Document} (h : d.IsJson) {names : List String} {i : Nat} :
    ∀ v ∈ (d.openFields names).at? i, v.IsJson := by
  intro v hv
  obtain ⟨name, -, hname⟩ := List.mem_map.mp
    (List.mem_of_getElem? (Option.join_eq_some_iff.mp hv))
  cases d with
  | leaf => cases hname
  | list items => exact h.of_list rfl v (List.mem_of_getElem? hname)
  | record entries =>
    obtain ⟨before, after, rfl, -⟩ := List.lookup_eq_some_iff.mp hname
    exact h.of_record rfl _ (List.mem_append_right before List.mem_cons_self)

end Document

namespace Agent

open Document

/-! ## What is made of a field -/

/-- What is made of a field that may be left out. -/
inductive Gives {α : Type} (fallback : α) (R : Document → α → Prop) : Option Document → α → Prop
  | missing : Gives fallback R none fallback
  | present {d : Document} {a : α} (h : R d a) : Gives fallback R (some d) a

theorem defaulted_eq_some_iff {α : Type} {f : Fields} {i : Nat} {read : Document → Option α}
    {fallback a : α} {R : Document → α → Prop}
    (h : ∀ d ∈ f.at? i, read d = some a ↔ R d a) :
    f.defaulted i read fallback = some a ↔ Gives fallback R (f.at? i) a := by
  rw [Fields.defaulted]
  cases hd : f.at? i with
  | none =>
    constructor
    · intro hread
      obtain rfl := Option.some_inj.mp hread
      exact .missing
    · rintro ⟨⟩
      rfl
  | some d => exact (h d hd).trans ⟨.present, fun hgives => by cases hgives; assumption⟩

/-- The document is a text. -/
def IsText (d : Document) (s : String) : Prop := d = Json.textLeaf (some s)

/-- The document is a list of texts, or a null for none. -/
inductive IsTags : Document → Option (List String) → Prop
  | null : IsTags (Json.plainLeaf .nothing) none
  | list {ds : List Document} {ss : List String} (h : List.Forall₂ IsText ds ss) :
      IsTags (.list ds) (some ss)

/-- The document is a number of 16 bits. -/
def IsPort (d : Document) (n : Nat) : Prop := d = Json.plainLeaf (.natural n) ∧ n < 2 ^ 16

theorem asPort_eq_some_iff {d : Document} (h : d.IsJson) {n : Nat} :
    d.asNatural Text.maxWord16 = some n ↔ IsPort d n :=
  h.asNatural_eq_some_iff.trans (and_congr_right fun _ => Nat.lt_succ_iff.symm)

theorem asTexts_eq_some_iff {ds : List Document} (h : ∀ d ∈ ds, d.IsJson) {ss : List String} :
    ds.mapM asText = some ss ↔ List.Forall₂ IsText ds ss :=
  mapM_eq_some_iff fun d hd _ => (h d hd).asText_eq_some_iff

theorem asTags_eq_some_iff {d : Document} (h : d.IsJson) {tags : Option (List String)} :
    d.asOptional (·.asList asText) = some tags ↔ IsTags d tags := by
  cases d with
  | leaf l =>
    by_cases habsent : l.isAbsent = true
    · rw [h.isAbsent_iff.mp habsent]
      constructor
      · intro hread
        obtain rfl := Option.some_inj.mp hread
        exact .null
      · intro htags
        cases htags
        rfl
    · constructor
      · intro hread
        obtain ⟨value, written, isAbsent⟩ := l
        cases isAbsent with
        | true => exact absurd rfl habsent
        | false => cases hread
      · intro htags
        cases htags
        exact absurd rfl habsent
  | list ds =>
    show (ds.mapM asText).map some = some tags ↔ _
    rw [Option.map_eq_some_iff]
    constructor
    · rintro ⟨ss, hss, rfl⟩
      exact .list ((asTexts_eq_some_iff (h.of_list rfl)).mp hss)
    · intro htags
      cases htags with
      | list hss => exact ⟨_, (asTexts_eq_some_iff (h.of_list rfl)).mpr hss, rfl⟩
  | record ms =>
    constructor
    · intro hread
      cases hread
    · intro htags
      cases htags

/-! ## Shapes -/

/-- The fields of a node. -/
def Node.names : List String := ["Node", "Address"]

/-- The document of a node. -/
structure Node.Shape (d : Document) (n : Node) : Prop where
  isOpenRecord : d.IsOpenRecord Node.names
  name : Gives "" IsText (d.field? Node.names "Node") n.name
  address : Gives "" IsText (d.field? Node.names "Address") n.address

/-- The fields of an instance. -/
def ServiceRecord.names : List String := ["ID", "Service", "Tags", "Address", "Port"]

/-- The document of an instance. -/
structure ServiceRecord.Shape (d : Document) (s : ServiceRecord) : Prop where
  isOpenRecord : d.IsOpenRecord ServiceRecord.names
  id : Gives "" IsText (d.field? ServiceRecord.names "ID") s.id
  service : Gives "" IsText (d.field? ServiceRecord.names "Service") s.service
  tags : Gives none IsTags (d.field? ServiceRecord.names "Tags") s.tags
  address : Gives "" IsText (d.field? ServiceRecord.names "Address") s.address
  port : Gives 0 IsPort (d.field? ServiceRecord.names "Port") s.port

/-- The fields of an entry. -/
def Entry.names : List String := ["Node", "Service"]

/-- The document of an entry: neither field may be left out. -/
structure Entry.Shape (d : Document) (e : Entry) : Prop where
  isOpenRecord : d.IsOpenRecord Entry.names
  node : ∃ v, d.field? Entry.names "Node" = some v ∧ Node.Shape v e.node
  service : ∃ v, d.field? Entry.names "Service" = some v ∧ ServiceRecord.Shape v e.service

section Reading

variable {d : Document} (h : d.IsJson)

include h

theorem defaulted_text {names : List String} {i : Nat} {s : String} :
    (d.openFields names).defaulted i asText "" = some s ↔
      Gives "" IsText ((d.openFields names).at? i) s :=
  defaulted_eq_some_iff fun v hv => (h.openFields v hv).asText_eq_some_iff

theorem Node.ofDocument_eq_some_iff {n : Node} :
    Node.ofDocument d = some n ↔ Node.Shape d n := by
  constructor
  · intro hread
    obtain ⟨f, hf, hread⟩ := Option.bind_eq_some_iff.mp hread
    obtain ⟨name, hname, hread⟩ := Option.bind_eq_some_iff.mp hread
    obtain ⟨address, haddress, hread⟩ := Option.bind_eq_some_iff.mp hread
    obtain rfl := Option.some_inj.mp hread
    obtain ⟨hopen, rfl⟩ := (fields_eq_some_iff (by decide)).mp hf
    exact ⟨hopen, (defaulted_text h).mp hname, (defaulted_text h).mp haddress⟩
  · rintro ⟨hopen, hname, haddress⟩
    exact Option.bind_eq_some_iff.mpr ⟨_, (fields_eq_some_iff (by decide)).mpr ⟨hopen, rfl⟩,
      Option.bind_eq_some_iff.mpr ⟨_, (defaulted_text h).mpr hname,
        Option.bind_eq_some_iff.mpr ⟨_, (defaulted_text h).mpr haddress, rfl⟩⟩⟩

theorem ServiceRecord.ofDocument_eq_some_iff {s : ServiceRecord} :
    ServiceRecord.ofDocument d = some s ↔ ServiceRecord.Shape d s := by
  have htags {i : Nat} {tags : Option (List String)} :
      (d.openFields names).defaulted i (·.asOptional (·.asList asText)) none = some tags ↔
        Gives none IsTags ((d.openFields names).at? i) tags :=
    defaulted_eq_some_iff fun v hv => asTags_eq_some_iff (h.openFields v hv)
  have hport {i : Nat} {port : Nat} :
      (d.openFields names).defaulted i (·.asNatural Text.maxWord16) 0 = some port ↔
        Gives 0 IsPort ((d.openFields names).at? i) port :=
    defaulted_eq_some_iff fun v hv => asPort_eq_some_iff (h.openFields v hv)
  constructor
  · intro hread
    obtain ⟨f, hf, hread⟩ := Option.bind_eq_some_iff.mp hread
    obtain ⟨id, hid, hread⟩ := Option.bind_eq_some_iff.mp hread
    obtain ⟨service, hservice, hread⟩ := Option.bind_eq_some_iff.mp hread
    obtain ⟨tags, htagsRead, hread⟩ := Option.bind_eq_some_iff.mp hread
    obtain ⟨address, haddress, hread⟩ := Option.bind_eq_some_iff.mp hread
    obtain ⟨port, hportRead, hread⟩ := Option.bind_eq_some_iff.mp hread
    obtain rfl := Option.some_inj.mp hread
    obtain ⟨hopen, rfl⟩ := (fields_eq_some_iff (by decide)).mp hf
    exact ⟨hopen, (defaulted_text h).mp hid, (defaulted_text h).mp hservice, htags.mp htagsRead,
      (defaulted_text h).mp haddress, hport.mp hportRead⟩
  · rintro ⟨hopen, hid, hservice, htagsShape, haddress, hportShape⟩
    exact Option.bind_eq_some_iff.mpr ⟨_, (fields_eq_some_iff (by decide)).mpr ⟨hopen, rfl⟩,
      Option.bind_eq_some_iff.mpr ⟨_, (defaulted_text h).mpr hid,
        Option.bind_eq_some_iff.mpr ⟨_, (defaulted_text h).mpr hservice,
          Option.bind_eq_some_iff.mpr ⟨_, htags.mpr htagsShape,
            Option.bind_eq_some_iff.mpr ⟨_, (defaulted_text h).mpr haddress,
              Option.bind_eq_some_iff.mpr ⟨_, hport.mpr hportShape, rfl⟩⟩⟩⟩⟩⟩

theorem Entry.ofDocument_eq_some_iff {e : Entry} :
    Entry.ofDocument d = some e ↔ Entry.Shape d e := by
  constructor
  · intro hread
    obtain ⟨f, hf, hread⟩ := Option.bind_eq_some_iff.mp hread
    obtain ⟨node, hnode, hread⟩ := Option.bind_eq_some_iff.mp hread
    obtain ⟨service, hservice, hread⟩ := Option.bind_eq_some_iff.mp hread
    obtain rfl := Option.some_inj.mp hread
    obtain ⟨hopen, rfl⟩ := (fields_eq_some_iff (by decide)).mp hf
    obtain ⟨v, hv, hnode⟩ := Option.bind_eq_some_iff.mp hnode
    obtain ⟨w, hw, hservice⟩ := Option.bind_eq_some_iff.mp hservice
    exact ⟨hopen, ⟨v, hv, (Node.ofDocument_eq_some_iff (h.openFields v hv)).mp hnode⟩,
      ⟨w, hw, (ServiceRecord.ofDocument_eq_some_iff (h.openFields w hw)).mp hservice⟩⟩
  · rintro ⟨hopen, ⟨v, hv, hnode⟩, w, hw, hservice⟩
    have hvJson := h.openFields v (show (d.openFields Entry.names).at? 0 = some v from hv)
    have hwJson := h.openFields w (show (d.openFields Entry.names).at? 1 = some w from hw)
    exact Option.bind_eq_some_iff.mpr ⟨_, (fields_eq_some_iff (by decide)).mpr ⟨hopen, rfl⟩,
      Option.bind_eq_some_iff.mpr ⟨_, Option.bind_eq_some_iff.mpr
          ⟨v, hv, (Node.ofDocument_eq_some_iff hvJson).mpr hnode⟩,
        Option.bind_eq_some_iff.mpr ⟨_, Option.bind_eq_some_iff.mpr
          ⟨w, hw, (ServiceRecord.ofDocument_eq_some_iff hwJson).mpr hservice⟩, rfl⟩⟩⟩

/-- **What lists entries**: a list of documents that have the shape, one of each entry. -/
theorem Entry.listOf_eq_some_iff {es : List Entry} :
    Entry.listOf d = some es ↔ ∃ ds, d = .list ds ∧ List.Forall₂ Entry.Shape ds es := by
  cases d with
  | leaf l => simp [Entry.listOf, asList]
  | record ms => simp [Entry.listOf, asList]
  | list ds =>
    have hitems := h.of_list rfl
    have hread : ds.mapM Entry.ofDocument = some es ↔ List.Forall₂ Entry.Shape ds es :=
      mapM_eq_some_iff fun d hd _ => Entry.ofDocument_eq_some_iff (hitems d hd)
    exact hread.trans ⟨fun hes => ⟨ds, rfl, hes⟩, fun ⟨ds', heq, hes⟩ =>
      Document.list.inj heq ▸ hes⟩

end Reading

end Agent

end Switchboard
