import Switchboard.Proofs.Agent.Bytes
import Switchboard.Proofs.Agent.Location
/-!
# What requests say

A request of a client is read the way an agent reads it: the segments of its path behind the root
that the agent answers for, decoded, and the pairs of its query. For services whose names have
nothing in them that is special in a path, a request says exactly what was asked for. The only thing
that can keep it from being made is its length.

* `Request.wish?` — what a request wants of an agent that answers for a root.
* `IsWritable` — a name that is read the way it is written at the end of a path; `IsPlainName` — one
  that is nothing but a name anywhere in it.
* `Client.LeadsTo` — the address of a client leads to a place that requests can be sent to.
* `request_of_names` — a request can be made, unless its URL is too long.
* `wish?_listing`, `wish?_announcing` — the requests of a client want what was asked for.
-/

namespace Switchboard.Agent

open Text

/-! ## Reading requests -/

/-- What the segments of a URL behind a root say. -/
def Url.behind? (root : List (List Char)) (url : Url) : Option (List String) :=
  match url.path with
  | .plain _ => none
  | .steps segments =>
    if root.isPrefixOf segments then (segments.drop root.length).mapM segmentText? else none

/-- What a request wants of an agent. -/
inductive Wish
  | store (body : Json)
  | list (service : String) (params : List (String × String))
  deriving Repr

/-- What a request wants of an agent that answers for a root. -/
def Request.wish? (root : List (List Char)) (r : Request) : Option Wish :=
  match r.method, r.url.behind? root, r.body with
  | .put, some ["agent", "service", "register"], some body => some (.store body)
  | .get, some ["health", "service", name], _ => r.url.pairs?.map (.list name)
  | _, _, _ => none

namespace Url

variable {base : Url} {segments : List (List Char)} {pairs : List (String × String)}

/-- The URL of a request for segments behind the folder of a URL, with pairs in its query. -/
def asked (base : Url) (segments : List (List Char)) (pairs : List (String × String)) : Url :=
  { base with
    credentials := base.withoutCredentials.credentials
    path := .steps (base.folder ++ segments)
    query := addPairs base.query pairs }

theorem withPairs_within : ((base.within segments).withoutCredentials).withPairs pairs
    = base.asked segments pairs := by
  rcases hbase : base.userAndPassword with ⟨user, password⟩
  have hwithin : (base.within segments).userAndPassword = (user, password) := hbase
  simp only [asked, withoutCredentials, hbase, hwithin]
  split <;> rfl

theorem behind?_asked {texts : List String} (h : segments.mapM segmentText? = some texts) :
    (base.asked segments pairs).behind? base.folder = some texts := by
  show (if base.folder.isPrefixOf (base.folder ++ segments) then
    ((base.folder ++ segments).drop base.folder.length).mapM segmentText? else none) = _
  rw [if_pos (List.isPrefixOf_iff_prefix.mpr (List.prefix_append _ _)), List.drop_left, h]

theorem pairs?_asked (h : base.query = none) : (base.asked segments pairs).pairs? = some pairs := by
  rw [← withPairs_within]
  refine pairs?_withPairs ?_ pairs
  rcases hwithin : (base.within segments).userAndPassword with ⟨user, password⟩
  simp only [withoutCredentials, hwithin]
  split <;> exact h

/-- Of two requests behind one URL, if one can be made, so can the other, unless it is too long. -/
theorem canSend_asked {segments' : List (List Char)} {pairs' : List (String × String)}
    (hhost : base.namesHost = true) (hsegments : segments ≠ []) (hsegments' : segments' ≠ [])
    (h : Client.canSend (base.asked segments pairs) = true)
    (hlength : (base.asked segments' pairs').text.length ≤ maxLength) :
    Client.canSend (base.asked segments' pairs') = true := by
  have hsome : (base.asked segments pairs).host.isSome = true := by
    show base.host.isSome = true
    cases hbase : base.host with
    | none => rw [namesHost, hbase] at hhost; cases hhost
    | some host => rfl
  have hpath {l : List (List Char)} (hl : l ≠ []) :
      ∃ segment rest, Path.steps (base.folder ++ l) = .steps (segment :: rest) := by
    obtain ⟨segment, rest, heq⟩ := List.exists_cons_of_ne_nil
      (List.append_ne_nil_of_right_ne_nil base.folder hl)
    exact ⟨segment, rest, congrArg Path.steps heq⟩
  exact canSend_of_length hsome ⟨rfl, rfl, rfl, rfl⟩ (hpath hsegments) (hpath hsegments') h hlength

end Url

/-! ## Names -/

/-- A name with nothing in it that is special in a path: no separator, no mark that ends a path or
starts a written byte, no blank or control, and it is no step. -/
structure IsPlainName (name : String) : Prop where
  chars : ∀ c ∈ name.toList, 32 < c.toNat ∧ c ∉ ['/', '\\', '?', '#', '%']
  ne_stay : name ≠ "."
  ne_stepUp : name ≠ ".."

instance (name : String) : Decidable (IsPlainName name) :=
  decidable_of_iff
    (name.toList.all (fun c => decide (32 < c.toNat ∧ c ∉ ['/', '\\', '?', '#', '%'])) = true ∧
      name ≠ "." ∧ name ≠ "..")
    ⟨fun h => ⟨fun c hc => of_decide_eq_true (List.all_eq_true.mp h.1 c hc), h.2.1, h.2.2⟩,
      fun h => ⟨List.all_eq_true.mpr fun c hc => decide_eq_true (h.chars c hc), h.ne_stay,
        h.ne_stepUp⟩⟩

/-- A name as it is written in a path. -/
def segmentOf (name : String) : List Char := percentEncoded Url.isSpecialInPath name.toList

/-- A name that is read the way it is written at the end of a path. -/
structure IsWritable (name : String) : Prop where
  /-- Nothing in it separates segments, ends the path or is dropped. -/
  chars : ∀ c ∈ name.toList, c ∉ ['/', '\\', '?', '#', '\t', '\n', '\r']
  /-- No blank or control at its end, where it would be dropped. -/
  last : ∀ c ∈ name.toList.getLast?, 32 < c.toNat
  bytes : writesByte name.toList = false
  ne_stay : name ≠ "."
  ne_stepUp : name ≠ ".."

instance (name : String) : Decidable (IsWritable name) :=
  decidable_of_iff
    (name.toList.all (fun c => decide (c ∉ ['/', '\\', '?', '#', '\t', '\n', '\r'])) = true ∧
      name.toList.getLast?.all (fun c => decide (32 < c.toNat)) = true ∧
      writesByte name.toList = false ∧ name ≠ "." ∧ name ≠ "..")
    ⟨fun h => ⟨fun c hc => of_decide_eq_true (List.all_eq_true.mp h.1 c hc),
        fun c hc => by
          have hall := h.2.1
          rw [Option.mem_def.mp hc] at hall
          exact of_decide_eq_true hall,
        h.2.2.1, h.2.2.2.1, h.2.2.2.2⟩,
      fun h => ⟨List.all_eq_true.mpr fun c hc => decide_eq_true (h.chars c hc), by
          cases hlast : name.toList.getLast? with
          | none => rfl
          | some c => exact decide_eq_true (h.last c hlast),
        h.bytes, h.ne_stay, h.ne_stepUp⟩⟩

namespace IsWritable

variable {name : String}

/-- A writable name says itself. -/
theorem percentDecoded_eq (h : IsWritable name) :
    percentDecoded (segmentOf name) = utf8 name.toList := by
  rw [segmentOf, percentDecoded_segment]
  rcases percentDecoded_or name.toList with ⟨-, heq⟩ | ⟨hbyte, -⟩
  · exact heq
  · rw [h.bytes] at hbyte
    exact absurd hbyte Bool.false_ne_true

theorem segmentText?_eq (h : IsWritable name) : segmentText? (segmentOf name) = some name := by
  rw [segmentText?, h.percentDecoded_eq, textOf?_utf8, String.ofList_toList]

theorem isPlace (h : IsWritable name) : Url.IsPlace (segmentOf name) := by
  have hdots (n : Nat) (hn : Url.dotsOf (segmentOf name) = List.replicate n '.') :
      name = String.ofList (List.replicate n '.') := by
    have hbytes := Url.percentDecoded_of_dotsOf _ n hn
    rw [h.percentDecoded_eq, ← Url.utf8_dots] at hbytes
    have htext := congrArg textOf? hbytes
    rw [textOf?_utf8, textOf?_utf8, String.ofList_toList] at htext
    exact Option.some.inj htext
  refine ⟨beq_eq_false_iff_ne.mpr fun hup => ?_, beq_eq_false_iff_ne.mpr fun hstay => ?_⟩
  · exact h.ne_stepUp (hdots 2 hup)
  · exact h.ne_stay (hdots 1 hstay)

theorem segmentsOf_eq (h : IsWritable name) (kind : Scheme.Kind) :
    Url.segmentsOf kind name.toList = [segmentOf name] := by
  have hwhole : name.toList.splitOnP (Url.isSlash kind) = [name.toList] := by
    refine List.splitOnP_eq_singleton fun c hc => ?_
    rw [Url.isSlash, Bool.or_eq_false_iff, Bool.and_eq_false_iff]
    refine ⟨?_, .inl ?_⟩ <;>
    · rw [beq_eq_false_iff_ne]
      rintro rfl
      exact h.chars _ hc (by decide)
  rw [Url.segmentsOf, hwhole]
  rfl

end IsWritable

namespace IsPlainName

variable {name : String}

theorem isWritable (h : IsPlainName name) : IsWritable name where
  chars c hc hmem := by
    obtain ⟨hshown, hother⟩ := h.chars c hc
    rcases List.mem_append.mp (show c ∈ ['/', '\\', '?', '#'] ++ ['\t', '\n', '\r'] from hmem) with
      hmem | hmem
    · exact hother (List.mem_append_left ['%'] hmem)
    · rw [List.mem_cons, List.mem_cons, List.mem_singleton] at hmem
      rcases hmem with rfl | rfl | rfl <;> exact absurd hshown (by decide)
  last c hc := (h.chars c (List.mem_of_mem_getLast? hc)).1
  bytes := writesByte_of_not_mem fun hmem => (h.chars '%' hmem).2 (by decide)
  ne_stay := h.ne_stay
  ne_stepUp := h.ne_stepUp

theorem isInPath (h : IsPlainName name) : ∀ c ∈ name.toList, Url.IsInPath c := fun c hc => by
  obtain ⟨hshown, hother⟩ := h.chars c hc
  refine ⟨hshown, Bool.or_eq_false_iff.mpr ⟨?_, ?_⟩⟩ <;>
  · rw [beq_eq_false_iff_ne]
    rintro rfl
    exact hother (by decide)

/-- The segments of plain names say those names. -/
theorem mapM_segmentText? {names : List String} (h : ∀ name ∈ names, IsPlainName name) :
    (names.map segmentOf).mapM segmentText? = some names := by
  induction names with
  | nil => rfl
  | cons name names ih =>
    rw [List.map_cons, List.mapM_cons, (h name List.mem_cons_self).isWritable.segmentText?_eq,
      ih fun name hname => h name (List.mem_cons_of_mem _ hname)]
    rfl

/-- Plain names with slashes between them are read as their segments. -/
theorem segmentsOf_intercalate {names : List String} (h : ∀ name ∈ names, IsPlainName name)
    (hne : names ≠ []) (kind : Scheme.Kind) :
    Url.segmentsOf kind (['/'].intercalate (names.map String.toList)) = names.map segmentOf := by
  induction names with
  | nil => exact absurd rfl hne
  | cons name names ih =>
    have hname := h name List.mem_cons_self
    cases names with
    | nil =>
      rw [List.map_cons, List.map_nil, List.intercalate_singleton, hname.isWritable.segmentsOf_eq]
      rfl
    | cons next rest =>
      have hrest := ih (fun name hname => h name (List.mem_cons_of_mem _ hname))
        (List.cons_ne_nil _ _)
      rw [List.map_cons, List.map_cons, List.intercalate_cons_cons, List.append_assoc,
        List.singleton_append, Url.segmentsOf_append, hname.isWritable.segmentsOf_eq, ← List.map_cons, hrest]
      rfl

theorem isInPath_intercalate {names : List String} (h : ∀ name ∈ names, IsPlainName name) :
    ∀ c ∈ ['/'].intercalate (names.map String.toList), Url.IsInPath c := by
  induction names with
  | nil => exact fun c hc => absurd hc List.not_mem_nil
  | cons name names ih =>
    have hname := (h name List.mem_cons_self).isInPath
    cases names with
    | nil =>
      rw [List.map_cons, List.map_nil, List.intercalate_singleton]
      exact hname
    | cons next rest =>
      have hrest := ih fun name hname => h name (List.mem_cons_of_mem _ hname)
      rw [List.map_cons, List.map_cons, List.intercalate_cons_cons, ← List.map_cons]
      intro c hc
      rcases List.mem_append.mp hc with hc | hc
      · rcases List.mem_append.mp hc with hc | hc
        · exact hname c hc
        · rw [List.mem_singleton.mp hc]
          exact ⟨by decide, rfl⟩
      · exact hrest c hc

end IsPlainName

/-! ## Where a client's address leads -/

/-- The place at which instances are announced. -/
def announcingPlace : List String := ["agent", "service", "register"]

/-- The address of a client leads to a place behind which requests can be made: with a path behind
it, it is the URL of a host without query and fragment, the token may stand in a header, and the URL
that instances are announced at is one that can be sent to. -/
structure Client.LeadsTo (c : Client) (base : Url) : Prop where
  read : Url.read (c.location "") = some base
  isHttp : base.isHttp = true
  namesHost : base.namesHost = true
  query : base.query = none
  fragment : base.fragment = none
  token : c.token.all isHeaderValue = true
  announces : Client.canSend (base.asked (announcingPlace.map segmentOf) c.datacenterPairs) = true

/-- A client of an agent on the same machine. -/
def Client.loopback : Client := { address := "http://127.0.0.1:8500" }

/-- Where its address leads. -/
def Client.loopbackUrl : Url where
  scheme := "http".toList
  host := some (.v4 0x7f000001)
  port := some 8500
  path := .steps ["v1".toList, []]

theorem Client.leadsTo_loopback : Client.loopback.LeadsTo Client.loopbackUrl where
  read := by decide +kernel
  isHttp := rfl
  namesHost := rfl
  query := rfl
  fragment := rfl
  token := rfl
  announces := by decide +kernel

namespace Client

variable {c : Client} {base : Url}

theorem location_eq (c : Client) (path : String) :
    c.location path = withoutSlashes c.address ++ "/v1" ++ "/" ++ path := by
  rw [location, show "/v1/" = "/v1" ++ "/" from rfl, ← String.append_assoc]

theorem length_of_canSend {url : Url} (h : canSend url = true) :
    url.text.length ≤ Url.maxLength := by
  rw [canSend, Url.isSendable, Bool.and_eq_true, Bool.and_eq_true, String.length_toList] at h
  exact of_decide_eq_true h.2.1

/-- **A request can be made, unless its URL is too long.** -/
theorem request_eq (h : c.LeadsTo base) {method : Method} {path : String}
    {pairs : List (String × String)} {body : Option Json} {segments : List (List Char)}
    (hpath : ∀ ch ∈ path.toList, Url.IsInPath ch)
    (hsegments : Url.segmentsOf (Scheme.kind base.scheme) path.toList = segments)
    (hplaces : ∀ segment ∈ segments, Url.IsPlace segment) :
    c.request method path pairs body =
      if (base.asked segments (c.datacenterPairs ++ pairs)).text.length ≤ Url.maxLength then
        .ok { method, url := base.asked segments (c.datacenterPairs ++ pairs), token := c.token, body }
      else .error (.unsendable (base.asked segments (c.datacenterPairs ++ pairs))) := by
  have hread : Url.read (c.location path) = some (base.within segments) := by
    subst hsegments
    rw [location_eq]
    refine Url.read_append ?_ h.isHttp h.query h.fragment hpath hplaces
    rw [← h.read, location_eq, String.append_empty]
  have hhost : (base.within segments).namesHost = true := h.namesHost
  have hne : segments ≠ [] := hsegments ▸ Url.segmentsOf_ne_nil _ _
  simp only [request, hread, hhost, h.token, Url.withPairs_within, Bool.not_true, Bool.false_eq_true,
    if_false]
  by_cases hlength : (base.asked segments (c.datacenterPairs ++ pairs)).text.length ≤ Url.maxLength
  · rw [if_pos hlength, if_pos
      (Url.canSend_asked h.namesHost (List.cons_ne_nil _ _) hne h.announces hlength)]
  · rw [if_neg hlength, if_neg fun hcan => hlength (length_of_canSend hcan)]

end Client

/-! ## The two requests -/

namespace Client

variable {c : Client} {base : Url}

/-- **A request for plain names is made**, unless its URL is too long. -/
theorem request_of_names (h : c.LeadsTo base) {names : List String} (hne : names ≠ [])
    (hplain : ∀ name ∈ names, IsPlainName name) {path : String}
    (hpath : path.toList = ['/'].intercalate (names.map String.toList)) (method : Method)
    (pairs : List (String × String)) (body : Option Json) :
    c.request method path pairs body =
      if (base.asked (names.map segmentOf) (c.datacenterPairs ++ pairs)).text.length
          ≤ Url.maxLength then
        .ok {
          method, url := base.asked (names.map segmentOf) (c.datacenterPairs ++ pairs)
          token := c.token, body }
      else .error (.unsendable (base.asked (names.map segmentOf) (c.datacenterPairs ++ pairs))) := by
  refine request_eq h ?_ ?_ fun segment hsegment => ?_
  · rw [hpath]
    exact IsPlainName.isInPath_intercalate hplain
  · rw [hpath]
    exact IsPlainName.segmentsOf_intercalate hplain hne _
  · obtain ⟨name, hname, rfl⟩ := List.mem_map.mp hsegment
    exact (hplain name hname).isWritable.isPlace

/-- The place at which the instances of a service are listed. -/
def listingPlace (service : String) : List String := ["health", "service", service]

/-- The URL at which the instances of a service are listed. -/
def listingUrl (c : Client) (base : Url) (q : ServiceQuery) (last : Nat) : Url :=
  base.asked ((listingPlace q.service).map segmentOf) (c.datacenterPairs ++ c.listingPairs q last)

theorem isPlainName_listingPlace {service : String} (h : IsPlainName service) :
    ∀ name ∈ listingPlace service, IsPlainName name := by
  have hplace : ∀ name ∈ ["health", "service"], IsPlainName name := by decide +kernel
  intro name hname
  rcases List.mem_append.mp (show name ∈ ["health", "service"] ++ [service] from hname) with
    hname | hname
  · exact hplace name hname
  · exact List.mem_singleton.mp hname ▸ h

theorem isPlainName_announcingPlace : ∀ name ∈ announcingPlace, IsPlainName name := by
  decide +kernel

/-- The request to list a service is made, unless its URL is too long. -/
theorem listing_eq (h : c.LeadsTo base) {q : ServiceQuery} (hname : IsPlainName q.service)
    (last : Nat) : c.listing q last =
      if (c.listingUrl base q last).text.length ≤ Url.maxLength then
        .ok { method := .get, url := c.listingUrl base q last, token := c.token, body := none }
      else .error (.unsendable (c.listingUrl base q last)) :=
  request_of_names h (List.cons_ne_nil _ _) (isPlainName_listingPlace hname)
    (by rw [String.toList_append]; simp [List.intercalate_cons_cons]) _ _ _

/-- The request to announce an instance is always made. -/
theorem announcing_eq (h : c.LeadsTo base) (r : Registration) : c.announcing r = .ok {
    method := .put, url := base.asked (announcingPlace.map segmentOf) c.datacenterPairs
    token := c.token, body := some (Announcement.ofRegistration r).toJson } := by
  have hpath : "agent/service/register".toList
      = ['/'].intercalate (announcingPlace.map String.toList) := rfl
  have hne : announcingPlace ≠ [] := List.cons_ne_nil _ _
  have hrequest := request_of_names h hne isPlainName_announcingPlace hpath .put []
    (some (Announcement.ofRegistration r).toJson)
  rw [List.append_nil, if_pos (length_of_canSend h.announces)] at hrequest
  exact hrequest

/-- **The request to list a service wants just that.** -/
theorem wish?_listing (h : c.LeadsTo base) {q : ServiceQuery} (hname : IsPlainName q.service)
    {last : Nat} {r : Request} (hr : c.listing q last = .ok r) :
    r.wish? base.folder = some (.list q.service (c.datacenterPairs ++ c.listingPairs q last)) := by
  rw [listing_eq h hname] at hr
  split at hr
  · obtain rfl := Except.ok.inj hr
    have hbehind : (c.listingUrl base q last).behind? base.folder = some (listingPlace q.service) :=
      Url.behind?_asked (IsPlainName.mapM_segmentText? (isPlainName_listingPlace hname))
    have hpairs : (c.listingUrl base q last).pairs?
        = some (c.datacenterPairs ++ c.listingPairs q last) := Url.pairs?_asked h.query
    simp only [Request.wish?, hbehind, hpairs, listingPlace, Option.map_some]
  · cases hr

/-- **The request to announce an instance wants it kept.** -/
theorem wish?_announcing (h : c.LeadsTo base) {reg : Registration} {r : Request}
    (hr : c.announcing reg = .ok r) :
    r.wish? base.folder = some (.store (Announcement.ofRegistration reg).toJson) := by
  rw [announcing_eq h] at hr
  obtain rfl := Except.ok.inj hr
  have hbehind : (base.asked (announcingPlace.map segmentOf) c.datacenterPairs).behind? base.folder
      = some announcingPlace :=
    Url.behind?_asked (IsPlainName.mapM_segmentText? isPlainName_announcingPlace)
  simp only [Request.wish?, hbehind]
  rfl

end Client

end Switchboard.Agent
