import Switchboard.Proofs.Agent.Requests
/-!
# What a name in a path leads to

A client puts the name of a service, or the identity of an instance, at the end of a path just as it
is, and only then is the whole read as a URL. What is a mark to the reader of URLs is no part of the
name any more: it ends the path, cuts it, or steps out of it, is dropped, or is read as another
character.

* `read_location` — what is read of a name; `IsWritable.onward_eq` — one more segment, if it is
  writable; `IsWritable.of_onward` — and only then.
* `Request.Asks` — what a request asks for, of whom; `asks_iff` — when it asks for what it was made
  for.
* `names_exactly` — what follows for the two requests of a client that have a name in their path.
* `withdrawing_another` — two instances of which the request for the one withdraws the other.
-/

namespace Switchboard.Agent

open Text

namespace Url

/-! ## Where the reader ends up -/

/-- The last segment of a path that was walked is the last of those that were taken, or nothing if
that was a step. -/
theorem getLast?_walk (path t : List (List Char)) (segment : List Char) :
    (walk path (t ++ [segment])).getLast?
      = some (if isStepUp segment || isStay segment then [] else segment) := by
  rw [walk_append path t (List.cons_ne_nil segment [])]
  cases hup : isStepUp segment <;> cases hstay : isStay segment <;>
    simp [walk, hup, hstay]

theorem foldl_walkOne_of_places (path : List (List Char)) {t : List (List Char)}
    (h : ∀ segment ∈ t, IsPlace segment) : t.foldl walkOne path = path ++ t := by
  induction t generalizing path with
  | nil => exact (List.append_nil path).symm
  | cons segment t ih =>
    obtain ⟨hup, hstay⟩ := h segment List.mem_cons_self
    have hone : walkOne path segment = path ++ [segment] := by
      rw [walkOne, hup, hstay]
      rfl
    rw [List.foldl_cons, hone, ih _ fun s hs => h s (List.mem_cons_of_mem _ hs), List.append_assoc]
    rfl

/-- What is between separators holds none, and is part of the text. -/
theorem mem_splitOnP {p : Char → Bool} {cs piece : List Char} (h : piece ∈ cs.splitOnP p) :
    piece.Sublist cs ∧ ∀ c ∈ piece, p c = false := by
  induction cs generalizing piece with
  | nil =>
    rw [List.splitOnP_nil, List.mem_singleton] at h
    subst h
    exact ⟨List.nil_sublist _, fun c hc => absurd hc List.not_mem_nil⟩
  | cons c cs ih =>
    rw [List.splitOnP_cons_eq_if_modifyHead] at h
    split at h
    · rcases List.mem_cons.mp h with rfl | h
      · exact ⟨List.nil_sublist _, fun c hc => absurd hc List.not_mem_nil⟩
      · obtain ⟨hsub, hnone⟩ := ih h
        exact ⟨hsub.cons c, hnone⟩
    · rename_i hc
      obtain ⟨first, rest, hsplit⟩ := List.exists_cons_of_ne_nil (List.splitOnP_ne_nil p cs)
      rw [hsplit, List.modifyHead_cons] at h
      rcases List.mem_cons.mp h with rfl | h
      · obtain ⟨hsub, hnone⟩ := ih (hsplit ▸ List.mem_cons_self)
        refine ⟨hsub.cons_cons c, fun d hd => ?_⟩
        rcases List.mem_cons.mp hd with rfl | hd
        · exact Bool.of_not_eq_true hc
        · exact hnone d hd
      · obtain ⟨hsub, hnone⟩ := ih (hsplit ▸ List.mem_cons_of_mem _ h)
        exact ⟨hsub.cons c, hnone⟩

/-- The last segment of the URL that a text leads to is its last piece, or nothing if that was a
step. -/
theorem lastPiece_of_onward {site : Url} {port : Nat} (hkind : Scheme.kind site.scheme = .web port)
    {front path : List (List Char)} {b segment : List Char}
    (hpath : (site.onward front b).path = .steps (path ++ [segment])) :
    ∃ piece, piece.Sublist (splitAt endsPath b).1 ∧ (∀ c ∈ piece, isSlash (.web port) c = false) ∧
      (if isStepUp (percentEncoded isSpecialInPath piece)
          || isStay (percentEncoded isSpecialInPath piece) then []
        else percentEncoded isSpecialInPath piece) = segment := by
  obtain ⟨pieces, piece, hpieces⟩ : ∃ pieces piece,
      (splitAt endsPath b).1.splitOnP (isSlash (.web port)) = pieces ++ [piece] :=
    ⟨_, _, (List.dropLast_append_getLast (List.splitOnP_ne_nil _ _)).symm⟩
  obtain ⟨hpiece, hslash⟩ := mem_splitOnP (hpieces ▸ List.mem_append_right _
    (List.mem_singleton_self piece))
  refine ⟨piece, hpiece, hslash, ?_⟩
  have hwalk : walk front (segmentsOf (.web port) (splitAt endsPath b).1) = path ++ [segment] := by
    rw [← hkind]
    exact Path.steps.inj hpath
  have hlast := congrArg List.getLast? hwalk
  rw [segmentsOf, hpieces, List.map_append, List.map_singleton, getLast?_walk,
    List.getLast?_concat] at hlast
  exact Option.some.inj hlast

/-- A text of which nothing is dropped has no tabs and line ends, and no blank or control at its
end. -/
theorem shown_of_kept_eq {b : List Char} (h : kept b = b) :
    (∀ c ∈ b, c ∉ ['\t', '\n', '\r']) ∧ ∀ c ∈ b.getLast?, 32 < c.toNat := by
  have htrim : (b.reverse.dropWhile fun c => decide (c.toNat ≤ 32)).Sublist b.reverse :=
    (List.dropWhile_suffix _).sublist
  have hwhole : (b.reverse.dropWhile fun c => decide (c.toNat ≤ 32)) = b.reverse := by
    refine htrim.eq_of_length_le ?_
    have hfilter := (List.filter_sublist (p := fun c => c != '\t' && c != '\n' && c != '\r')
      (l := (b.reverse.dropWhile fun c => decide (c.toNat ≤ 32)).reverse)).length_le
    rw [show List.filter _ _ = b from h, List.length_reverse] at hfilter
    rw [List.length_reverse]
    exact hfilter
  refine ⟨fun c hc hmem => ?_, fun c hc => ?_⟩
  · rw [← h] at hc
    have hmarks := List.of_mem_filter hc
    rw [List.mem_cons, List.mem_cons, List.mem_singleton] at hmem
    rcases hmem with rfl | rfl | rfl <;> exact absurd hmarks (by decide)
  · have hhead := List.head?_dropWhile_not (fun c : Char => decide (c.toNat ≤ 32)) b.reverse
    rw [hwhole, List.head?_reverse, Option.mem_def.mp hc] at hhead
    exact Nat.not_le.mp (of_decide_eq_false hhead)

/-- Plain names with slashes behind them are walked, whatever comes then. -/
theorem onward_names (site : Url) (front : List (List Char)) {names : List String}
    (h : ∀ name ∈ names, IsPlainName name) (hne : names ≠ []) (b : List Char) :
    site.onward front (kept (['/'].intercalate (names.map String.toList) ++ '/' :: b))
      = site.onward (front ++ names.map segmentOf) (kept b) := by
  have hpath := IsPlainName.isInPath_intercalate h
  have hplaces : ∀ segment ∈ names.map segmentOf, IsPlace segment := fun segment hsegment => by
    obtain ⟨name, hname, rfl⟩ := List.mem_map.mp hsegment
    exact (h name hname).isWritable.isPlace
  have hends : ∀ c ∈ ['/'].intercalate (names.map String.toList) ++ ['/'], endsPath c = false := by
    intro c hc
    rcases List.mem_append.mp hc with hc | hc
    · exact (hpath c hc).2
    · rw [List.mem_singleton.mp hc]
      rfl
  rw [kept_append, filter_eq_self_of_shown fun c hc => (hpath c hc).1, onward, onward,
    List.append_cons, splitAt_append_of_all hends, List.append_assoc, List.singleton_append,
    segmentsOf_append, IsPlainName.segmentsOf_intercalate h hne,
    walk_append _ _ (segmentsOf_ne_nil _ _), foldl_walkOne_of_places _ hplaces]

end Url

/-! ## Names at the end of a path -/

namespace IsWritable

variable {name : String}

theorem kept_eq (h : IsWritable name) : Url.kept name.toList = name.toList := by
  have hend : name.toList.reverse.dropWhile (fun c => decide (c.toNat ≤ 32))
      = name.toList.reverse := by
    cases hlast : name.toList.reverse with
    | nil => rfl
    | cons c rest =>
      have hc : 32 < c.toNat := h.last c (by
        rw [← List.head?_reverse, hlast]
        rfl)
      exact List.dropWhile_cons_of_neg (by simpa using hc)
  rw [Url.kept, hend, List.reverse_reverse]
  refine List.filter_eq_self.mpr fun c hc => ?_
  have hother := h.chars c hc
  rw [Bool.and_eq_true, Bool.and_eq_true, bne_iff_ne, bne_iff_ne, bne_iff_ne]
  refine ⟨⟨?_, ?_⟩, ?_⟩ <;> rintro rfl <;> exact hother (by decide)

theorem endsPath_eq (h : IsWritable name) : ∀ c ∈ name.toList, Url.endsPath c = false := by
  intro c hc
  rw [Url.endsPath, Bool.or_eq_false_iff, beq_eq_false_iff_ne, beq_eq_false_iff_ne]
  refine ⟨?_, ?_⟩ <;> rintro rfl <;> exact h.chars _ hc (by decide)

/-- **A writable name is one more segment**, and changes nothing else. -/
theorem onward_eq (h : IsWritable name) {site : Url} (hquery : site.query = none)
    (hfragment : site.fragment = none) (front : List (List Char)) :
    site.onward front (Url.kept name.toList)
      = { site with path := .steps (front ++ [segmentOf name]) } := by
  have hplaces : ∀ segment ∈ [segmentOf name], Url.IsPlace segment := fun segment hsegment =>
    List.mem_singleton.mp hsegment ▸ h.isPlace
  rw [h.kept_eq, Url.onward, Url.splitAt_of_all h.endsPath_eq, h.segmentsOf_eq,
    Url.walk_of_places _ hplaces]
  obtain ⟨scheme, credentials, host, port, path, query, fragment⟩ := site
  obtain rfl := hquery
  obtain rfl := hfragment
  rfl

/-- A name that is read whole, as one piece that is no step and says it, is writable. -/
theorem of_piece {port : Nat} (hkept : Url.kept name.toList = name.toList)
    (hread : (Url.splitAt Url.endsPath name.toList).1 = name.toList)
    (hslash : ∀ c ∈ name.toList, Url.isSlash (.web port) c = false)
    (hbytes : percentDecoded name.toList = utf8 name.toList)
    (hplace : ¬(Url.isStepUp (segmentOf name) || Url.isStay (segmentOf name)) = true) :
    IsWritable name := by
  obtain ⟨hmarks, hlast⟩ := Url.shown_of_kept_eq hkept
  refine { chars := fun c hc hmem => ?_, last := hlast, bytes := ?_, ne_stay := ?_,
           ne_stepUp := ?_ }
  · have hends : Url.endsPath c = false := by
      rw [← hread] at hc
      simpa using List.mem_takeWhile_imp hc
    have hsplit := hslash c hc
    rcases List.mem_append.mp (show c ∈ ['/', '\\', '?', '#'] ++ ['\t', '\n', '\r'] from hmem) with
      hmem | hmem
    · rw [List.mem_cons, List.mem_cons, List.mem_cons, List.mem_singleton] at hmem
      rcases hmem with rfl | rfl | rfl | rfl
      · exact Bool.false_ne_true hsplit.symm
      · exact Bool.false_ne_true hsplit.symm
      · exact Bool.false_ne_true hends.symm
      · exact Bool.false_ne_true hends.symm
    · exact hmarks c hc hmem
  · rcases percentDecoded_or name.toList with ⟨hnone, -⟩ | ⟨-, hlt⟩
    · exact hnone
    · rw [hbytes] at hlt
      exact absurd hlt (Nat.lt_irrefl _)
  · rintro rfl
    exact hplace (by decide)
  · rintro rfl
    exact hplace (by decide)

/-- **Only a writable name is one more segment that says it.** What is read of a name that is not is
shorter. -/
theorem of_onward {site : Url} (hhttp : site.isHttp = true) {front : List (List Char)}
    {segment : List Char}
    (hpath : (site.onward front (Url.kept name.toList)).path = .steps (front ++ [segment]))
    (htext : segmentText? segment = some name) : IsWritable name := by
  obtain ⟨port, hkind⟩ := Url.kind_of_isHttp hhttp
  obtain ⟨piece, hpiece, hslash, hsegment⟩ := Url.lastPiece_of_onward hkind hpath
  have hbytes : percentDecoded segment = utf8 name.toList := eq_utf8_of_textOf? htext
  have hkept : (Url.kept name.toList).Sublist name.toList := Url.kept_sublist _
  have hread : (Url.splitAt Url.endsPath (Url.kept name.toList)).1.Sublist
      (Url.kept name.toList) := (List.takeWhile_prefix _).sublist
  split at hsegment
  · -- nothing is written behind a step, so the name is empty
    subst hsegment
    have hempty : [] = name.toList := eq_of_sublist_of_utf8 (List.nil_sublist _)
      (Nat.le_of_eq (congrArg List.length hbytes.symm))
    rw [String.toList_eq_nil_iff.mp hempty.symm]
    decide
  · rename_i hplace
    subst hsegment
    rw [percentDecoded_segment] at hbytes
    have hwhole : piece = name.toList := by
      refine eq_of_sublist_of_utf8 ((hpiece.trans hread).trans hkept) ?_
      rw [← hbytes]
      exact (percentDecoded_or piece).elim (fun h => Nat.le_of_eq (congrArg List.length h.2))
        fun h => Nat.le_of_lt h.2
    subst hwhole
    have hkeeps : Url.kept name.toList = name.toList := hkept.antisymm (hpiece.trans hread)
    rw [hkeeps] at hpiece hread
    exact of_piece hkeeps (hread.antisymm hpiece) hslash hbytes hplace

end IsWritable

/-! ## What requests ask -/

/-- A request asks the agent of a site for something at a place about something of a name. -/
structure Request.Asks (r : Request) (site : Url) (method : Method) (place : List String)
    (name : String) (pairs : List (String × String)) : Prop where
  method_eq : r.method = method
  scheme_eq : r.url.scheme = site.scheme
  host_eq : r.url.host = site.host
  port_eq : r.url.port = site.port
  /-- Its path is that of the site, the place, and one more segment, which says the name. -/
  path : ∃ segment, r.url.path = .steps (site.folder ++ place.map String.toList ++ [segment]) ∧
    segmentText? segment = some name
  pairs_eq : r.url.pairs? = some pairs

/-- The address of a client is that of a site: a URL of HTTP without query and fragment. -/
structure Client.IsAt (c : Client) (site : Url) : Prop where
  read : Url.read (Client.withoutSlashes c.address ++ "/") = some site
  isHttp : site.isHttp = true
  query : site.query = none
  fragment : site.fragment = none

/-- The path of a request leads to a name, by way of a place of plain names. -/
structure IsRoad (place : List String) (path name : String) : Prop where
  plain : ∀ name ∈ place, IsPlainName name
  ne_nil : place ≠ []
  literal : place.map segmentOf = place.map String.toList
  path_eq : ("v1/" ++ path).toList
    = ['/'].intercalate (place.map String.toList) ++ '/' :: name.toList

section Asking

variable {c : Client} {site : Url} {method : Method} {place : List String} {name path : String}
  {pairs : List (String × String)} {body : Option Json} {r : Request}

theorem Url.withoutCredentials_eq (url : Url) :
    ∃ credentials, url.withoutCredentials = { url with credentials } := by
  rcases hurl : url.userAndPassword with ⟨user, password⟩
  simp only [withoutCredentials, hurl]
  split
  · exact ⟨[], rfl⟩
  · exact ⟨url.credentials, rfl⟩

theorem Client.IsAt.read_location (h : c.IsAt site) (hroad : IsRoad place path name) :
    Url.read (c.location path)
      = some (site.onward (site.folder ++ place.map segmentOf) (Url.kept name.toList)) := by
  have hlocation : c.location path = withoutSlashes c.address ++ "/" ++ ("v1/" ++ path) := by
    rw [location, show "/v1/" = "/" ++ "v1/" from rfl]
    simp only [String.append_assoc]
  rw [hlocation, Url.read_onward h.read h.isHttp h.query h.fragment, hroad.path_eq,
    Url.onward_names site _ hroad.plain hroad.ne_nil]

theorem Client.IsAt.url_of_request (h : c.IsAt site) (hroad : IsRoad place path name)
    (hr : c.request method path pairs body = .ok r) :
    r.method = method ∧ ∃ credentials, r.url = ({
      site.onward (site.folder ++ place.map segmentOf) (Url.kept name.toList) with
        credentials } : Url).withPairs (c.datacenterPairs ++ pairs) := by
  simp only [request, h.read_location hroad] at hr
  split at hr
  · cases hr
  · split at hr
    · cases hr
    · split at hr
      · obtain rfl := Except.ok.inj hr
        obtain ⟨credentials, heq⟩ := (site.onward (site.folder ++ place.map segmentOf)
          (Url.kept name.toList)).withoutCredentials_eq
        exact ⟨rfl, credentials, by rw [heq]⟩
      · cases hr

/-- **A request asks for just what it was made for if the name is writable, and only then.** -/
theorem Client.IsAt.asks_iff (h : c.IsAt site) (hroad : IsRoad place path name)
    (hr : c.request method path pairs body = .ok r) :
    r.Asks site method place name (c.datacenterPairs ++ pairs) ↔ IsWritable name := by
  obtain ⟨hmethod, credentials, hurl⟩ := h.url_of_request hroad hr
  rw [hroad.literal] at hurl
  constructor
  · intro hasks
    obtain ⟨segment, hsegment, htext⟩ := hasks.path
    rw [hurl] at hsegment
    exact IsWritable.of_onward h.isHttp hsegment htext
  · intro hname
    rw [hname.onward_eq h.query h.fragment] at hurl
    refine { method_eq := hmethod
             scheme_eq := by rw [hurl]; rfl
             host_eq := by rw [hurl]; rfl
             port_eq := by rw [hurl]; rfl
             path := ⟨segmentOf name, by rw [hurl]; rfl, hname.segmentText?_eq⟩
             pairs_eq := ?_ }
    rw [hurl]
    exact Url.pairs?_withPairs h.query _

/-- A request for a writable name is made, or not, for the same reasons as any other behind the
site. -/
theorem Client.IsAt.request_eq (h : c.IsAt site) (hroad : IsRoad place path name)
    (hname : IsWritable name) :
    c.request method path pairs body =
      if !site.namesHost then
        .error (.unsendable (site.within (place.map segmentOf ++ [segmentOf name])))
      else if !c.token.all isHeaderValue then .error .unbuildable
      else
        let url := site.asked (place.map segmentOf ++ [segmentOf name]) (c.datacenterPairs ++ pairs)
        if canSend url then .ok { method, url, token := c.token, body }
        else .error (.unsendable url) := by
  have hread := h.read_location hroad
  rw [hname.onward_eq h.query h.fragment, List.append_assoc] at hread
  have hwithin : Url.read (c.location path)
      = some (site.within (place.map segmentOf ++ [segmentOf name])) := hread
  have hhost : (site.within (place.map segmentOf ++ [segmentOf name])).namesHost = site.namesHost :=
    rfl
  simp only [request, hwithin, hhost, Url.withPairs_within]

end Asking

/-! ## The parameters of a listing -/

/-- The pairs in the query of a listing, one by one. -/
structure ListingParameters (c : Client) (q : ServiceQuery) (last : Nat)
    (pairs : List (String × String)) : Prop where
  datacenter : ∀ value, ("dc", value) ∈ pairs ↔ c.datacenter = some value
  index : ∀ value, ("index", value) ∈ pairs ↔ last ≠ noIndex ∧ value = toString last
  wait : ∀ value, ("wait", value) ∈ pairs ↔ last ≠ noIndex ∧ value = c.waitText
  passing : ∀ value, ("passing", value) ∈ pairs ↔ q.passingOnly = true ∧ value = "true"
  /-- The first of the tags stands for all of them. -/
  tag : ∀ value, ("tag", value) ∈ pairs ↔ q.tags.head? = some value
  others : ∀ p ∈ pairs, p.1 ∈ ["dc", "index", "wait", "passing", "tag"]
  once : (pairs.map Prod.fst).Nodup

theorem listingParameters (c : Client) (q : ServiceQuery) (last : Nat) :
    ListingParameters c q last (c.datacenterPairs ++ c.listingPairs q last) := by
  unfold Client.datacenterPairs Client.listingPairs
  constructor <;>
  · cases c.datacenter <;> cases q.passingOnly <;> cases q.tags <;>
      by_cases hlast : last = noIndex <;> simp [hlast, eq_comm]

/-! ## The requests of a client -/

def listingRoad : List String := ["v1", "health", "service"]

def withdrawingRoad : List String := ["v1", "agent", "service", "deregister"]

/-- What the requests of a client ask of the agent of a site. -/
structure NamesExactly (c : Client) (site : Url) : Prop where
  /-- A listing is of the service that was asked for if its name is writable, and only then. -/
  listing : ∀ q last r, c.listing q last = .ok r →
    (r.Asks site .get listingRoad q.service (c.datacenterPairs ++ c.listingPairs q last)
      ↔ IsWritable q.service)
  parameters : ∀ q last, ListingParameters c q last (c.datacenterPairs ++ c.listingPairs q last)
  /-- The instance is withdrawn that was to be if its identity is writable, and only then. -/
  withdrawing : ∀ id r, c.withdrawing id = .ok r →
    (r.Asks site .put withdrawingRoad id c.datacenterPairs ↔ IsWritable id)
  /-- Identities that are writable are not mistaken for each other. -/
  apart : ∀ id id' r r', IsWritable id → IsWritable id' → c.withdrawing id = .ok r →
    c.withdrawing id' = .ok r' → r.url.target = r'.url.target → id = id'
  /-- A client that can announce instances can make these requests for all names that are writable,
  unless the URL is too long. -/
  made_listing : ∀ reg r₀, c.announcing reg = .ok r₀ → ∀ q last, IsWritable q.service →
    (site.asked (listingRoad.map segmentOf ++ [segmentOf q.service])
      (c.datacenterPairs ++ c.listingPairs q last)).text.length ≤ Url.maxLength →
    ∃ r, c.listing q last = .ok r
  made_withdrawing : ∀ reg r₀, c.announcing reg = .ok r₀ → ∀ id, IsWritable id →
    (site.asked (withdrawingRoad.map segmentOf ++ [segmentOf id])
      c.datacenterPairs).text.length ≤ Url.maxLength →
    ∃ r, c.withdrawing id = .ok r

section Roads

variable {c : Client} {site : Url}

theorem isRoad_listing (service : String) :
    IsRoad listingRoad ("health/service/" ++ service) service where
  plain := by decide +kernel
  ne_nil := List.cons_ne_nil _ _
  literal := by decide
  path_eq := by
    rw [String.toList_append, String.toList_append]
    rfl

theorem isRoad_withdrawing (id : String) :
    IsRoad withdrawingRoad ("agent/service/deregister/" ++ id) id where
  plain := by decide +kernel
  ne_nil := List.cons_ne_nil _ _
  literal := by decide
  path_eq := by
    rw [String.toList_append, String.toList_append]
    rfl

theorem isRoad_announcing :
    IsRoad ["v1", "agent", "service"] "agent/service/register" "register" where
  plain := by decide +kernel
  ne_nil := List.cons_ne_nil _ _
  literal := by decide
  path_eq := rfl

/-- A client that can announce instances can make any request for a writable name, unless its URL is
too long. -/
theorem Client.IsAt.made (h : c.IsAt site) {reg : Registration} {r₀ : Request}
    (hr₀ : c.announcing reg = .ok r₀) {place : List String} {name path : String}
    (hroad : IsRoad place path name) (hname : IsWritable name) (method : Method)
    {pairs : List (String × String)}
    (hlength : (site.asked (place.map segmentOf ++ [segmentOf name])
      (c.datacenterPairs ++ pairs)).text.length ≤ Url.maxLength) :
    ∃ r, c.request method path pairs none = .ok r := by
  have hname₀ : IsWritable "register" := by decide +kernel
  rw [announcing, h.request_eq isRoad_announcing hname₀] at hr₀
  rw [h.request_eq hroad hname]
  split at hr₀
  · cases hr₀
  · rename_i hhost
    split at hr₀
    · cases hr₀
    · rename_i htoken
      rw [if_neg hhost, if_neg htoken]
      dsimp only at hr₀
      split at hr₀
      · rename_i hsend
        have hhost' : site.namesHost = true := by simpa using hhost
        refine ⟨_, if_pos (Url.canSend_asked hhost' ?_ ?_ hsend hlength)⟩
        · exact List.append_ne_nil_of_right_ne_nil _ (List.cons_ne_nil _ _)
        · exact List.append_ne_nil_of_right_ne_nil _ (List.cons_ne_nil _ _)
      · cases hr₀

/-- Identities that are writable are withdrawn at places of their own. -/
theorem Client.IsAt.withdrawing_inj (h : c.IsAt site) {id id' : String} {r r' : Request}
    (hid : IsWritable id) (hid' : IsWritable id') (hr : c.withdrawing id = .ok r)
    (hr' : c.withdrawing id' = .ok r') (htarget : r.url.target = r'.url.target) : id = id' := by
  obtain ⟨-, credentials, hurl⟩ := h.url_of_request (isRoad_withdrawing id) hr
  obtain ⟨-, credentials', hurl'⟩ := h.url_of_request (isRoad_withdrawing id') hr'
  rw [hid.onward_eq h.query h.fragment] at hurl
  rw [hid'.onward_eq h.query h.fragment] at hurl'
  rw [hurl, hurl', Url.target, Url.target] at htarget
  -- the queries are the same, and so are the paths up to the last segment
  have hpaths := List.append_cancel_right (String.ofList_injective htarget)
  have htext (front : List (List Char)) (segment : List Char) :
      (Url.Path.steps (front ++ [segment])).text = (Url.Path.steps front).text ++ '/' :: segment := by
    simp only [Url.Path.text, List.flatMap_append, List.flatMap_singleton]
  have hsegments : segmentOf id = segmentOf id' := by
    have hlast := (htext _ _).symm.trans (hpaths.trans (htext _ _))
    exact (List.cons.inj (List.append_cancel_left hlast)).2
  have hsame := hid.segmentText?_eq.symm.trans ((congrArg segmentText? hsegments).trans
    hid'.segmentText?_eq)
  exact Option.some.inj hsame

/-- **Requests name exactly what was asked for, if its name is writable, and only then.** -/
theorem names_exactly (h : c.IsAt site) : NamesExactly c site where
  listing q last r hr := h.asks_iff (isRoad_listing q.service) hr
  parameters := listingParameters c
  withdrawing id r hr := by
    have hasks := h.asks_iff (isRoad_withdrawing id) hr
    rwa [List.append_nil] at hasks
  apart _ _ _ _ hid hid' hr hr' htarget := h.withdrawing_inj hid hid' hr hr' htarget
  made_listing _ _ hr₀ q last hname hlength :=
    h.made hr₀ (isRoad_listing q.service) hname .get hlength
  made_withdrawing _ _ hr₀ id hname hlength :=
    h.made hr₀ (isRoad_withdrawing id) hname .put (by rwa [List.append_nil])

/-- The site of a client of an agent on the same machine. -/
def Client.loopbackSite : Url where
  scheme := "http".toList
  host := some (.v4 0x7f000001)
  port := some 8500
  path := .steps [[]]

theorem Client.isAt_loopback : Client.loopback.IsAt Client.loopbackSite where
  read := by decide +kernel
  isHttp := rfl
  query := rfl
  fragment := rfl

theorem names_exactly_loopback :
    Client.loopback.IsAt Client.loopbackSite ∧ IsWritable "50% off" ∧
      ∃ r, Client.loopback.withdrawing "50% off" = .ok r ∧
        r.Asks Client.loopbackSite .put withdrawingRoad "50% off" [] := by
  have hexactly := names_exactly Client.isAt_loopback
  have hname : IsWritable "50% off" := by decide +kernel
  have hannouncing := Client.announcing_eq Client.leadsTo_loopback default
  obtain ⟨r, hr⟩ := hexactly.made_withdrawing _ _ hannouncing _ hname (by decide +kernel)
  exact ⟨Client.isAt_loopback, hname, r, hr, (hexactly.withdrawing _ r hr).mpr hname⟩

/-- What a request to withdraw an instance names. -/
def Client.withdrawnAt? (c : Client) (id : String) : Option String :=
  (c.withdrawing id).toOption.map fun r => r.url.target

/-- Two identities that are withdrawn by the same request, which names only one of them. -/
theorem withdrawing_another :
    Client.loopback.withdrawnAt? "users/../billing" = some "/v1/agent/service/deregister/billing" ∧
      Client.loopback.withdrawnAt? "billing" = some "/v1/agent/service/deregister/billing" := by
  decide +kernel

end Roads

end Switchboard.Agent
