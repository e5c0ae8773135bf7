import Mathlib.Data.List.TakeWhile
import Switchboard.Agent.Request
import Switchboard.Proofs.Agent.Encoding
/-!
# Places behind a URL

A client puts the paths of its requests behind the address of the agent and reads the whole as one
URL. Here the reader is followed through such a text: from the last slash of the address on, what is
read is walked from where the address led to, and only added to it as long as nothing in it ends the
path or steps out of it. What is put behind an address bears on where a request is sent by its length
only.

* `Url.folder` — the segments that a path behind a URL goes behind.
* `read_onward` — the URL of an address with any text behind it; `read_append` — with a path.
* `canSend_of_length` — a URL with more behind it can be sent to, unless it is too long.
-/

namespace Switchboard.Agent.Url

open Text

/-! ## Up to a slash -/

section Slash

variable {α : Type} {p : α → Bool} {c : α}

theorem takeWhile_append_stop (h : p c = false) (a b : List α) :
    (a ++ c :: b).takeWhile p = a.takeWhile p := by
  induction a with
  | nil => rw [List.nil_append, List.takeWhile_cons_of_neg (by rw [h]; exact Bool.false_ne_true)]; rfl
  | cons d a ih => rw [List.cons_append, List.takeWhile_cons, List.takeWhile_cons, ih]

theorem dropWhile_append_stop (h : p c = false) (a b : List α) :
    (a ++ c :: b).dropWhile p = a.dropWhile p ++ c :: b := by
  rw [List.dropWhile_append]
  by_cases hempty : (a.dropWhile p).isEmpty = true
  · rw [if_pos hempty, List.isEmpty_iff.mp hempty, List.nil_append,
      List.dropWhile_cons_of_neg (by rw [h]; exact Bool.false_ne_true)]
  · rw [if_neg hempty]

theorem splitAt_append_stop {stop : Char → Bool} {c : Char} (h : stop c = true) (a b : List Char) :
    splitAt stop (a ++ c :: b) = ((splitAt stop a).1, (splitAt stop a).2 ++ c :: b) := by
  have hstop : (!stop c) = false := by rw [h]; rfl
  exact Prod.ext (takeWhile_append_stop (p := fun c => !stop c) hstop a b)
    (dropWhile_append_stop (p := fun c => !stop c) hstop a b)

end Slash

/-- May the character stand in a path without ending it or being dropped? -/
def IsInPath (c : Char) : Prop := 32 < c.toNat ∧ endsPath c = false

/-! ## Blanks and the scheme -/

/-- What is read of a text that stands behind another: blanks and controls at its end are dropped,
and tabs and line ends anywhere. -/
def kept (b : List Char) : List Char :=
  (b.reverse.dropWhile fun c => decide (c.toNat ≤ 32)).reverse.filter fun c =>
    c != '\t' && c != '\n' && c != '\r'

/-- What is dropped behind a slash does not depend on what is in front of it. -/
theorem kept_append (a b : List Char) :
    kept (a ++ '/' :: b) = (a.filter fun c => c != '\t' && c != '\n' && c != '\r') ++ '/' :: kept b := by
  have hend : ((a ++ '/' :: b).reverse.dropWhile fun c => decide (c.toNat ≤ 32)).reverse
      = a ++ '/' :: (b.reverse.dropWhile fun c => decide (c.toNat ≤ 32)).reverse := by
    rw [List.reverse_append, List.reverse_cons, List.append_assoc, List.singleton_append,
      dropWhile_append_stop (by decide), List.reverse_append, List.reverse_cons,
      List.reverse_reverse, List.append_assoc, List.singleton_append]
  rw [kept, hend, List.filter_append, List.filter_cons_of_pos (by decide)]
  rfl

theorem kept_sublist (b : List Char) : (kept b).Sublist b := by
  refine List.filter_sublist.trans (List.reverse_sublist.mp ?_)
  rw [List.reverse_reverse]
  exact (List.dropWhile_suffix _).sublist

theorem cleaned_append (a : List Char) :
    ∃ front, ∀ b, cleaned (a ++ '/' :: b) = front ++ '/' :: kept b := by
  refine ⟨(a.dropWhile fun c => decide (c.toNat ≤ 32)).filter fun c =>
    c != '\t' && c != '\n' && c != '\r', fun b => ?_⟩
  show kept ((a ++ '/' :: b).dropWhile fun c => decide (c.toNat ≤ 32)) = _
  rw [dropWhile_append_stop (by decide), kept_append]

theorem filter_eq_self_of_shown {b : List Char} (h : ∀ c ∈ b, 32 < c.toNat) :
    b.filter (fun c => c != '\t' && c != '\n' && c != '\r') = b := by
  refine List.filter_eq_self.mpr fun c hc => ?_
  have hc := h c hc
  rw [Bool.and_eq_true, Bool.and_eq_true, bne_iff_ne, bne_iff_ne, bne_iff_ne]
  refine ⟨⟨?_, ?_⟩, ?_⟩ <;> rintro rfl <;> exact absurd hc (by decide)

/-- Nothing is dropped of a text without blanks and controls. -/
theorem kept_eq_self {b : List Char} (h : ∀ c ∈ b, 32 < c.toNat) : kept b = b := by
  have hend : b.reverse.dropWhile (fun c => decide (c.toNat ≤ 32)) = b.reverse := by
    cases hlast : b.reverse with
    | nil => rfl
    | cons c rest =>
      have hc : 32 < c.toNat := h c (List.mem_reverse.mp (hlast ▸ List.mem_cons_self))
      exact List.dropWhile_cons_of_neg (by simpa using hc)
  rw [kept, hend, List.reverse_reverse, filter_eq_self_of_shown h]

/-- The scheme stands in front of the first slash. -/
theorem splitScheme_append {front scheme rest : List Char}
    (h : splitScheme (front ++ ['/']) = some (scheme, rest)) :
    ∃ r, rest = r ++ ['/'] ∧ ∀ b, splitScheme (front ++ '/' :: b) = some (scheme, r ++ '/' :: b) := by
  have hscheme (b : List Char) :
      (front ++ '/' :: b).takeWhile isInScheme = front.takeWhile isInScheme :=
    takeWhile_append_stop (by decide) front b
  have hrest (b : List Char) : (front ++ '/' :: b).drop (front.takeWhile isInScheme).length
      = front.drop (front.takeWhile isInScheme).length ++ '/' :: b :=
    List.drop_append_of_le_length (List.takeWhile_sublist _).length_le
  simp only [splitScheme, hscheme, hrest] at h ⊢
  -- the scheme and its colon are in front of the slash, or else there was none to begin with
  cases hs : front.takeWhile isInScheme with
  | nil => rw [hs] at h; cases h
  | cons c cs =>
    rw [hs] at h
    cases hr : front.drop (c :: cs).length with
    | nil => rw [hr] at h; simp at h
    | cons d r =>
      rw [hr] at h
      by_cases hd : d = ':'
      · subst hd
        by_cases hc : c.isAlpha = true
        · simp only [List.cons_append, hc, if_true, Option.some.injEq, Prod.mk.injEq] at h ⊢
          exact ⟨r, h.2.symm, fun b => ⟨h.1, rfl⟩⟩
        · simp only [List.cons_append, hc, if_false, Bool.false_eq_true] at h
          cases h
      · simp [hd] at h

/-! ## Paths -/

/-- One segment further. -/
def walkOne (path : List (List Char)) (segment : List Char) : List (List Char) :=
  if isStepUp segment then stepUp path
  else if isStay segment then path
  else path ++ [segment]

/-- Only the last segment is treated in its own way. -/
theorem walk_append (path s : List (List Char)) {t : List (List Char)} (h : t ≠ []) :
    walk path (s ++ t) = walk (s.foldl walkOne path) t := by
  induction s generalizing path with
  | nil => rfl
  | cons segment s ih =>
    have hmore : (s ++ t).isEmpty = false :=
      List.isEmpty_eq_false_iff.mpr (List.append_ne_nil_of_right_ne_nil s h)
    rw [List.cons_append, walk, hmore, List.foldl_cons, ← ih]
    rfl

/-- Is the segment no step? -/
def IsPlace (segment : List Char) : Prop := isStepUp segment = false ∧ isStay segment = false

theorem walk_of_places (path : List (List Char)) {t : List (List Char)}
    (h : ∀ segment ∈ t, IsPlace segment) : walk path t = path ++ t := by
  induction t generalizing path with
  | nil => rw [walk, List.append_nil]
  | cons segment t ih =>
    obtain ⟨hup, hstay⟩ := h segment List.mem_cons_self
    rw [walk, hup, hstay, Bool.or_false, Bool.and_false]
    show walk (path ++ [segment]) t = _
    rw [ih _ fun s hs => h s (List.mem_cons_of_mem _ hs), List.append_assoc]
    rfl

theorem segmentsOf_ne_nil (kind : Scheme.Kind) (cs : List Char) : segmentsOf kind cs ≠ [] :=
  fun h => List.splitOnP_ne_nil _ _ (List.map_eq_nil_iff.mp h)

theorem segmentsOf_append (kind : Scheme.Kind) (a b : List Char) :
    segmentsOf kind (a ++ '/' :: b) = segmentsOf kind a ++ segmentsOf kind b := by
  rw [segmentsOf, List.splitOnP_append_cons a b (p := isSlash kind) rfl, List.map_append]
  rfl

/-- What is put behind the last slash of a path is walked from there. -/
theorem pathOf_append (port : Nat) (a : List Char) :
    ∃ front, ∀ b, pathOf (.web port) (a ++ '/' :: b)
      = .steps (walk front (segmentsOf (.web port) b)) := by
  have hwalk (s : List (List Char)) (b : List Char) : walk [] (s ++ segmentsOf (.web port) b)
      = walk (s.foldl walkOne []) (segmentsOf (.web port) b) :=
    walk_append [] s (segmentsOf_ne_nil _ b)
  cases a with
  | nil => exact ⟨[], fun b => congrArg Path.steps (hwalk [] b)⟩
  | cons c a =>
    by_cases hc : isSlash (.web port) c = true
    · refine ⟨(segmentsOf (.web port) a).foldl walkOne [], fun b => ?_⟩
      simp only [pathOf, List.cons_append, List.head?_cons, Option.any_some, hc, if_true,
        List.drop_one, List.tail_cons, segmentsOf_append, hwalk]
    · refine ⟨(segmentsOf (.web port) (c :: a)).foldl walkOne [], fun b => ?_⟩
      simp only [pathOf, List.cons_append, List.head?_cons, Option.any_some, hc, if_false,
        Bool.false_eq_true]
      rw [← List.cons_append, segmentsOf_append, hwalk]

/-! ## Behind a host -/

/-- What the text in front of a path says, with the text from there on. -/
def readPlace (scheme authority rest : List Char) : Option (Url × List Char) := do
  let kind := Scheme.kind scheme
  let (user, place) := splitUser authority
  let (host, port) := splitHost false place
  let (port, more) := splitAt (· == '\\') port
  let credentials := credentialsOf (user.getD [])
  let isNameless := host.isEmpty
  if isNameless && (kind != .other || !port.isEmpty || !credentials.isEmpty
      || (user == some [] && !rest.isEmpty)) then none
  let host ← if kind = .other then Host.readAny host else Host.read host
  let port ← portOf kind (port.drop 1)
  return ({ scheme, credentials, host, port, path := .steps [] }, more ++ rest)

/-- What follows the host and the port has no part in them, but for whether there is anything. -/
theorem readPlace_eq (scheme authority : List Char) (isLast : Bool) :
    ∃ (place : Option Url) (more : List Char), (∀ url ∈ place, url.scheme = scheme) ∧
      ∀ rest, rest.isEmpty = isLast →
        readPlace scheme authority rest = place.map fun url => (url, more ++ rest) := by
  rcases hu : splitUser authority with ⟨user, place⟩
  rcases hh : splitHost false place with ⟨host, behind⟩
  rcases hp : splitAt (· == '\\') behind with ⟨port, more⟩
  -- a place without a host is refused or not; of what follows it counts only whether it is empty
  by_cases hnone : (host.isEmpty && (Scheme.kind scheme != .other || !port.isEmpty
      || !(credentialsOf (user.getD [])).isEmpty || (user == some [] && !isLast))) = true
  · refine ⟨none, [], ⟨fun _ h => (Option.not_mem_none _ h).elim, fun rest hrest => ?_⟩⟩
    simp only [readPlace, hu, hh, hp, hrest]
    rw [if_pos hnone]
    rfl
  · let found := if Scheme.kind scheme = .other then Host.readAny host else Host.read host
    let url (h : Host) (n : Option Nat) : Url :=
      { scheme, credentials := credentialsOf (user.getD []), host := h, port := n, path := .steps [] }
    refine ⟨found.bind fun h => (portOf (Scheme.kind scheme) (port.drop 1)).map (url h), more, ?_,
      fun rest hrest => ?_⟩
    · intro u hu
      obtain ⟨h, -, hu⟩ := Option.bind_eq_some_iff.mp hu
      obtain ⟨n, -, rfl⟩ := Option.map_eq_some_iff.mp hu
      rfl
    · simp only [readPlace, hu, hh, hp, hrest, found]
      rw [if_neg hnone]
      by_cases hother : Scheme.kind scheme = .other
      · rw [if_pos hother, if_pos hother]
        cases Host.readAny host <;> cases portOf (Scheme.kind scheme) (port.drop 1) <;> rfl
      · rw [if_neg hother, if_neg hother]
        cases Host.read host <;> cases portOf (Scheme.kind scheme) (port.drop 1) <;> rfl

theorem scheme_readHosted {scheme cs : List Char} {url : Url}
    (h : readHosted scheme cs = some url) : url.scheme = scheme := by
  obtain ⟨⟨found, rest⟩, hauthority, hurl⟩ := Option.bind_eq_some_iff.mp h
  obtain rfl := Option.some_inj.mp hurl
  obtain ⟨place, more, hscheme, hplace⟩ := readPlace_eq scheme
    (splitAt (fun c => isSlash (Scheme.kind scheme) c || endsPath c) cs).1 _
  obtain ⟨found', hfound, heq⟩ := Option.map_eq_some_iff.mp ((hplace _ rfl).symm.trans hauthority)
  obtain ⟨rfl, -⟩ := Prod.mk.inj heq
  exact (hscheme _ hfound : found'.scheme = scheme)

/-- The host and the port stand in front of the first slash behind them. -/
theorem readAuthority_append {scheme r : List Char} {url : Url} {rest : List Char}
    (h : readAuthority scheme (r ++ ['/']) = some (url, rest)) :
    ∃ more, rest = more ++ ['/'] ∧ url.scheme = scheme ∧
      ∀ b, readAuthority scheme (r ++ '/' :: b) = some (url, more ++ '/' :: b) := by
  let stop (c : Char) : Bool := isSlash (Scheme.kind scheme) c || endsPath c
  obtain ⟨place, more, hscheme, hplace⟩ := readPlace_eq scheme (splitAt stop r).1 false
  have hgoesOn (l b : List Char) : (l ++ '/' :: b).isEmpty = false :=
    List.isEmpty_eq_false_iff.mpr (List.append_ne_nil_of_right_ne_nil l (List.cons_ne_nil _ _))
  have hread (b : List Char) : readAuthority scheme (r ++ '/' :: b)
      = place.map fun url => (url, more ++ (splitAt stop r).2 ++ '/' :: b) := by
    show readPlace scheme (splitAt stop (r ++ '/' :: b)).1 (splitAt stop (r ++ '/' :: b)).2 = _
    rw [splitAt_append_stop rfl, hplace _ (hgoesOn _ _)]
    simp only [List.append_assoc]
  rw [hread] at h
  obtain ⟨url', hurl', heq⟩ := Option.map_eq_some_iff.mp h
  obtain ⟨rfl, rfl⟩ := Prod.mk.inj heq
  refine ⟨more ++ (splitAt stop r).2, rfl, hscheme _ hurl', fun b => ?_⟩
  rw [hread, hurl']
  rfl

/-- Without query and fragment, nothing ends the path. -/
theorem endsPath_of_bare {url : Url} {cs : List Char}
    (hquery : (url.withRest (splitAt endsPath cs).2).query = none)
    (hfragment : (url.withRest (splitAt endsPath cs).2).fragment = none) :
    ∀ c ∈ cs, endsPath c = false := by
  have hrest : (splitAt endsPath cs).2 = [] := by
    cases hrest : (splitAt endsPath cs).2 with
    | nil => rfl
    | cons c rest =>
      rw [hrest] at hquery hfragment
      have hends : endsPath c = true := by
        have hhead := List.head?_dropWhile_not (fun c => !endsPath c) cs
        rw [show cs.dropWhile (fun c => !endsPath c) = c :: rest from hrest] at hhead
        simpa using hhead
      rcases (Bool.or_eq_true _ _).mp hends with hc | hc
      · obtain rfl := eq_of_beq hc
        cases hquery
      · obtain rfl := eq_of_beq hc
        cases hfragment
  intro c hc
  have hall := List.dropWhile_eq_nil_iff.mp hrest c hc
  rwa [Bool.not_eq_true'] at hall

theorem splitAt_of_all {stop : Char → Bool} {cs : List Char} (h : ∀ c ∈ cs, stop c = false) :
    splitAt stop cs = (cs, []) := by
  have hall : ∀ c ∈ cs, (!stop c) = true := fun c hc => by rw [h c hc]; rfl
  exact Prod.ext (List.takeWhile_eq_self_iff.mpr hall) (List.dropWhile_eq_nil_iff.mpr hall)

/-- Where nothing stops, the text is cut where what follows is. -/
theorem splitAt_append_of_all {stop : Char → Bool} {a : List Char} (h : ∀ c ∈ a, stop c = false)
    (b : List Char) : splitAt stop (a ++ b) = (a ++ (splitAt stop b).1, (splitAt stop b).2) := by
  have hall : ∀ c ∈ a, (!stop c) = true := fun c hc => by rw [h c hc]; rfl
  exact Prod.ext (List.takeWhile_append_of_pos hall) (List.dropWhile_append_of_pos hall)

/-- The URL that a text leads to from a URL, when it is put behind it. -/
def onward (base : Url) (front : List (List Char)) (b : List Char) : Url :=
  { base with
    path := .steps (walk front (segmentsOf (Scheme.kind base.scheme) (splitAt endsPath b).1)) }.withRest
      (splitAt endsPath b).2

theorem readHosted_append {scheme r : List Char} {port : Nat} {base : Url}
    (hkind : Scheme.kind scheme = .web port) (h : readHosted scheme (r ++ ['/']) = some base)
    (hquery : base.query = none) (hfragment : base.fragment = none) :
    ∃ front, base.scheme = scheme ∧ base.path = .steps (front ++ [[]]) ∧
      ∀ b, readHosted scheme (r ++ '/' :: b) = some (base.onward front b) := by
  obtain ⟨⟨url, rest⟩, hauthority, hbase⟩ := Option.bind_eq_some_iff.mp h
  obtain ⟨more, rfl, hscheme, hread⟩ := readAuthority_append hauthority
  obtain ⟨front, hfront⟩ := pathOf_append port more
  have hmore : ∀ c ∈ more ++ ['/'], endsPath c = false := by
    rw [← Option.some_inj.mp hbase] at hquery hfragment
    exact endsPath_of_bare hquery hfragment
  have hurl (b : List Char) : readHosted scheme (r ++ '/' :: b) = some (url.onward front b) := by
    have hsplit : splitAt endsPath (more ++ '/' :: b)
        = (more ++ '/' :: (splitAt endsPath b).1, (splitAt endsPath b).2) := by
      rw [List.append_cons, splitAt_append_of_all hmore, List.append_assoc]
      rfl
    rw [readHosted, hread b]
    show some (withRest { url with
        path := pathOf (Scheme.kind scheme) (splitAt endsPath (more ++ '/' :: b)).1 }
      (splitAt endsPath (more ++ '/' :: b)).2) = _
    rw [hsplit, hkind, hfront, ← hkind, ← hscheme]
    rfl
  -- the URL that is given is the one for nothing behind the slash
  obtain rfl := Option.some_inj.mp ((hurl []).symm.trans h)
  exact ⟨front, hscheme, rfl, hurl⟩

/-! ## URLs -/

theorem kind_of_isHttp {url : Url} (h : url.isHttp = true) :
    ∃ port, Scheme.kind url.scheme = .web port := by
  rcases (Bool.or_eq_true _ _).mp h with hs | hs
  · exact ⟨80, by rw [eq_of_beq hs]; rfl⟩
  · exact ⟨443, by rw [eq_of_beq hs]; rfl⟩

theorem scheme_readScheme {scheme cs : List Char} {url : Url}
    (h : readScheme scheme cs = some url) (hhttp : url.isHttp = true) :
    url.scheme = scheme ∧ ∃ port, Scheme.kind scheme = .web port := by
  suffices hscheme : url.scheme = scheme from ⟨hscheme, hscheme ▸ kind_of_isHttp hhttp⟩
  unfold readScheme at h
  split at h
  · exact scheme_readHosted h
  · -- the URL of a file is none of HTTP
    obtain ⟨_, -, rfl⟩ := Option.map_eq_some_iff.mp h
    exact absurd hhttp Bool.false_ne_true
  · unfold readOther at h
    split at h
    · exact scheme_readHosted h
    · obtain rfl := Option.some_inj.mp h
      rfl

theorem readHosted_nil {scheme : List Char} {port : Nat} (h : Scheme.kind scheme = .web port) :
    readHosted scheme [] = none := by
  have hauthority : readAuthority scheme [] = none := by
    simp only [readAuthority, h]
    rfl
  rw [readHosted, hauthority]
  rfl

theorem readScheme_append {scheme r : List Char} {base : Url}
    (h : readScheme scheme (r ++ ['/']) = some base) (hhttp : base.isHttp = true)
    (hquery : base.query = none) (hfragment : base.fragment = none) :
    ∃ front, base.scheme = scheme ∧ base.path = .steps (front ++ [[]]) ∧
      ∀ b, readScheme scheme (r ++ '/' :: b) = some (base.onward front b) := by
  obtain ⟨-, port, hkind⟩ := scheme_readScheme h hhttp
  have hhosted (cs : List Char) :
      readScheme scheme cs = readHosted scheme (cs.dropWhile (isSlash (.web port))) := by
    rw [readScheme, hkind]
  rw [hhosted] at h
  by_cases hempty : (r.dropWhile (isSlash (.web port))).isEmpty = true
  · -- slashes alone name no host
    rw [List.dropWhile_append, if_pos hempty, List.dropWhile_cons_of_pos rfl, List.dropWhile_nil,
      readHosted_nil hkind] at h
    cases h
  · rw [List.dropWhile_append, if_neg hempty] at h
    obtain ⟨front, hscheme, hpath, hread⟩ := readHosted_append hkind h hquery hfragment
    refine ⟨front, hscheme, hpath, fun b => ?_⟩
    rw [hhosted, List.dropWhile_append, if_neg hempty, hread b]

/-- The segments that a path behind the URL goes behind. -/
def folder (url : Url) : List (List Char) := url.path.segments.dropLast

/-- The URL with other segments behind its folder. -/
def within (url : Url) (segments : List (List Char)) : Url :=
  { url with path := .steps (url.folder ++ segments) }

/-- **A text behind an address is read from the folder of its URL on.** -/
theorem read_onward {address : String} {base : Url}
    (hread : Url.read (address ++ "/") = some base) (hhttp : base.isHttp = true)
    (hquery : base.query = none) (hfragment : base.fragment = none) (path : String) :
    Url.read (address ++ "/" ++ path) = some (base.onward base.folder (kept path.toList)) := by
  -- each reader is followed with nothing behind the slash, which tells it for every text there
  obtain ⟨⟨scheme, rest⟩, hsplit, hscheme⟩ := Option.bind_eq_some_iff.mp hread
  obtain ⟨front, hcleaned⟩ := cleaned_append address.toList
  have htext : (address ++ "/" ++ path).toList = address.toList ++ '/' :: path.toList := by
    rw [String.toList_append, String.toList_append, List.append_assoc]
    rfl
  have hnone : kept [] = [] := rfl
  rw [String.toList_append, show "/".toList = ['/'] from rfl, hcleaned [], hnone] at hsplit
  obtain ⟨r, rfl, hsplits⟩ := splitScheme_append hsplit
  obtain ⟨folder, rfl, hbase, hreads⟩ := readScheme_append hscheme hhttp hquery hfragment
  have hfolder : base.folder = folder := by
    rw [Url.folder, hbase]
    exact List.dropLast_concat
  rw [Url.read, htext, hcleaned, hsplits]
  show readScheme base.scheme (r ++ '/' :: kept path.toList) = _
  rw [hreads, hfolder]

/-- **A path behind an address is read as segments behind its URL**, if nothing in it ends a path or
steps out of it. -/
theorem read_append {address path : String} {base : Url}
    (hread : Url.read (address ++ "/") = some base) (hhttp : base.isHttp = true)
    (hquery : base.query = none) (hfragment : base.fragment = none)
    (hpath : ∀ c ∈ path.toList, IsInPath c)
    (hplaces : ∀ segment ∈ segmentsOf (Scheme.kind base.scheme) path.toList, IsPlace segment) :
    Url.read (address ++ "/" ++ path)
      = some (base.within (segmentsOf (Scheme.kind base.scheme) path.toList)) := by
  rw [read_onward hread hhttp hquery hfragment, kept_eq_self fun c hc => (hpath c hc).1, onward,
    splitAt_of_all fun c hc => (hpath c hc).2, walk_of_places _ hplaces, within]
  obtain ⟨scheme, credentials, host, port, path, query, fragment⟩ := base
  obtain rfl := hquery
  obtain rfl := hfragment
  rfl

/-! ## Sending -/

/-- What stands between the two slashes and the path, if there is a host. -/
def site (url : Url) : List Char :=
  (credentialsText url.credentials).toList ++ ((url.host.map Host.text).getD "").toList
    ++ (match url.port with
      | none => ""
      | some n => ":" ++ toString n).toList

/-- What stands behind the path. -/
def tailText (url : Url) : List Char :=
  queryText url.query ++ (match url.fragment with
    | none => ""
    | some f => String.ofList ('#' :: f)).toList

theorem text_of_host {url : Url} (h : url.host.isSome = true) :
    url.text.toList
      = url.scheme ++ ':' :: '/' :: '/' :: (url.site ++ (url.path.text ++ url.tailText)) := by
  obtain ⟨host, hhost⟩ := Option.isSome_iff_exists.mp h
  simp only [text, authorityText, target, site, tailText, hhost, String.toList_append,
    String.toList_ofList, List.append_assoc, Option.map_some, Option.getD_some]
  rfl

/-- What a request takes for the host, with all that goes with it. -/
def authority (url : Url) : List Char :=
  url.site.takeWhile fun c => c != '/' && c != '?' && c != '#'

/-- What is sent to is the host; the rest counts by its length only. -/
theorem isSendable_eq {url : Url} (h : url.host.isSome = true) {segment : List Char}
    {rest : List (List Char)} (hpath : url.path = .steps (segment :: rest)) :
    url.isSendable = (decide (url.text.length ≤ maxLength) &&
      (decide (url.scheme.length ≤ maxScheme) && !url.authority.isEmpty
        && isAuthority url.authority)) := by
  have htext := text_of_host h
  have hslash : url.path.text = '/' :: (segment ++ (Path.steps rest).text) := by rw [hpath]; rfl
  have hauthority : (url.site ++ (url.path.text ++ url.tailText)).takeWhile
      (fun c => c != '/' && c != '?' && c != '#') = url.authority := by
    rw [hslash, List.cons_append]
    exact takeWhile_append_stop rfl _ _
  rw [← String.length_toList]
  simp only [isSendable, htext, List.drop_left, hauthority]

/-- A URL with other segments behind its folder can be sent to just as well, unless it is too
long. -/
theorem canSend_of_length {url url' : Url} (hhost : url.host.isSome = true)
    (hsite : url'.scheme = url.scheme ∧ url'.credentials = url.credentials ∧
      url'.host = url.host ∧ url'.port = url.port)
    (hpath : ∃ segment rest, url.path = .steps (segment :: rest))
    (hpath' : ∃ segment rest, url'.path = .steps (segment :: rest))
    (h : Client.canSend url = true) (hlength : url'.text.length ≤ maxLength) :
    Client.canSend url' = true := by
  obtain ⟨segment, rest, hpath⟩ := hpath
  obtain ⟨segment', rest', hpath'⟩ := hpath'
  obtain ⟨hscheme, hcredentials, hhost', hport⟩ := hsite
  have hauthority : url'.authority = url.authority := by
    rw [authority, authority, site, site, hcredentials, hhost', hport]
  have hhttp : url'.isHttp = url.isHttp := by rw [isHttp, isHttp, hscheme]
  rw [Client.canSend, isSendable_eq hhost hpath, Bool.and_eq_true, Bool.and_eq_true] at h
  rw [Client.canSend, isSendable_eq (hhost' ▸ hhost) hpath', hhttp, hscheme, hauthority, h.1, h.2.2,
    decide_eq_true hlength]
  rfl

end Switchboard.Agent.Url
