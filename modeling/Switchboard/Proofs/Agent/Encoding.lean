import Mathlib.Data.String.Basic
import Switchboard.Agent.Url
/-!
# What encoded text says

Text in a URL is written so that its reader gets back what was meant: the reader of a path turns
written bytes back into characters, and the reader of a query does so after it took plus signs for
blanks and cut the query into pairs.

* `segmentText?` — what a segment of a path says.
* `Url.pairs?` — the pairs in a query; `pairs?_withPairs` — those that were put there.
* `percentDecoded_of_dotsOf` — what a step says.
* `length_le_pairText`, `query_infix_text` — what is in a query is no longer than the URL.
-/

namespace Switchboard.Text

/-! ## Bytes -/

theorem digitValue?_upperHexDigit {n : Nat} (h : n < 16) :
    digitValue? 16 (upperHexDigit n) = some n := by
  have hall : ∀ m < 16, digitValue? 16 (upperHexDigit m) = some m := by decide
  exact hall n h

theorem percentDecoded_percentByte (b : UInt8) (rest : List Char) :
    percentDecoded (percentByte b ++ rest) = b :: percentDecoded rest := by
  have hb : b.toNat < 256 := b.toNat_lt
  rw [percentByte, List.cons_append, List.cons_append, List.cons_append, List.nil_append,
    percentDecoded, digitValue?_upperHexDigit (by omega), digitValue?_upperHexDigit (by omega)]
  have hvalue : UInt8.ofNat (16 * (b.toNat / 16) + b.toNat % 16) = b := by
    rw [Nat.div_add_mod, UInt8.ofNat_toNat]
  show UInt8.ofNat (16 * (b.toNat / 16) + b.toNat % 16) :: _ = _
  rw [hvalue]

theorem percentDecoded_percentBytes (bytes : List UInt8) (rest : List Char) :
    percentDecoded (bytes.flatMap percentByte ++ rest) = bytes ++ percentDecoded rest := by
  induction bytes with
  | nil => rfl
  | cons b bytes ih =>
    rw [List.flatMap_cons, List.append_assoc, percentDecoded_percentByte, ih, List.cons_append]

/-- Whatever is no percent sign stands for its own bytes. -/
theorem percentDecoded_cons {c : Char} (h : c ≠ '%') (rest : List Char) :
    percentDecoded (c :: rest) = String.utf8EncodeChar c ++ percentDecoded rest := by
  rw [percentDecoded]
  rintro a b rest' rfl
  exact absurd rfl h

/-- The bytes of a text come back, if every percent sign in it was encoded. -/
theorem percentDecoded_percentEncoded {isSpecial : Char → Bool} {cs : List Char}
    (h : ∀ c ∈ cs, c = '%' → isSpecial c = true) :
    percentDecoded (percentEncoded isSpecial cs) = utf8 cs := by
  induction cs with
  | nil => rfl
  | cons c cs ih =>
    have hrest := ih fun c' hc' => h c' (List.mem_cons_of_mem c hc')
    rw [percentEncoded, List.flatMap_cons, utf8, List.flatMap_cons]
    by_cases hc : isSpecial c = true
    · rw [if_pos hc, percentDecoded_percentBytes]
      exact congrArg _ hrest
    · have hne : c ≠ '%' := fun heq => hc (h c List.mem_cons_self heq)
      rw [if_neg hc, List.singleton_append, percentDecoded_cons hne]
      exact congrArg _ hrest

theorem utf8_eq_toByteArray (cs : List Char) :
    (⟨(utf8 cs).toArray⟩ : ByteArray) = (String.ofList cs).toByteArray := by
  rw [String.toByteArray_ofList]
  exact ByteArray.ext List.data_toByteArray.symm

/-- The text of the bytes of a text is that text. -/
theorem textOf?_utf8 (cs : List Char) : textOf? (utf8 cs) = some (String.ofList cs) := by
  rw [textOf?, utf8_eq_toByteArray, String.fromUTF8?, dif_pos (String.ofList cs).isValidUTF8]
  rfl

/-- The bytes of a text are those that it is the text of. -/
theorem eq_utf8_of_textOf? {bytes : List UInt8} {s : String} (h : textOf? bytes = some s) :
    bytes = utf8 s.toList := by
  have hutf8 := utf8_eq_toByteArray s.toList
  rw [String.ofList_toList] at hutf8
  rw [textOf?, String.fromUTF8?] at h
  split at h
  · obtain rfl := Option.some.inj h
    exact (congrArg (fun a : ByteArray => a.data.toList) hutf8).symm
  · exact nomatch h

end Switchboard.Text

namespace Switchboard.Agent

open Text

/-! ## Segments -/

/-- What a segment of a path says. -/
def segmentText? (segment : List Char) : Option String := textOf? (percentDecoded segment)

namespace Url

/-- What is written as dots says dots. -/
theorem percentDecoded_of_dotsOf (segment : List Char) :
    ∀ n, dotsOf segment = List.replicate n '.' → percentDecoded segment = List.replicate n 46 := by
  induction segment using dotsOf.induct with
  | case1 rest ih | case2 rest ih =>
    intro n h
    cases n with
    | zero => cases h
    | succ n =>
      have hrest := ih n (List.cons.inj h).2
      show UInt8.ofNat 46 :: percentDecoded rest = _
      rw [hrest, List.replicate_succ]
      rfl
  | case3 c rest hlower hupper ih =>
    intro n h
    rw [dotsOf] at h
    · cases n with
      | zero => cases h
      | succ n =>
        obtain ⟨rfl, hrest⟩ := List.cons.inj h
        rw [percentDecoded_cons (by decide), ih n hrest, List.replicate_succ]
        rfl
    · exact hlower
    · exact hupper
  | case4 =>
    intro n h
    cases n with
    | zero => rfl
    | succ n => cases h

theorem utf8_dots (n : Nat) : utf8 (List.replicate n '.') = List.replicate n 46 := by
  induction n with
  | zero => rfl
  | succ n ih =>
    rw [List.replicate_succ, List.replicate_succ, ← ih]
    rfl

/-! ## Pairs -/

/-- What a name or a value in a query says. -/
def formText? (cs : List Char) : Option String :=
  textOf? (percentDecoded (cs.map fun c => if c = '+' then ' ' else c))

/-- The name and the value that a part of a query says. -/
def pair? (cs : List Char) : Option (String × String) := do
  let name ← formText? (cs.takeWhile (· ≠ '='))
  let value ← formText? ((cs.dropWhile (· ≠ '=')).drop 1)
  return (name, value)

/-- The pairs in the query of a URL. -/
def pairs? (url : Url) : Option (List (String × String)) :=
  match url.query with
  | none => some []
  | some query => ((query.splitOn '&').filter fun cs => !cs.isEmpty).mapM pair?

/-- Letters, digits and a few others stand for themselves in a pair, and none of them has a part in
the syntax of a query. -/
theorem isSpecialInPair_of_mark {c : Char} (h : c ∈ ['+', '%', '&', '=']) :
    isSpecialInPair c = true := by
  have hall : ['+', '%', '&', '='].all isSpecialInPair = true := by decide
  exact List.all_eq_true.mp hall c h

theorem percentByte_not_mark (b : UInt8) {c : Char} (h : c ∈ percentByte b) :
    c ∉ ['+', '&', '='] := by
  have hall : ∀ n < 16, upperHexDigit n ∉ ['+', '&', '='] := by decide
  have hb : b.toNat < 256 := b.toNat_lt
  rw [percentByte] at h
  rcases List.mem_cons.mp h with rfl | h
  · decide
  · rcases List.mem_cons.mp h with rfl | h
    · exact hall _ (by omega)
    · rw [List.mem_singleton.mp h]
      exact hall _ (by omega)

/-- What stands for a character in a pair has no part in the syntax of a query, but for the plus
sign that is a blank. -/
theorem percentEncoded_not_mark {c d : Char} (h : c ∈ percentEncoded isSpecialInPair [d]) :
    c ∉ ['+', '&', '='] := by
  rw [percentEncoded, List.flatMap_singleton] at h
  by_cases hd : isSpecialInPair d = true
  · rw [if_pos hd] at h
    obtain ⟨b, -, hb⟩ := List.mem_flatMap.mp h
    exact percentByte_not_mark b hb
  · rw [if_neg hd, List.mem_singleton] at h
    subst h
    exact fun hmem => hd (isSpecialInPair_of_mark (by
      rcases List.mem_cons.mp hmem with rfl | hmem
      · decide
      · exact List.mem_cons_of_mem _ (List.mem_cons_of_mem _ hmem)))

theorem pairText_not_mark {s : String} {c : Char} (h : c ∈ pairText s) : c ∉ ['&', '='] := by
  obtain ⟨d, -, hd⟩ := List.mem_flatMap.mp h
  by_cases hblank : d = ' '
  · rw [if_pos hblank, List.mem_singleton] at hd
    subst hd
    decide
  · rw [if_neg hblank] at hd
    exact fun hmem => percentEncoded_not_mark hd (List.mem_cons_of_mem _ hmem)

/-- A text with its plus signs taken for blanks: only blanks were written as such. -/
theorem blanks_pairText (s : String) :
    (pairText s).map (fun c => if c = '+' then ' ' else c)
      = percentEncoded (fun c => isSpecialInPair c && c != ' ') s.toList := by
  rw [pairText, List.map_flatMap, percentEncoded]
  refine List.flatMap_congr fun c _ => ?_
  by_cases hblank : c = ' '
  · subst hblank
    rfl
  · have hsame : (percentEncoded isSpecialInPair [c]).map (fun c => if c = '+' then ' ' else c)
        = percentEncoded isSpecialInPair [c] := by
      refine (List.map_congr_left fun d hd => ?_).trans (List.map_id _)
      exact if_neg fun heq : d = '+' => percentEncoded_not_mark hd (heq ▸ List.mem_cons_self)
    rw [if_neg hblank, hsame, percentEncoded, List.flatMap_singleton,
      show (c != ' ') = true from bne_iff_ne.mpr hblank, Bool.and_true]

/-- A name or a value says what was written in it. -/
theorem formText?_pairText (s : String) : formText? (pairText s) = some s := by
  have hpercent : ∀ c ∈ s.toList, c = '%' → (isSpecialInPair c && c != ' ') = true := by
    rintro c - rfl
    decide
  rw [formText?, blanks_pairText, percentDecoded_percentEncoded hpercent, textOf?_utf8,
    String.ofList_toList]

theorem pair?_pairOf (p : String × String) : pair? (pairOf p) = some p := by
  have hname : ∀ c ∈ pairText p.1, decide (c ≠ '=') = true := fun c hc =>
    decide_eq_true fun heq => pairText_not_mark hc (by rw [heq]; decide)
  rw [pair?, pairOf, List.takeWhile_append_of_pos hname, List.dropWhile_append_of_pos hname]
  show (do
    let name ← formText? (pairText p.1 ++ [])
    let value ← formText? (pairText p.2)
    return (name, value)) = some p
  rw [List.append_nil, formText?_pairText, formText?_pairText]
  rfl

theorem pairOf_ne_nil (p : String × String) : pairOf p ≠ [] :=
  List.append_ne_nil_of_right_ne_nil _ (List.cons_ne_nil _ _)

theorem not_mem_pairOf (p : String × String) : '&' ∉ pairOf p := by
  intro hmem
  rcases List.mem_append.mp hmem with hmem | hmem
  · exact pairText_not_mark hmem (by decide)
  · rcases List.mem_cons.mp hmem with heq | hmem
    · exact absurd heq (by decide)
    · exact pairText_not_mark hmem (by decide)

/-- More pairs stand behind those that are there, an ampersand in front of each. -/
theorem addPairs_some {query : List Char} (h : query ≠ []) (ps : List (String × String)) :
    addPairs (some query) ps = some (query ++ ps.flatMap fun p => '&' :: pairOf p) := by
  induction ps generalizing query with
  | nil => rw [List.flatMap_nil, List.append_nil]; rfl
  | cons p ps ih =>
    cases query with
    | nil => exact absurd rfl h
    | cons c cs =>
      show addPairs (some (c :: cs ++ '&' :: pairOf p)) ps = _
      have hmore : c :: cs ++ '&' :: pairOf p ≠ [] := List.cons_ne_nil _ _
      rw [ih hmore, List.flatMap_cons, List.append_assoc]

theorem splitOn_pairs (first : String × String) (rest : List (String × String)) :
    (pairOf first ++ rest.flatMap fun p => '&' :: pairOf p).splitOn '&'
      = pairOf first :: rest.map pairOf := by
  have hwhole (p : String × String) : (pairOf p).splitOn '&' = [pairOf p] :=
    List.splitOnP_eq_singleton fun c hc =>
      beq_eq_false_iff_ne.mpr fun heq : c = '&' => not_mem_pairOf p (heq ▸ hc)
  induction rest generalizing first with
  | nil => rw [List.flatMap_nil, List.append_nil, hwhole]; rfl
  | cons p rest ih =>
    have hcut := List.splitOnP_append_cons (p := (· == '&')) (pairOf first)
      (pairOf p ++ rest.flatMap fun p => '&' :: pairOf p) (beq_self_eq_true '&')
    rw [List.flatMap_cons, List.cons_append, List.splitOn, hcut, List.map_cons, ← ih p]
    exact congrArg (· ++ _) (hwhole first)

/-- **A query says the pairs that were put in it.** -/
theorem pairs?_withPairs {url : Url} (h : url.query = none) (ps : List (String × String)) :
    (url.withPairs ps).pairs? = some ps := by
  cases ps with
  | nil =>
    rw [pairs?, withPairs, addPairs, List.foldl_nil, h]
  | cons first rest =>
    have hquery : (url.withPairs (first :: rest)).query
        = some (pairOf first ++ rest.flatMap fun p => '&' :: pairOf p) := by
      rw [← addPairs_some (pairOf_ne_nil first) rest]
      show addPairs url.query (first :: rest) = _
      rw [h]
      rfl
    have hfilter : ((first :: rest).map pairOf).filter (fun cs => !cs.isEmpty)
        = (first :: rest).map pairOf := by
      refine List.filter_eq_self.mpr fun cs hcs => ?_
      obtain ⟨p, -, rfl⟩ := List.mem_map.mp hcs
      rw [List.isEmpty_eq_false_iff.mpr (pairOf_ne_nil p)]
      rfl
    rw [pairs?, hquery]
    show ((List.splitOn '&' _).filter _).mapM pair? = _
    rw [splitOn_pairs, ← List.map_cons, hfilter, List.mapM_map,
      show pair? ∘ pairOf = some from funext pair?_pairOf]
    exact (List.mapM_pure (m := Option) (f := id)).trans (congrArg some (List.map_id _))

/-! ## Lengths -/

/-- Nothing gets shorter when it is written in a pair. -/
theorem length_le_pairText (s : String) : s.length ≤ (pairText s).length := by
  rw [← String.length_toList, pairText]
  induction s.toList with
  | nil => exact Nat.zero_le _
  | cons c cs ih =>
    rw [List.flatMap_cons, List.length_append, List.length_cons, Nat.add_comm]
    refine Nat.add_le_add (List.length_pos_iff.mpr ?_) ih
    split
    · exact List.cons_ne_nil _ _
    · rw [percentEncoded, List.flatMap_singleton]
      split
      · have hbytes : String.utf8EncodeChar c ≠ [] :=
          List.length_pos_iff.mp (String.length_utf8EncodeChar c ▸ c.utf8Size_pos)
        obtain ⟨b, bytes, heq⟩ := List.exists_cons_of_ne_nil hbytes
        rw [heq]
        exact List.cons_ne_nil _ _
      · exact List.cons_ne_nil _ _

/-- A query has the last of its pairs at its end. -/
theorem pairOf_suffix_addPairs (query : Option (List Char)) (ps : List (String × String))
    (p : String × String) :
    ∃ query', addPairs query (ps ++ [p]) = some query' ∧ pairOf p <:+ query' := by
  rw [addPairs, List.foldl_append, List.foldl_cons, List.foldl_nil]
  split
  · exact ⟨_, rfl, (List.suffix_cons _ _).trans (List.suffix_append _ _)⟩
  · exact ⟨_, rfl, List.suffix_rfl⟩

theorem query_infix_text {url : Url} {query : List Char} (h : url.query = some query) :
    query <:+: url.text.toList := by
  have htarget : query <:+ url.target.toList := by
    rw [target, h, String.toList_ofList]
    exact (List.suffix_cons _ _).trans (List.suffix_append _ _)
  rw [text, String.toList_append, String.toList_append]
  exact (htarget.trans (List.suffix_append _ _)).isInfix.trans (List.prefix_append _ _).isInfix

end Url

end Switchboard.Agent
