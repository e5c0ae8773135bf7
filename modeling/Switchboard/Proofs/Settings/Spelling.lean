import Switchboard.Proofs.Document.Yaml
import Switchboard.Proofs.Duration.Grammar
import Switchboard.Proofs.Settings.Places
import Switchboard.Proofs.Settings.Validation
import Switchboard.Proofs.Yaml.Quiet
import Switchboard.Proofs.Yaml.Record
/-!
# Spellings of seconds

A duration in whole seconds can be written as a number, as a text of its digits, and with the unit behind
them. The number is taken as it is, and the texts are counted in milliseconds, of which there are 64
bits. So the spellings agree as long as the milliseconds have 64 bits, in JSON and in YAML, for every
field, and whatever else is written; beyond that, a number is still taken and a text is refused.

* `Spelling`, `Spelling.Says` — the ways to write seconds, and what a scalar says that does.
* `Duration.read_seconds` — how far the texts reach.
* `DurationField.Agree`, `DurationField.Meets` — the spellings lead to the same, and when they do.
* `Settings.meets_of_hinges` — they do wherever all hinges on what the scalar says.
* `Dialect`, `Spelling.json`, `Spelling.name` — how they are written.
* `spellings_meet` — the law; `spellings_differ` — the longest time in seconds.
-/

namespace Switchboard

/-! ## What is written -/

/-- The ways to write a number of seconds. -/
inductive Spelling
  | number
  | digits
  | unit
  deriving DecidableEq, Repr

/-- What a scalar says that writes so many seconds. -/
inductive Spelling.Says (n : Nat) : Spelling → Leaf → Prop
  | number (written : Option String) : Says n .number ⟨.natural n, written, false⟩
  | digits (written : Option String) : Says n .digits ⟨.text (toString n), written, false⟩
  | unit (written : Option String) : Says n .unit ⟨.text (Duration.write n .second), written, false⟩

namespace Duration

/-- Seconds are counted in milliseconds, of which there are 64 bits. -/
theorem readTrimmed_seconds {n : Nat} (hn : n < 2 ^ 64) {symbol : List Char}
    (h : Unit.second.Spells symbol) : readTrimmed (Nat.toDigits 10 n ++ symbol)
      = if n * 1000 < 2 ^ 64 then .ok (.ofSeconds n) else .error .overflow := by
  have hnumeral := Text.isNumeral_toDigits n
  have hleads : Leads (Nat.toDigits 10 n ++ symbol) (Nat.toDigits 10 n) symbol :=
    ⟨rfl, hnumeral.isDigit, fun c hc => h.isDigit_eq_false c (List.mem_of_head? hc)⟩
  have htrim : Text.trimBlank symbol = symbol := by
    rw [Text.trimBlank, Text.dropBlank_eq_self fun c hc => h.isBlank_eq_false c (List.mem_of_head? hc),
      Text.dropBlankEnd_eq_self fun c hc => h.isBlank_eq_false c (List.mem_of_getLast? hc)]
  have hword : n ≤ Text.maxWord64 := Nat.le_of_lt_succ hn
  rw [readTrimmed_of_leads hleads (List.append_ne_nil_of_left_ne_nil hnumeral.ne_nil _),
    Text.readNatural_of_isDigit hnumeral.ne_nil hnumeral.isDigit, hnumeral.value, if_pos hword, htrim]
  dsimp only
  rw [Unit.ofSymbol?_eq_some_iff.mpr h]
  dsimp only
  by_cases hfits : n * 1000 < 2 ^ 64
  · have hle : ¬ Text.maxWord64 < n * Unit.second.millis := Nat.not_lt_of_le (Nat.le_of_lt_succ hfits)
    have hsame : ofMillis (n * Unit.second.millis) = ofSeconds n :=
      congrArg Duration.mk (Nat.mul_assoc n 1000 perMilli)
    rw [if_pos hfits, if_neg hle, hsame]
  · have hlarge : Text.maxWord64 < n * Unit.second.millis := Nat.lt_of_succ_le (Nat.le_of_not_lt hfits)
    rw [if_neg hfits, if_pos hlarge]

theorem read_seconds {n : Nat} (hn : n < 2 ^ 64) {symbol : List Char} (h : Unit.second.Spells symbol) :
    read (String.ofList (Nat.toDigits 10 n ++ symbol))
      = if n * 1000 < 2 ^ 64 then .ok (.ofSeconds n) else .error .overflow := by
  have hplain : ∀ c ∈ Nat.toDigits 10 n ++ symbol, Text.isBlank c = false :=
    List.forall_mem_append.mpr ⟨fun c hc => isBlank_of_isDigit ((Text.isNumeral_toDigits n).isDigit c hc),
      h.isBlank_eq_false⟩
  rw [← readTrimmed_seconds hn h, read, String.toList_ofList, Text.trimBlank,
    Text.dropBlank_eq_self fun c hc => hplain c (List.mem_of_head? hc),
    Text.dropBlankEnd_eq_self fun c hc => hplain c (List.mem_of_getLast? hc)]

theorem toString_eq (n : Nat) : toString n = String.ofList (Nat.toDigits 10 n ++ []) := by
  rw [List.append_nil, Nat.toString_eq_ofList_toDigits]

theorem write_second_eq (n : Nat) :
    write n .second = String.ofList (Nat.toDigits 10 n ++ ['s']) := by
  rw [write, Nat.toString_eq_ofList_toDigits, String.ofList_append]
  rfl

end Duration

/-- What becomes of a text that spells seconds. -/
theorem asOptionalDuration_of_spells {n : Nat} (hn : n < 2 ^ 64) {symbol : List Char}
    (h : Duration.Unit.second.Spells symbol) (written : Option String) :
    Draft.asOptionalDuration
        (.leaf ⟨.text (String.ofList (Nat.toDigits 10 n ++ symbol)), written, false⟩)
      = if n * 1000 < 2 ^ 64 then some (some (.ofSeconds n)) else none := by
  show ((Duration.read (String.ofList (Nat.toDigits 10 n ++ symbol))).toOption).map some = _
  rw [Duration.read_seconds hn h]
  split <;> rfl

/-- The duration that is read of each of the spellings, if it is. -/
theorem Spelling.Says.asOptionalDuration_eq {n : Nat} (hn : n < 2 ^ 64) {w : Spelling} {l : Leaf}
    (h : w.Says n l) : Draft.asOptionalDuration (.leaf l)
      = if w = .number ∨ n * 1000 < 2 ^ 64 then some (some (.ofSeconds n)) else none := by
  cases h with
  | number => rfl
  | digits written =>
    rw [Duration.toString_eq, asOptionalDuration_of_spells hn .bare]
    simp only [reduceCtorEq, false_or]
  | unit written =>
    have hspells : Duration.Unit.second.Spells ['s'] := .symbol .second
    rw [Duration.write_second_eq, asOptionalDuration_of_spells hn hspells]
    simp only [reduceCtorEq, false_or]

/-! ## What becomes of it -/

namespace DurationField

/-- The duration that settings have in a field. -/
def of : DurationField → Settings → Option Duration
  | .grace, s => s.grace
  | .timeout, s => some s.timeout
  | .floor, s => some s.backoff.floor
  | .cap, s => some s.backoff.cap

/-- What is written for a field is what settings have in it, if they go together. -/
theorem of_ofDraft {f : DurationField} {draft : Draft} {d : Duration} {s : Settings}
    (h : Settings.ofDraft (f.put draft (some d)) = .ok s) : f.of s = some d := by
  have hcoherent := Settings.isCoherent_of_ofDraft h
  obtain ⟨mode, -, hread⟩ := Settings.ofDraft_of_isCoherent hcoherent
  obtain rfl : Settings.taken _ mode = s := Except.ok.inj (hread.symm.trans h)
  cases f with
  | grace | timeout | floor => rfl
  | cap =>
    -- the cap is raised to the floor, but it is not below it
    have hle : draft.backoff.floor.getD Backoff.defaultFloor ≤ d := hcoherent.floor_le_cap
    exact congrArg (fun n => some (Duration.mk n)) (Nat.max_eq_left hle)

/-- All the spellings lead to the same: all are refused, or all are accepted, and the same settings have
so many seconds in the field. -/
def Agree (f : DurationField) (n : Nat) (results : Spelling → Except Settings.ReadFault Settings) :
    Prop :=
  (∀ w, ∃ fault, results w = .error fault) ∨
    ∃ s, (∀ w, results w = .ok s) ∧ f.of s = some (.ofSeconds n)

/-- How the spellings relate: they agree if the milliseconds have 64 bits, or if a number is refused
as well; beyond that the texts are refused. A number that is accepted is always taken as it is. -/
structure Meets (f : DurationField) (n : Nat)
    (results : Spelling → Except Settings.ReadFault Settings) : Prop where
  agree_iff : f.Agree n results ↔ n * 1000 < 2 ^ 64 ∨ ∃ fault, results .number = .error fault
  refused : 2 ^ 64 ≤ n * 1000 → ∀ w, w ≠ .number → ∃ fault, results w = .error fault
  number : ∀ s, results .number = .ok s → f.of s = some (.ofSeconds n)

end DurationField

namespace Settings

/-- The settings that a document holds, from what is read of it. -/
def ofDraft? (fault : ReadFault) (draft : Option Draft) : Except ReadFault Settings :=
  match draft with
  | none => .error fault
  | some draft =>
    match ofDraft draft with
    | .ok s => .ok s
    | .error why => .error (.invalid why)

theorem of_ofDraft? {fault : ReadFault} {f : DurationField} {rest : Option Draft} {d : Duration}
    {s : Settings}
    (h : ofDraft? fault (rest.bind fun draft => (some (some d)).map (f.put draft)) = .ok s) :
    f.of s = some d := by
  cases rest with
  | none => cases h
  | some draft =>
    have h : ofDraft? fault (some (f.put draft (some d))) = .ok s := h
    unfold ofDraft? at h
    dsimp only at h
    split at h
    · rename_i hread
      obtain rfl := Except.ok.inj h
      exact DurationField.of_ofDraft hread
    · cases h

/-- The spellings meet wherever the outcome hinges on the duration. -/
theorem meets_of_hinges {f : DurationField} {around : Document → Document}
    (h : f.IsPlace around) {n : Nat} (hn : n < 2 ^ 64) {fault : ReadFault}
    {results : Spelling → Except ReadFault Settings}
    (hresults : ∀ w, ∃ l, w.Says n l ∧ results w = ofDocument fault (some (around (.leaf l)))) :
    f.Meets n results := by
  -- what is read of the rest is the same for all spellings
  obtain ⟨rest, hrest⟩ := h.hinges
  have houtcome (w : Spelling) : results w = ofDraft? fault (rest.bind fun draft =>
      (if w = .number ∨ n * 1000 < 2 ^ 64 then some (some (.ofSeconds n)) else none).map
        (f.put draft)) := by
    obtain ⟨l, hsays, hresult⟩ := hresults w
    rw [hresult, ← hsays.asOptionalDuration_eq hn, ← hrest]
    rfl
  have hnumber := houtcome .number
  rw [if_pos (.inl rfl)] at hnumber
  have htaken : ∀ s, results .number = .ok s → f.of s = some (.ofSeconds n) := fun s hs =>
    of_ofDraft? (hnumber.symm.trans hs)
  have hrefused : 2 ^ 64 ≤ n * 1000 → ∀ w, w ≠ .number → ∃ fault, results w = .error fault := by
    intro hlarge w hw
    refine ⟨fault, ?_⟩
    rw [houtcome, if_neg (not_or.mpr ⟨hw, Nat.not_lt_of_le hlarge⟩)]
    cases rest <;> rfl
  refine ⟨⟨?_, ?_⟩, hrefused, htaken⟩
  · rintro (hall | ⟨s, hall, -⟩)
    · exact .inr (hall .number)
    · refine .inl (Nat.lt_of_not_le fun hlarge => ?_)
      obtain ⟨fault', hfault⟩ := hrefused hlarge .digits (by decide)
      cases hfault.symm.trans (hall .digits)
  · intro hcases
    by_cases hfits : n * 1000 < 2 ^ 64
    · -- what is read of all three is the same
      have hsame (w : Spelling) : results w = results .number := by
        rw [hnumber, houtcome, if_pos (.inr hfits)]
      cases hresult : results .number with
      | error fault' => exact .inl fun w => ⟨fault', (hsame w).trans hresult⟩
      | ok s => exact .inr ⟨s, fun w => (hsame w).trans hresult, htaken s hresult⟩
    · obtain ⟨fault', hfault⟩ := hcases.resolve_left hfits
      refine .inl fun w => ?_
      by_cases hw : w = .number
      · exact ⟨fault', hw ▸ hfault⟩
      · exact hrefused (Nat.le_of_not_lt hfits) w hw

end Settings

/-! ## How it is written -/

/-- The notations for settings. -/
inductive Dialect
  | json
  | yaml
  deriving DecidableEq, Repr

namespace Dialect

/-- The document that is read of a text. -/
def document : Dialect → String → Option Document
  | .json => Document.ofJson
  | .yaml => Document.ofYaml

/-- The settings that are read of it. -/
def settings : Dialect → String → Except Settings.ReadFault Settings
  | .json => Settings.ofJson
  | .yaml => Settings.ofYaml

/-- The fault of a text in which no settings are written. -/
def fault : Dialect → Settings.ReadFault
  | .json => .json
  | .yaml => .yaml

/-- In a text of blanks there is nothing more than a scalar. -/
theorem eq_leaf_of_isBlankText {s : String} {d : Document} (hblank : Text.isBlankText s = true)
    (h : Document.ofYaml s = some d) : ∃ l, d = .leaf l := by
  refine Yaml.eq_leaf_of_isQuiet Yaml.isQuiet_isBlank (fun c hc => ?_) h
  exact List.all_eq_true.mp hblank c ((List.takeWhile_sublist _).subset hc)

/-- Settings are those of the document. -/
theorem settings_eq {dialect : Dialect} {s : String} {d : Document} (h : dialect.document s = some d)
    (hleaf : ∀ l, d ≠ .leaf l) :
    dialect.settings s = Settings.ofDocument dialect.fault (some d) := by
  cases dialect with
  | json => exact congrArg (Settings.ofDocument .json) h
  | yaml =>
    -- a text of blanks is not looked into, but there would be no more than a scalar in it
    have hblank : ¬ Text.isBlankText s = true := fun hblank =>
      let ⟨l, hl⟩ := eq_leaf_of_isBlankText hblank h
      hleaf l hl
    exact (if_neg hblank).trans (congrArg (Settings.ofDocument .yaml) h)

end Dialect

namespace Spelling

/-- The spelling in JSON. -/
def json (n : Nat) : Spelling → Json
  | .number => .natural n
  | .digits => .text (toString n)
  | .unit => .text (Duration.write n .second)

/-- What is written in JSON says it. -/
theorem says_json {n : Nat} (hn : n < 2 ^ 64) (w : Spelling) :
    ∃ l, w.Says n l ∧ (w.json n).document = .leaf l := by
  cases w with
  | number =>
    have hword : n ≤ Text.maxWord64 := Nat.le_of_lt_succ hn
    refine ⟨_, .number none, ?_⟩
    rw [json, Json.document, if_pos hword]
    rfl
  | digits => exact ⟨_, .digits _, rfl⟩
  | unit => exact ⟨_, .unit _, rfl⟩

/-- The characters of the spelling. -/
def chars (n : Nat) : Spelling → List Char
  | .number | .digits => Nat.toDigits 10 n
  | .unit => Nat.toDigits 10 n ++ ['s']

/-- A number of 64 bits has no more digits than a key in YAML may have characters. -/
theorem length_toDigits_le {n : Nat} (hn : n < 2 ^ 64) : (Nat.toDigits 10 n).length ≤ 20 :=
  (Nat.length_toDigits_le_iff (by decide) (by decide)).mpr
    (Nat.lt_trans hn (by decide))

theorem isWord_of_isDigit {c : Char} (h : Text.isDigit c = true) : Yaml.isWord c = true := by
  have h : (decide ('0' ≤ c) && decide (c ≤ '9')) = true := h
  rw [Yaml.isWord, h]
  rfl

/-- Digits, and a unit behind them or nothing, are a word. -/
theorem isName_digits {n : Nat} (hn : n < 2 ^ 64) {symbol : List Char} (hsymbol : symbol <:+ ['s']) :
    Yaml.IsName (Nat.toDigits 10 n ++ symbol) where
  isWord := List.forall_mem_append.mpr
    ⟨fun _ hc => isWord_of_isDigit ((Text.isNumeral_toDigits n).isDigit _ hc), fun c hc => by
      rw [List.mem_singleton.mp (hsymbol.subset hc)]
      rfl⟩
  first := by
    obtain ⟨c, cs, hdigits⟩ := List.exists_cons_of_ne_nil (Text.isNumeral_toDigits n).ne_nil
    have hc := (Text.isNumeral_toDigits n).isDigit c (hdigits ▸ List.mem_cons_self)
    refine ⟨c, cs ++ symbol, by rw [hdigits, List.cons_append], ?_⟩
    rintro rfl
    exact absurd hc (by decide)
  length_le := by
    have hdigits := length_toDigits_le hn
    have hlength : symbol.length ≤ 1 := hsymbol.length_le
    rw [List.length_append]
    omega

theorem isName_chars {n : Nat} (hn : n < 2 ^ 64) (w : Spelling) : Yaml.IsName (w.chars n) := by
  cases w with
  | number | digits =>
    rw [chars, ← List.append_nil (Nat.toDigits 10 n)]
    exact isName_digits hn List.nil_suffix
  | unit => exact isName_digits hn List.suffix_rfl

/-- The spelling in YAML. -/
def name {n : Nat} (hn : n < 2 ^ 64) (w : Spelling) : Yaml.Name := ⟨w.chars n, isName_chars hn w⟩

/-- The styles in YAML: a number stands by itself, and a text of digits between quotes. -/
def Allows : Spelling → Yaml.Style → Prop
  | .number, style => style = .plain
  | .digits, style => style ≠ .plain
  | .unit, _ => True

/-- What is written in YAML says it. -/
theorem says_name {n : Nat} (hn : n < 2 ^ 64) {w : Spelling} {style : Yaml.Style}
    (h : w.Allows style) :
    w.Says n (Document.Yaml.leafOf style.isPlain none (w.name hn).text) := by
  cases w with
  | number =>
    obtain rfl : style = .plain := h
    have hvalue : Document.Yaml.plainValue (number.name hn).text = .natural n :=
      Document.Yaml.plainValue_toDigits (Nat.le_of_lt_succ hn)
    rw [Yaml.Style.isPlain, Document.Yaml.leafOf_plain hvalue nofun]
    exact .number _
  | digits =>
    have htext : (digits.name hn).text = toString n := Nat.toString_eq_ofList_toDigits.symm
    have hquoted : style.isPlain = false := by
      cases style with
      | plain => exact absurd rfl h
      | single | double => rfl
    rw [hquoted, Document.Yaml.leafOf_quoted, htext]
    exact .digits _
  | unit =>
    have htext : (unit.name hn).text = Duration.write n .second := (Duration.write_second_eq n).symm
    have hvalue : Document.Yaml.plainValue (unit.name hn).text = .text (unit.name hn).text :=
      Document.Yaml.plainValue_withUnit n
    have hleaf : Document.Yaml.leafOf style.isPlain none (unit.name hn).text
        = ⟨.text (unit.name hn).text, some (unit.name hn).text, false⟩ := by
      cases style with
      | plain => exact Document.Yaml.leafOf_plain hvalue nofun
      | single | double => rfl
    rw [hleaf, htext]
    exact .unit _

end Spelling

/-! ## The law -/

/-- **Spellings of seconds agree as far as the milliseconds have 64 bits**, for every number of 64 bits and
every field that holds a duration, whatever else is written: in any texts that say the seconds in the
three ways in the same place, in JSON as it is written here, and in YAML by indentation. -/
theorem spellings_meet (f : DurationField) (n : Nat) (hn : n < 2 ^ 64)
    (around : Document → Document) (hplace : f.IsPlace around) :
    (∀ (dialect : Dialect) (texts : Spelling → String),
      (∀ w, ∃ l, w.Says n l ∧ dialect.document (texts w) = some (around (.leaf l))) →
      f.Meets n fun w => dialect.settings (texts w)) ∧
    (∀ values : Spelling → Json,
      (∀ w, (values w).document = around (w.json n).document) →
      f.Meets n fun w => Settings.ofJson (values w).render) ∧
    ∀ (styles : Spelling → Yaml.Style) (records : Spelling → Yaml.Entries),
      (∀ w, w.Allows (styles w) ∧ Document.record (records w).documents
        = around (Yaml.Block.scalar (styles w) (w.name hn)).document) →
      f.Meets n fun w => Settings.ofYaml (records w).text := by
  have hall : ∀ (dialect : Dialect) (texts : Spelling → String),
      (∀ w, ∃ l, w.Says n l ∧ dialect.document (texts w) = some (around (.leaf l))) →
      f.Meets n fun w => dialect.settings (texts w) := by
    intro dialect texts htexts
    have hsettings : ∀ w, ∃ l, w.Says n l ∧
        dialect.settings (texts w) = Settings.ofDocument dialect.fault (some (around (.leaf l))) := by
      intro w
      obtain ⟨l, hsays, hdocument⟩ := htexts w
      exact ⟨l, hsays, Dialect.settings_eq hdocument (hplace.ne_leaf _)⟩
    exact Settings.meets_of_hinges hplace hn hsettings
  refine ⟨hall, fun values hvalues => ?_, fun styles records hrecords => ?_⟩
  · refine hall .json (fun w => (values w).render) fun w => ?_
    obtain ⟨l, hsays, hleaf⟩ := Spelling.says_json hn w
    refine ⟨l, hsays, (Document.ofJson_render (values w)).trans ?_⟩
    rw [hvalues, hleaf]
  · refine hall .yaml (fun w => (records w).text) fun w => ?_
    obtain ⟨hallows, hrecord⟩ := hrecords w
    exact ⟨_, Spelling.says_name hn hallows,
      (Yaml.ofYaml_text (records w)).trans (congrArg some hrecord)⟩

/-- A timeout of so many seconds, alone in JSON. -/
def onlyTimeout (n : Nat) (w : Spelling) : Json := .record [("timeout", w.json n)]

/-- A style that the spelling may have. -/
def Spelling.style : Spelling → Yaml.Style
  | .number => .plain
  | .digits | .unit => .double

/-- A floor of so many seconds in YAML, with a number of attempts in front of it. -/
def floorBehindRetry {n : Nat} (hn : n < 2 ^ 64) (w : Spelling) : Yaml.Entries :=
  .cons ⟨"retry".toList, by decide⟩
    (.record (.last ⟨"max_attempts".toList, by decide⟩ (.scalar .plain ⟨['7'], by decide⟩)))
    (.last ⟨"backoff".toList, by decide⟩
      (.record (.last ⟨"floor".toList, by decide⟩ (.scalar w.style (w.name hn)))))

/-- The place of such a floor. -/
theorem isPlace_floorBehindRetry : DurationField.floor.IsPlace fun d =>
    .record [(some "retry", .record [(some "max_attempts", .leaf ⟨.natural 7, some "7", false⟩)]),
      (some "backoff", .record [(some "floor", d)])] :=
  .floor (.named rfl [] []) (.named rfl
    [(some "retry", .record [(some "max_attempts", .leaf ⟨.natural 7, some "7", false⟩)])] [])

theorem spellings_meet_briefly :
    DurationField.timeout.Agree 90 (fun w => Settings.ofJson (onlyTimeout 90 w).render) ∧
    DurationField.floor.Agree 20 fun w =>
      Settings.ofYaml (floorBehindRetry (by decide : 20 < 2 ^ 64) w).text := by
  have hjson := (spellings_meet .timeout 90 (by decide) (fun d => .record [(some "timeout", d)])
    (.timeout (.named rfl [] []))).2.1 (onlyTimeout 90) fun _ => rfl
  have hbits : 20 < 2 ^ 64 := by decide
  have hyaml := (spellings_meet .floor 20 hbits _ isPlace_floorBehindRetry).2.2
    Spelling.style (floorBehindRetry hbits) (by
      rintro (_ | _ | _)
      · exact ⟨rfl, rfl⟩
      · exact ⟨nofun, rfl⟩
      · exact ⟨trivial, rfl⟩)
  exact ⟨hjson.agree_iff.mpr (.inl (by decide)), hyaml.agree_iff.mpr (.inl (by decide))⟩

/-- The longest time in seconds is taken as a number and refused as a text. -/
theorem spellings_differ : ¬ DurationField.timeout.Agree (2 ^ 64 - 1) fun w =>
    Settings.ofJson (onlyTimeout (2 ^ 64 - 1) w).render := by
  have hnumber : (Settings.ofJson (onlyTimeout (2 ^ 64 - 1) .number).render).toOption
      = some { timeout := .ofSeconds (2 ^ 64 - 1) } := by decide +kernel
  have hdigits : (Settings.ofJson (onlyTimeout (2 ^ 64 - 1) .digits).render).toOption = none := by
    decide +kernel
  rintro (hall | ⟨s, hall, -⟩)
  · obtain ⟨fault, hfault⟩ := hall .number
    cases hnumber.symm.trans (congrArg Except.toOption hfault)
  · cases hdigits.symm.trans (congrArg Except.toOption (hall .digits))

end Switchboard
