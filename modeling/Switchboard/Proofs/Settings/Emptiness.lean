import Switchboard.Proofs.Document.Reading
import Switchboard.Proofs.Yaml.Quiet
import Switchboard.Settings.Reader
/-!
# Settings that are not written

What becomes of a text in which nothing is written. A text of blanks gives the standard settings, since
it is never looked into. A comment is no blank: a text of blank lines and comments is looked into, no
document is found in it, and it is refused.

* `eq_leaf_of_ofJson`, `ofJson_of_isQuiet` — no settings can be found in a quiet text in JSON, either.
* `ofText_of_isBlankText`, `ofText_of_isBare_of_not_isBlankText` — with nothing but blanks, and with
  something else.
* `ofText_of_isBare` — the law; `ofText_comment` — a comment at work.
-/

namespace Switchboard

open Yaml (IsBare IsQuiet)

/-! ## No settings in quiet texts -/

theorem Document.Json.bracket_of_writes {cs : List Char} {d : Document}
    (h : Writes cs (.value d)) : (∃ l, d = .leaf l) ∨ ∃ c ∈ ['[', '\x7b'], ∃ rest, cs = c :: rest := by
  cases h with
  | null | truth | untruth | number => exact .inl ⟨_, rfl⟩
  | @text _ s h => cases s <;> exact .inl ⟨_, rfl⟩
  | emptyList | list => exact .inr ⟨'[', by decide, _, rfl⟩
  | emptyRecord | record => exact .inr ⟨'\x7b', by decide, _, rfl⟩

/-- The spaces in front of a value leave a quiet text quiet. -/
theorem Yaml.IsQuiet.of_isSpaces {P : List Char → Prop} (hP : IsQuiet P) {ws cs : List Char}
    (hws : Document.Json.IsSpaces ws) (h : P (ws ++ cs)) : P cs := by
  induction ws with
  | nil => exact h
  | cons c ws ih =>
    refine ih (fun d hd => hws d (List.mem_cons_of_mem _ hd)) (hP.rest c _ h ?_)
    rintro rfl
    exact absurd (hws '#' List.mem_cons_self) (by decide)

theorem Document.Json.eq_leaf_of_writes {P : List Char → Prop} (hP : IsQuiet P) {cs : List Char}
    (h : P cs) {d : Document} (hwrites : Writes cs (.spaced d)) : ∃ l, d = .leaf l := by
  cases hwrites with
  | spaced hfront hvalue _ =>
    refine (bracket_of_writes hvalue).resolve_right ?_
    rintro ⟨c, hc, rest, rfl⟩
    have hbrackets : ['[', '\x7b'].all Yaml.signs.contains = true := by decide
    exact hP.begins c _ (hP.of_isSpaces hfront h)
      (List.contains_iff_mem.mp (List.all_eq_true.mp hbrackets c hc))

/-- In JSON, too, all that can be read of a quiet text is a scalar. -/
theorem Document.eq_leaf_of_ofJson {P : List Char → Prop} (hP : IsQuiet P) {s : String}
    (h : P s.toList) {d : Document} (hread : ofJson s = some d) : ∃ l, d = .leaf l :=
  Json.eq_leaf_of_writes hP h (ofJson_eq_some_iff.mp hread)

namespace Settings

theorem ofDocument_of_leaf {d : Option Document} (h : ∀ e, d = some e → ∃ l, e = .leaf l)
    (fault : ReadFault) : ofDocument fault d = .error fault := by
  cases d with
  | none => rfl
  | some e =>
    obtain ⟨l, rfl⟩ := h e rfl
    rfl

/-! ## The law -/

theorem ofJson_of_isQuiet {P : List Char → Prop} (hP : IsQuiet P) {s : String} (h : P s.toList) :
    ofJson s = .error .json :=
  ofDocument_of_leaf (fun _ hread => Document.eq_leaf_of_ofJson hP h hread) .json

theorem ofText_of_ofJson {s : String} {fault : ReadFault} (h : ofJson s = .error fault) :
    ofText s = ofYaml s := by
  rw [ofText, h]

/-- In a text of blanks nothing is written. -/
theorem ofText_of_isBlankText {s : String} (h : Text.isBlankText s = true) :
    ofText s = .ok .standard ∧ ofYaml s = .ok .standard := by
  have hyaml : ofYaml s = .ok .standard := if_pos h
  have hjson := ofJson_of_isQuiet Yaml.isQuiet_isBlank (List.all_eq_true.mp h)
  exact ⟨(ofText_of_ofJson hjson).trans hyaml, hyaml⟩

/-- In a bare text with anything else in it no settings are found. -/
theorem ofText_of_isBare_of_not_isBlankText {s : String} (h : IsBare s.toList)
    (hblank : ¬ Text.isBlankText s = true) : ofText s = .error .yaml ∧ ofYaml s = .error .yaml := by
  -- it is looked into, and all that is found in it is a scalar
  have hbare := Yaml.isBare_iff.mp h
  have hyaml : ofYaml s = .error .yaml := (if_neg hblank).trans (ofDocument_of_leaf
    (fun _ hread => Yaml.eq_leaf_of_isQuiet Yaml.isQuiet_bareFrom
      (Yaml.bareFrom_takeWhile _ hbare) hread) .yaml)
  have hjson := ofJson_of_isQuiet Yaml.isQuiet_bareFrom hbare
  exact ⟨(ofText_of_ofJson hjson).trans hyaml, hyaml⟩

/-- A bare text is blank if there is no comment in it. -/
theorem isBlankText_iff_of_isBare {s : String} (h : IsBare s.toList) :
    Text.isBlankText s = true ↔ '#' ∉ s.toList := by
  rw [Text.isBlankText, List.all_eq_true]
  constructor
  · intro hblank hsign
    exact absurd (hblank '#' hsign) (by decide)
  · exact fun hsign => Yaml.isBlank_of_bareFrom (Yaml.isBare_iff.mp h) hsign

/-- **Nothing is written in blank lines.** A text of blanks, of any kind, gives the standard settings, and
so does a text of blank lines. With a comment in any of the lines the text is refused, although there is
still nothing written in it: only the text itself is asked whether it is blank, not the document. -/
theorem ofText_of_isBare (s : String) :
    (Text.isBlankText s = true → ofText s = .ok .standard ∧ ofYaml s = .ok .standard) ∧
    (IsBare s.toList →
      ('#' ∉ s.toList → ofText s = .ok .standard ∧ ofYaml s = .ok .standard) ∧
      ('#' ∈ s.toList → ofText s = .error .yaml ∧ ofYaml s = .error .yaml)) := by
  refine ⟨ofText_of_isBlankText, fun h => ⟨fun hsign => ?_, fun hsign => ?_⟩⟩
  · exact ofText_of_isBlankText ((isBlankText_iff_of_isBare h).mpr hsign)
  · exact ofText_of_isBare_of_not_isBlankText h fun hblank =>
      (isBlankText_iff_of_isBare h).mp hblank hsign

/-- Settings of which every line is commented out, and lines of blanks. -/
theorem ofText_of_isBare_commentedOut :
    ofText "# timeout: 5s\n\t# backoff:\n\n  #  floor: 10ms\n" = .error .yaml ∧
      ofText "\n  \n\t\n" = .ok .standard ∧ ofText "\u00a0\u2003\n" = .ok .standard :=
  ⟨(((ofText_of_isBare "# timeout: 5s\n\t# backoff:\n\n  #  floor: 10ms\n").2 (by decide)).2
      (by decide)).1,
    (((ofText_of_isBare "\n  \n\t\n").2 (by decide)).1 (by decide)).1,
    ((ofText_of_isBare "\u00a0\u2003\n").1 (by decide)).1⟩

/-- A comment is no content, and yet it is not passed over. -/
theorem ofText_comment : IsBare "# x".toList ∧ ofText "# x" ≠ .ok .standard ∧
    ofYaml "# x" ≠ .ok .standard := by
  have hbare : IsBare "# x".toList := by decide
  obtain ⟨htext, hyaml⟩ := ofText_of_isBare_of_not_isBlankText hbare (by decide)
  refine ⟨hbare, ?_, ?_⟩
  · rw [htext]
    nofun
  · rw [hyaml]
    nofun

end Settings

end Switchboard
