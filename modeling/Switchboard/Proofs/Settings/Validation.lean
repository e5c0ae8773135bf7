import Switchboard.Settings.Reader
/-!
# What accepted settings keep

Settings are checked once, when they are read, and every later part relies on the check: calls end
because there is an end to attempts or to time, and delays grow from a floor that is not zero. This
file says what the check is, with the values that stand in for what is left out, and that settings
keep what was checked, wherever they come from and however many filters are merged into them.

* `Draft.IsCoherent` — what is written goes together; `exists_ofDraft_iff` — the check is just that.
* `Settings.Obtained` — the ways to come by settings.
* `Settings.IsValid` — what is kept; `Obtained.isValid` by induction on the way.
* `validated` — both, and what filters leave alone.
-/

namespace Switchboard

/-- What is written goes together, with 1 s of time, and delays from 10 ms to 60 s where nothing is
written. -/
structure Draft.IsCoherent (d : Draft) : Prop where
  oneMode : ¬ (d.retry.maxAttempts.isSome = true ∧ d.retry.forever = true)
  timeout_ne : d.timeout.getD (.ofSeconds 1) ≠ .zero
  floor_ne : d.backoff.floor.getD (.ofMillis 10) ≠ .zero
  floor_le_cap : d.backoff.floor.getD (.ofMillis 10) ≤ d.backoff.cap.getD (.ofSeconds 60)

theorem Duration.isZero_eq_false_iff {d : Duration} : d.isZero = false ↔ d ≠ .zero := by
  obtain ⟨nanos⟩ := d
  simp [isZero, zero]

theorem Duration.zero_lt_iff {d : Duration} : .zero < d ↔ d ≠ .zero := by
  rw [← isZero_eq_false_iff, isZero, beq_eq_false_iff_ne]
  exact Nat.pos_iff_ne_zero

namespace Settings

/-! ## The check -/

theorem exists_modeOf_iff {r : DraftRetry} :
    (∃ mode, modeOf r = .ok mode) ↔ ¬ (r.maxAttempts.isSome = true ∧ r.forever = true) := by
  obtain ⟨max, forever⟩ := r
  cases max <;> cases forever <;> simp [modeOf]

/-- The settings that are written with a mode, and the standard ones for what is left out. -/
def taken (d : Draft) (mode : RetryMode) : Settings where
  grace := d.invalidateOnError
  mode := mode
  timeout := d.timeout.getD standardTimeout
  backoff := .start (d.backoff.floor.getD Backoff.defaultFloor)
    (d.backoff.cap.getD Backoff.defaultCap)
  tags := d.discovery.tags
  passingOnly := d.discovery.passingOnly

/-- The checks in their order. -/
theorem ofDraft_eq (d : Draft) : ofDraft d
    = match modeOf d.retry with
      | .error f => .error f
      | .ok mode =>
        if (d.timeout.getD standardTimeout).isZero then .error .noTimeout
        else if (d.backoff.floor.getD Backoff.defaultFloor).isZero then .error .noFloor
        else if d.backoff.cap.getD Backoff.defaultCap < d.backoff.floor.getD Backoff.defaultFloor then
          .error (.capBelowFloor (d.backoff.cap.getD Backoff.defaultCap)
            (d.backoff.floor.getD Backoff.defaultFloor))
        else .ok (taken d mode) := by
  unfold ofDraft
  cases modeOf d.retry with
  | error f => rfl
  | ok mode =>
    show (if _ then _ else _) = if _ then _ else _
    by_cases htimeout : (d.timeout.getD standardTimeout).isZero = true
    · rw [if_pos htimeout, if_pos htimeout]
      rfl
    · rw [if_neg htimeout, if_neg htimeout]
      by_cases hfloor : (d.backoff.floor.getD Backoff.defaultFloor).isZero = true
      · rw [if_pos hfloor, if_pos hfloor]
        rfl
      · rw [if_neg hfloor, if_neg hfloor]
        split <;> rfl

/-- What is written is accepted if it goes together, with the mode that is written. -/
theorem ofDraft_of_isCoherent {d : Draft} (h : d.IsCoherent) :
    ∃ mode, modeOf d.retry = .ok mode ∧ ofDraft d = .ok (taken d mode) := by
  obtain ⟨mode, hmode⟩ := exists_modeOf_iff.mpr h.oneMode
  have htimeout : ¬ (d.timeout.getD standardTimeout).isZero = true :=
    Bool.eq_false_iff.mp (Duration.isZero_eq_false_iff.mpr h.timeout_ne)
  have hfloor : ¬ (d.backoff.floor.getD Backoff.defaultFloor).isZero = true :=
    Bool.eq_false_iff.mp (Duration.isZero_eq_false_iff.mpr h.floor_ne)
  refine ⟨mode, hmode, ?_⟩
  rw [ofDraft_eq, hmode]
  dsimp only
  rw [if_neg htimeout, if_neg hfloor]
  exact if_neg (Nat.not_lt_of_le h.floor_le_cap)

/-- Nothing else is accepted. -/
theorem isCoherent_of_ofDraft {d : Draft} {s : Settings} (h : ofDraft d = .ok s) :
    d.IsCoherent := by
  rw [ofDraft_eq] at h
  cases hmode : modeOf d.retry with
  | error f =>
    rw [hmode] at h
    cases h
  | ok mode =>
    rw [hmode] at h
    dsimp only at h
    split at h
    · cases h
    · rename_i htimeout
      split at h
      · cases h
      · rename_i hfloor
        split at h
        · cases h
        · rename_i hcap
          exact {
            oneMode := exists_modeOf_iff.mp ⟨mode, hmode⟩
            timeout_ne := Duration.isZero_eq_false_iff.mp (Bool.eq_false_iff.mpr htimeout)
            floor_ne := Duration.isZero_eq_false_iff.mp (Bool.eq_false_iff.mpr hfloor)
            floor_le_cap := Nat.le_of_not_lt hcap }

/-- **The check accepts exactly what goes together.** -/
theorem exists_ofDraft_iff {d : Draft} : (∃ s, ofDraft d = .ok s) ↔ d.IsCoherent := by
  constructor
  · rintro ⟨s, h⟩
    exact isCoherent_of_ofDraft h
  · intro h
    obtain ⟨mode, -, hread⟩ := ofDraft_of_isCoherent h
    exact ⟨_, hread⟩

/-! ## What is kept -/

/-- What settings keep from the check. -/
structure IsValid (s : Settings) : Prop where
  timeout_pos : .zero < s.timeout
  floor_pos : .zero < s.backoff.floor
  floor_le_cap : s.backoff.floor ≤ s.backoff.cap
  current_eq : s.backoff.current = s.backoff.floor
  attempts_pos : ∀ max, s.mode = .maxAttempts max → 1 ≤ max
  /-- A call goes on after its n-th attempt if there is no end to attempts, or it is not the last. -/
  goesOn_iff : ∀ n f, (s.policy n f).1 = true ↔
    s.mode = .forever ∨ ∃ max, s.mode = .maxAttempts max ∧ n < max

theorem goesOn_iff (s : Settings) (n : Nat) (f : Fault) : (s.policy n f).1 = true ↔
    s.mode = .forever ∨ ∃ max, s.mode = .maxAttempts max ∧ n < max := by
  unfold policy
  cases s.mode with
  | maxAttempts max => simp [Policy.maxAttempts]
  | forever => simp [Policy.always]

/-- A mode that is written has an attempt. -/
theorem pos_of_modeOf {r : DraftRetry} {max : Nat} (h : modeOf r = .ok (.maxAttempts max)) :
    1 ≤ max := by
  obtain ⟨attempts, forever⟩ := r
  cases attempts with
  | none =>
    cases forever with
    | false =>
      obtain rfl := RetryMode.maxAttempts.inj (Except.ok.inj h)
      decide
    | true => cases Except.ok.inj h
  | some attempts =>
    cases forever with
    | false =>
      obtain rfl := RetryMode.maxAttempts.inj (Except.ok.inj h)
      exact attempts.count_pos
    | true => cases h

theorem isValid_of_ofDraft {d : Draft} {s : Settings} (h : ofDraft d = .ok s) : s.IsValid := by
  have hcoherent := isCoherent_of_ofDraft h
  obtain ⟨mode, hmode, hread⟩ := ofDraft_of_isCoherent hcoherent
  obtain rfl : taken d mode = s := Except.ok.inj (hread.symm.trans h)
  exact {
    timeout_pos := Duration.zero_lt_iff.mpr hcoherent.timeout_ne
    floor_pos := Duration.zero_lt_iff.mpr hcoherent.floor_ne
    floor_le_cap := Nat.le_max_right ..
    current_eq := rfl
    attempts_pos := fun max hmax => pos_of_modeOf (hmode.trans (congrArg Except.ok hmax))
    goesOn_iff := goesOn_iff _ }

theorem isValid_standard : IsValid .standard where
  timeout_pos := by decide
  floor_pos := by decide
  floor_le_cap := by decide
  current_eq := rfl
  attempts_pos max h := by
    obtain rfl := RetryMode.maxAttempts.inj h
    decide
  goesOn_iff := goesOn_iff _

/-! ## Where settings come from -/

/-- The ways to come by settings: nothing is written, a text or a file is accepted, or filters are
merged into settings that were there. -/
inductive Obtained : Settings → Prop
  | standard : Obtained .standard
  | json {text : String} {s : Settings} (h : ofJson text = .ok s) : Obtained s
  | yaml {text : String} {s : Settings} (h : ofYaml text = .ok s) : Obtained s
  | text {text : String} {s : Settings} (h : ofText text = .ok s) : Obtained s
  | file {path : String} {bytes : Except FileFault ByteArray} {s : Settings}
      (h : ofFile path bytes = .ok s) : Obtained s
  | merge {s : Settings} (h : Obtained s) (tags : List String) (passingOnly : Bool) :
      Obtained (s.merge tags passingOnly)

theorem isValid_of_ofDocument {fault : ReadFault} {d : Option Document} {s : Settings}
    (h : ofDocument fault d = .ok s) : s.IsValid := by
  unfold ofDocument at h
  split at h
  · cases h
  · split at h
    · rename_i hread
      obtain rfl := Except.ok.inj h
      exact isValid_of_ofDraft hread
    · cases h

theorem isValid_of_ofYaml {text : String} {s : Settings} (h : ofYaml text = .ok s) :
    s.IsValid := by
  unfold ofYaml at h
  split at h
  · obtain rfl := Except.ok.inj h
    exact isValid_standard
  · exact isValid_of_ofDocument h

theorem isValid_of_ofText {text : String} {s : Settings} (h : ofText text = .ok s) :
    s.IsValid := by
  unfold ofText at h
  split at h
  · rename_i hjson
    obtain rfl := Except.ok.inj h
    exact isValid_of_ofDocument hjson
  · exact isValid_of_ofYaml h

/-- Neither the file nor filters bear on what was checked. -/
theorem IsValid.congr {s s' : Settings} (h : s.IsValid) (htimeout : s'.timeout = s.timeout)
    (hbackoff : s'.backoff = s.backoff) (hmode : s'.mode = s.mode) : s'.IsValid where
  timeout_pos := htimeout ▸ h.timeout_pos
  floor_pos := hbackoff ▸ h.floor_pos
  floor_le_cap := hbackoff ▸ h.floor_le_cap
  current_eq := hbackoff ▸ h.current_eq
  attempts_pos := hmode ▸ h.attempts_pos
  goesOn_iff := Settings.goesOn_iff s'

theorem isValid_of_ofFile {path : String} {bytes : Except FileFault ByteArray} {s : Settings}
    (h : ofFile path bytes = .ok s) : s.IsValid := by
  unfold ofFile at h
  split at h
  · cases h
  · split at h
    · cases h
    · rename_i text _
      cases hread : ofText text with
      | error fault =>
        rw [hread] at h
        cases h
      | ok read =>
        rw [hread] at h
        obtain rfl := Except.ok.inj h
        exact (isValid_of_ofText hread).congr rfl rfl rfl

/-- Settings keep what was checked, by induction on the filters that are merged into them. -/
theorem Obtained.isValid {s : Settings} (h : s.Obtained) : s.IsValid := by
  induction h with
  | standard => exact isValid_standard
  | json h => exact isValid_of_ofDocument h
  | yaml h => exact isValid_of_ofYaml h
  | text h => exact isValid_of_ofText h
  | file h => exact isValid_of_ofFile h
  | merge _ tags passingOnly ih => exact ih.congr rfl rfl rfl

/-- **Settings are checked once and for all.** What is written is accepted exactly if it goes
together; whatever settings there are keep that; and filters change nothing but filters. -/
theorem validated :
    (∀ d : Draft, (∃ s, ofDraft d = .ok s) ↔ d.IsCoherent) ∧
    (∀ s : Settings, s.Obtained → s.IsValid) ∧
    ∀ (s : Settings) (tags : List String) (passingOnly : Bool), ∃ tags' passingOnly',
      s.merge tags passingOnly = { s with tags := tags', passingOnly := passingOnly' } :=
  ⟨fun _ => exists_ofDraft_iff, fun _ h => h.isValid, fun _ _ _ => ⟨_, _, rfl⟩⟩

/-- Settings that leave out the timeout, and give delays above the standard cap. -/
def patient : Settings where
  mode := .forever
  backoff := .start (.ofSeconds 120) (.ofSeconds 3600)

/-- The text of these settings. -/
def patientText : String :=
  "\x7b\"retry\": \x7b\"forever\": true\x7d, \"backoff\": \x7b\"floor\": \"2m\", \"cap\": 3600\x7d\x7d"

theorem validated_patient :
    (patient.merge ["eu"] true).Obtained ∧ (patient.merge ["eu"] true).IsValid := by
  have hsome : (ofText patientText).toOption = some patient := by decide +kernel
  have hread : ofText patientText = .ok patient := by
    cases hresult : ofText patientText with
    | error fault =>
      rw [hresult] at hsome
      cases hsome
    | ok s =>
      rw [hresult] at hsome
      rw [Option.some_inj.mp hsome]
  have hobtained : (patient.merge ["eu"] true).Obtained := .merge (.text hread) _ _
  exact ⟨hobtained, validated.2.1 _ hobtained⟩

end Settings

end Switchboard
