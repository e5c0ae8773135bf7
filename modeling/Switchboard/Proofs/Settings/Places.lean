import Mathlib.Data.List.Nodup
import Switchboard.Settings.Draft
/-!
# One value among the settings

What is written for one field of the settings, with everything else around it left as it is. Whether the
rest can be read does not depend on that value, and neither does what is read of it: the whole is the
rest with the value put into it.

* `Slot` — a place for one value in a record, by its name or by its number.
* `Slot.fields_eq` — the other fields are those of the rest.
* `Hinges` — what is read of the whole hinges on the value alone.
* `DurationField`, `DurationField.IsPlace` — the fields that hold a duration, and where they stand.
* `DurationField.IsPlace.hinges` — what is written for them decides about all.
-/

namespace Switchboard

open Document (Fields)

/-! ## Fields of a record -/

/-- A place for one value in a record with fields of these names: by its name, with other entries around
it, or by its number, where the record is written as a list. -/
inductive Slot (names : List String) (i : Nat) : (Document → Document) → Prop
  | named {name : String} (hname : names[i]? = some name)
      (before after : List (Option String × Document)) :
      Slot names i fun d => .record (before ++ (some name, d) :: after)
  | listed (before after : List Document) (hlength : before.length = i) :
      Slot names i fun d => .list (before ++ d :: after)

/-- The fields with another value at a position. -/
def Document.Fields.put (f : Fields) (i : Nat) (d : Document) : Fields :=
  { f with values := f.values.set i (some d) }

section Put

variable {α : Type} {f : Fields} {i j : Nat}

/-- The field at the position is the value, and the others are as they were. -/
theorem Document.Fields.defaulted_put (h : i < f.values.length) (d : Document)
    (read : Document → Option α) (fallback : α) : (f.put i d).defaulted j read fallback
      = if i = j then read d else f.defaulted j read fallback := by
  by_cases hij : i = j
  · subst hij
    rw [if_pos rfl, defaulted, at?, put, List.getElem?_set_self h]
    rfl
  · rw [if_neg hij, defaulted, at?, put, List.getElem?_set_ne hij]
    rfl

end Put

/-- An entry of another name does not matter. -/
theorem lookup_around_of_ne {name other : Option String} (h : other ≠ name)
    (before after : List (Option String × Document)) (d : Document) :
    (before ++ (name, d) :: after).lookup other = (before ++ after).lookup other := by
  rw [List.lookup_append, List.lookup_append, List.lookup_cons, beq_eq_false_iff_ne.mpr h]

/-- An entry is found if it is the only one of its name. -/
theorem lookup_around_self {name : Option String} {before after : List (Option String × Document)}
    {d : Document} (h : (before ++ (name, d) :: after).countP (fun e => e.1 == name) ≤ 1) :
    (before ++ (name, d) :: after).lookup name = some d := by
  -- it is the one, so there is none in front of it
  have hcount : before.countP (fun e => e.1 == name) = 0 := by
    have hself : ((name, d) :: after).countP (fun e => e.1 == name)
        = after.countP (fun e => e.1 == name) + 1 := List.countP_cons_of_pos (beq_self_eq_true name)
    rw [List.countP_append, hself] at h
    omega
  have hbefore : before.lookup name = none := List.lookup_eq_none_iff.mpr fun e he =>
    bne_iff_ne.mpr fun heq => List.countP_eq_zero.mp hcount e he (beq_iff_eq.mpr heq.symm)
  rw [List.lookup_append, hbefore, List.lookup_cons, beq_self_eq_true]
  rfl

/-- Is each entry named, and its name one of these? -/
def allKnown (names : List String) (entries : List (Option String × Document)) : Bool :=
  entries.all fun e => match e.1 with
    | some name => false || names.contains name
    | none => false

/-- Is each of the names given at most once? -/
def allOnce (names : List String) (entries : List (Option String × Document)) : Bool :=
  names.all fun name => entries.countP (fun e => e.1 == some name) ≤ 1

theorem fields_record (names : List String) (entries : List (Option String × Document)) :
    (Document.record entries).fields names false = if allKnown names entries && allOnce names entries
      then some ⟨false, names.map fun name => entries.lookup (some name)⟩ else none := rfl

theorem allKnown_around (names : List String) (name : String)
    (before after : List (Option String × Document)) (d : Document) :
    allKnown names (before ++ (some name, d) :: after)
      = allKnown names (before ++ (some name, default) :: after) := by
  simp only [allKnown, List.all_append, List.all_cons]

theorem allOnce_around (names : List String) (name : String)
    (before after : List (Option String × Document)) (d : Document) :
    allOnce names (before ++ (some name, d) :: after)
      = allOnce names (before ++ (some name, default) :: after) := by
  simp only [allOnce, List.countP_append, List.countP_cons]

/-- The entry at a place is the value of its field, and the others are those of the rest. -/
theorem map_lookup_around {names : List String} {name : String} {i : Nat} (hname : names[i]? = some name)
    (hnodup : names.Nodup) {before after : List (Option String × Document)} {d : Document}
    (honce : allOnce names (before ++ (some name, d) :: after) = true) :
    names.map (fun n => (before ++ (some name, d) :: after).lookup (some n))
      = (names.map fun n => (before ++ after).lookup (some n)).set i (some d) := by
  obtain ⟨hi, rfl⟩ := List.getElem?_eq_some_iff.mp hname
  refine List.ext_getElem (by simp) fun j hj _ => ?_
  rw [List.length_map] at hj
  rw [List.getElem_map, List.getElem_set, List.getElem_map]
  split
  · rename_i hij
    subst hij
    refine lookup_around_self ?_
    exact of_decide_eq_true (List.all_eq_true.mp honce _ (List.getElem_mem hi))
  · rename_i hij
    exact lookup_around_of_ne (fun heq => hij
      ((List.Nodup.getElem_inj_iff hnodup).mp (Option.some_inj.mp heq)).symm) before after d

/-- Whatever stands at a place, the other fields are those of the rest, and all can be read or none. -/
theorem Slot.fields_eq {names : List String} {i : Nat} {around : Document → Document}
    (h : Slot names i around) (hnodup : names.Nodup) (hi : i < names.length) :
    ∃ rest : Option Fields, (∀ f, rest = some f → i < f.values.length) ∧
      ∀ d, (around d).fields names false = rest.map (·.put i d) := by
  cases h with
  | @named name hname before after =>
    -- which names there are, and how often, does not depend on the value
    have hknown (d : Document) := allKnown_around names name before after d
    have honce (d : Document) := allOnce_around names name before after d
    refine ⟨if allKnown names (before ++ (some name, default) :: after) &&
      allOnce names (before ++ (some name, default) :: after) then
        some ⟨false, names.map fun n => (before ++ after).lookup (some n)⟩ else none, ?_, fun d => ?_⟩
    · intro f hf
      split at hf
      · obtain rfl := Option.some_inj.mp hf
        rwa [List.length_map]
      · cases hf
    · rw [fields_record, hknown, honce]
      split
      · rename_i hboth
        rw [← honce d, Bool.and_eq_true] at hboth
        exact congrArg (fun vs => some (Fields.mk false vs))
          (map_lookup_around hname hnodup hboth.2)
      · rfl
  | listed before after hlength =>
    refine ⟨if (before ++ default :: after).length ≤ names.length then
        some ⟨true, before.map some ++ (none :: after.map some)
          ++ List.replicate (names.length - (before ++ default :: after).length) none⟩ else none,
      ?_, fun d => ?_⟩
    · intro f hf
      split at hf
      · obtain rfl := Option.some_inj.mp hf
        simp only [List.length_append, List.length_cons, List.length_map]
        omega
      · cases hf
    · -- a list is read by the number of its items, and that does not depend on the value either
      have hsame : (before ++ d :: after).length = (before ++ default :: after).length := by
        simp only [List.length_append, List.length_cons]
      rw [Document.fields, hsame]
      split
      · refine congrArg (fun vs => some (Fields.mk true vs)) ?_
        rw [← hlength]
        simp
      · rfl

/-! ## Hinges -/

/-- What is read of a whole hinges on what is read of the value at a place: all else is something, or
nothing at all, and the value is put into it. -/
def Hinges {α β : Type} (read : Document → Option β) (whole : Document → Option α)
    (around : Document → Document) (put : α → β → α) : Prop :=
  ∃ rest : Option α, ∀ d, whole (around d) = rest.bind fun a => (read d).map (put a)

/-- Places within places. -/
theorem Hinges.comp {α β γ : Type} {read : Document → Option γ} {mid : Document → Option β}
    {whole : Document → Option α} {inner outer : Document → Document} {putIn : β → γ → β}
    {putOut : α → β → α} {put : α → γ → α} (hinner : Hinges read mid inner putIn)
    (houter : Hinges mid whole outer putOut)
    (hput : ∀ a b c, put (putOut a b) c = putOut a (putIn b c)) :
    Hinges read whole (fun d => outer (inner d)) put := by
  obtain ⟨restIn, hinner⟩ := hinner
  obtain ⟨restOut, houter⟩ := houter
  refine ⟨restOut.bind fun a => restIn.map (putOut a), fun d => ?_⟩
  rw [houter, hinner]
  cases restOut with
  | none => rfl
  | some a =>
    cases restIn with
    | none => rfl
    | some b =>
      cases read d with
      | none => rfl
      | some c => exact congrArg some (hput a b c).symm

/-! ## The fields of settings -/

/-- The fields of settings. -/
def Draft.fieldNames : List String :=
  ["invalidate_on_error", "retry", "timeout", "backoff", "discovery"]

/-- The fields of the delays between attempts. -/
def Draft.backoffNames : List String := ["floor", "cap"]

/-- What is read of the fields of a record hinges on the one at a place, if it does so for fields. -/
theorem Slot.hinges {α β : Type} {names : List String} {i : Nat} {around : Document → Document}
    {read : Document → Option β} {put : α → β → α} (ofFields : Fields → Option α)
    (h : Slot names i around) (hnodup : names.Nodup) (hi : i < names.length)
    (hput : ∀ f : Fields, i < f.values.length →
      ∃ rest : Option α, ∀ d, ofFields (f.put i d) = rest.bind fun a => (read d).map (put a)) :
    Hinges read (fun d => (d.fields names false).bind ofFields) around put := by
  obtain ⟨rest, hlength, hfields⟩ := h.fields_eq hnodup hi
  cases rest with
  | none =>
    refine ⟨none, fun d => ?_⟩
    dsimp only
    rw [hfields]
    rfl
  | some f =>
    obtain ⟨rest, hrest⟩ := hput f (hlength f rfl)
    refine ⟨rest, fun d => ?_⟩
    dsimp only
    rw [hfields]
    exact hrest d

section Instances

variable {around : Document → Document}

open Draft

theorem Slot.hinges_floor (h : Slot backoffNames 0 around) :
    Hinges asOptionalDuration asBackoff around fun b d => { b with floor := d } := by
  refine h.hinges _ (by decide) (by decide) fun f hf => ?_
  refine ⟨(f.defaulted 1 asOptionalDuration none).map (⟨none, ·⟩), fun d => ?_⟩
  simp +decide only [Fields.defaulted_put hf, if_true, if_false]
  cases asOptionalDuration d <;> cases f.defaulted 1 asOptionalDuration none <;> rfl

theorem Slot.hinges_cap (h : Slot backoffNames 1 around) :
    Hinges asOptionalDuration asBackoff around fun b d => { b with cap := d } := by
  refine h.hinges _ (by decide) (by decide) fun f hf => ?_
  refine ⟨(f.defaulted 0 asOptionalDuration none).map (⟨·, none⟩), fun d => ?_⟩
  simp +decide only [Fields.defaulted_put hf, if_true, if_false]
  cases asOptionalDuration d <;> cases f.defaulted 0 asOptionalDuration none <;> rfl

/-- The settings that are made of what is read of their fields, if all of them can be read. -/
def Draft.gather (grace : Option (Option Duration)) (retry : Option DraftRetry)
    (timeout : Option (Option Duration)) (backoff : Option DraftBackoff)
    (discovery : Option DraftDiscovery) : Option Draft := do
  return {
    invalidateOnError := ← grace
    retry := ← retry
    timeout := ← timeout
    backoff := ← backoff
    discovery := ← discovery }

/-- The settings that are made of fields. -/
def Draft.ofFields (f : Fields) : Option Draft :=
  gather (f.defaulted 0 asOptionalDuration none) (f.defaulted 1 asRetry {})
    (f.defaulted 2 asOptionalDuration none) (f.defaulted 3 asBackoff {})
    (f.defaulted 4 asDiscovery {})

section Gather

variable {grace : Option (Option Duration)} {retry : Option DraftRetry}
  {timeout : Option (Option Duration)} {backoff : Option DraftBackoff}
  {discovery : Option DraftDiscovery}

theorem Draft.gather_grace : gather grace retry timeout backoff discovery
    = (gather (some none) retry timeout backoff discovery).bind fun s =>
      grace.map fun d => { s with invalidateOnError := d } := by
  cases grace <;> cases retry <;> cases timeout <;> cases backoff <;> cases discovery <;> rfl

theorem Draft.gather_timeout : gather grace retry timeout backoff discovery
    = (gather grace retry (some none) backoff discovery).bind fun s =>
      timeout.map fun d => { s with timeout := d } := by
  cases grace <;> cases retry <;> cases timeout <;> cases backoff <;> cases discovery <;> rfl

theorem Draft.gather_backoff : gather grace retry timeout backoff discovery
    = (gather grace retry timeout (some {}) discovery).bind fun s =>
      backoff.map fun b => { s with backoff := b } := by
  cases grace <;> cases retry <;> cases timeout <;> cases backoff <;> cases discovery <;> rfl

end Gather

theorem Slot.hinges_grace (h : Slot fieldNames 0 around) :
    Hinges asOptionalDuration ofDocument around fun s d => { s with invalidateOnError := d } := by
  refine h.hinges ofFields (by decide) (by decide) fun f hf => ?_
  simp +decide only [ofFields, Fields.defaulted_put hf, if_true, if_false]
  exact ⟨_, fun d => gather_grace⟩

theorem Slot.hinges_timeout (h : Slot fieldNames 2 around) :
    Hinges asOptionalDuration ofDocument around fun s d => { s with timeout := d } := by
  refine h.hinges ofFields (by decide) (by decide) fun f hf => ?_
  simp +decide only [ofFields, Fields.defaulted_put hf, if_true, if_false]
  exact ⟨_, fun d => gather_timeout⟩

theorem Slot.hinges_backoff (h : Slot fieldNames 3 around) :
    Hinges asBackoff ofDocument around fun s b => { s with backoff := b } := by
  refine h.hinges ofFields (by decide) (by decide) fun f hf => ?_
  simp +decide only [ofFields, Fields.defaulted_put hf, if_true, if_false]
  exact ⟨_, fun d => gather_backoff⟩

end Instances

/-! ## Fields that hold a duration -/

/-- The settings that are durations. -/
inductive DurationField
  | grace
  | timeout
  | floor
  | cap
  deriving DecidableEq, Repr

namespace DurationField

/-- The settings with a duration written for the field. -/
def put : DurationField → Draft → Option Duration → Draft
  | .grace, s, d => { s with invalidateOnError := d }
  | .timeout, s, d => { s with timeout := d }
  | .floor, s, d => { s with backoff := { s.backoff with floor := d } }
  | .cap, s, d => { s with backoff := { s.backoff with cap := d } }

/-- The place of the field in a document, with all that stands around it. -/
inductive IsPlace : DurationField → (Document → Document) → Prop
  | grace {around : Document → Document} (h : Slot Draft.fieldNames 0 around) : IsPlace .grace around
  | timeout {around : Document → Document} (h : Slot Draft.fieldNames 2 around) :
      IsPlace .timeout around
  | floor {inner outer : Document → Document} (hinner : Slot Draft.backoffNames 0 inner)
      (houter : Slot Draft.fieldNames 3 outer) : IsPlace .floor fun d => outer (inner d)
  | cap {inner outer : Document → Document} (hinner : Slot Draft.backoffNames 1 inner)
      (houter : Slot Draft.fieldNames 3 outer) : IsPlace .cap fun d => outer (inner d)

/-- **What is read of settings hinges on the duration at a place.** -/
theorem IsPlace.hinges {f : DurationField} {around : Document → Document} (h : f.IsPlace around) :
    Hinges Draft.asOptionalDuration Draft.ofDocument around f.put := by
  cases h with
  | grace h => exact h.hinges_grace
  | timeout h => exact h.hinges_timeout
  | floor hinner houter => exact hinner.hinges_floor.comp houter.hinges_backoff fun _ _ _ => rfl
  | cap hinner houter => exact hinner.hinges_cap.comp houter.hinges_backoff fun _ _ _ => rfl

/-- There is a record or a list around a place. -/
theorem IsPlace.ne_leaf {f : DurationField} {around : Document → Document} (h : f.IsPlace around)
    (d : Document) (l : Leaf) : around d ≠ .leaf l := by
  have hslot : ∀ {names : List String} {i : Nat} {around : Document → Document},
      Slot names i around → ∀ d, around d ≠ .leaf l := by
    intro names i around h d
    cases h <;> nofun
  cases h with
  | grace h | timeout h => exact hslot h d
  | floor _ houter | cap _ houter => exact hslot houter _

end DurationField

end Switchboard
