import Switchboard.Proofs.Catalog.Settling
/-!
# What becomes of a query that waits

A query that waits looks again when it gets to run, and what it sees is the catalog as it is then. A
failure that was set and cleared in the meantime is never seen, and of several changes only the last
one is. A query that gets to run after every change misses nothing: it is answered by the first state
that has something for it, and at that moment.

* `Queries.firstNews` — the first state along a run that has something for a query, with its moment.
* `Queries.Prompt` — a run in which a query gets to look before anything else changes.
* `Fate` — what can become of a query that waits, along any run (`fate_of_parked`).
-/

namespace Switchboard

namespace Queries

/-! ## What there is to see along a run -/

/-- What a query would see now, and when. -/
def news? (q : ServiceQuery) (last : Nat) (s : Queries) : Option (Nat × Answer) :=
  (s.catalog.look q last).map (s.now, ·)

/-- What the first state along a run that has something for a query has for it, and when. -/
def firstNews (q : ServiceQuery) (last : Nat) : Queries → List QueriesStep → Option (Nat × Answer)
  | s, [] => news? q last s
  | s, a :: rest => (news? q last s).or (firstNews q last (s.step a) rest)

/-- Was the catalog written to since a query that waits looked at it? -/
def hasNews (number : Nat) (s : Queries) : Bool :=
  (s.open? number).any fun o =>
    decide (QueryTurn.notice ∈ o.inquiry.turns s.now s.backend.revision)

/-- Would a query be left waiting beyond its time, if this much time went by? -/
def oversleeps (number ms : Nat) (s : Queries) : Bool :=
  (s.open? number).any fun o => o.inquiry.timer?.any fun moment => moment < s.now + ms

/-- In a step nothing is changed, no time passes and the query does not give up, unless the query has
looked; nor does more time pass than the query waits. -/
def IsPrompt (number : Nat) (s : Queries) : QueriesStep → Prop
  | .change _ => s.hasNews number = false
  | .wait ms => s.hasNews number = false ∧ s.oversleeps number ms = false
  | .turn n .expire => n = number → s.hasNews number = false
  | .ask _ _ | .turn _ .arrive | .turn _ .notice => True

def Prompt (number : Nat) : Queries → List QueriesStep → Prop
  | _, [] => True
  | s, a :: rest => IsPrompt number s a ∧ Prompt number (s.step a) rest

instance decidableIsPrompt (number : Nat) (s : Queries) :
    (a : QueriesStep) → Decidable (IsPrompt number s a)
  | .change _ => inferInstanceAs (Decidable (_ = _))
  | .wait _ => inferInstanceAs (Decidable (_ ∧ _))
  | .turn n .expire => inferInstanceAs (Decidable (n = number → _))
  | .ask _ _ | .turn _ .arrive | .turn _ .notice => isTrue trivial

instance decidablePrompt (number : Nat) :
    (s : Queries) → (steps : List QueriesStep) → Decidable (Prompt number s steps)
  | _, [] => isTrue trivial
  | s, a :: rest =>
    have : Decidable (Prompt number (s.step a) rest) := decidablePrompt number (s.step a) rest
    inferInstanceAs (Decidable (IsPrompt number s a ∧ _))

/-- What can become of a query that waits, until a moment if there is one, along a run. -/
inductive Fate (s : Queries) (number : Nat) (q : ServiceQuery) (last : Nat)
    (giveUpAt : Option Nat) (later : List QueriesStep) : Prop
  /-- It waits on. If there is something for it now it can look, and if it looked there is
  nothing. A prompt query never waits beyond its time. -/
  | waits {seen : Nat}
      (parked : (s.after later).open? number = some ⟨number, q, last, .parked seen giveUpAt⟩)
      (looks : ∀ a, (s.after later).catalog.look q last = some a →
        QueryTurn.notice ∈ (Inquiry.parked seen giveUpAt).turns (s.after later).now
          (s.after later).catalog.revision)
      (missed : Prompt number s later → (s.after later).hasNews number = false →
        firstNews q last s later = none)
      (intime : Prompt number s later → ∀ moment, giveUpAt = some moment →
        (s.after later).now ≤ max s.now moment)
  /-- It looked, and what it saw answered it; a prompt query was told of the first state that had
  something for it, at the moment of that state. -/
  | told {before rest : List QueriesStep} {a : Answer}
      (split : later = before ++ .turn number .notice :: rest)
      (look : (s.after before).catalog.look q last = some a)
      (answered : ⟨number, a, (s.after before).now⟩ ∈ (s.after later).answered)
      (first : Prompt number s later →
        firstNews q last s before = some ((s.after before).now, a))
  /-- It gave up, not before its time, and was told how things were; a prompt query gave up on time,
  and only if there had been nothing for it. -/
  | gaveUp {before rest : List QueriesStep} {moment : Nat}
      (split : later = before ++ .turn number .expire :: rest)
      (due : giveUpAt = some moment) (patient : moment ≤ (s.after before).now)
      (answered : ⟨number, (s.after before).catalog.current q, (s.after before).now⟩
        ∈ (s.after later).answered)
      (missed : Prompt number s later → firstNews q last s before = none)
      (intime : Prompt number s later → (s.after before).now = max s.now moment)

section Parked

variable {s : Queries} {patience : Option Nat} {number : Nat} {q : ServiceQuery} {last : Nat}
  {seen : Nat} {giveUpAt : Option Nat}

theorem hasNews_of_parked (h : Orderly patience s)
    (hopen : s.open? number = some ⟨number, q, last, .parked seen giveUpAt⟩) :
    s.hasNews number = decide (seen ≠ s.catalog.revision) := by
  have hrevision : s.backend.revision = s.catalog.revision := by
    rw [h.backend_eq]
    rfl
  rw [hasNews, hopen, Option.any_some, hrevision]
  by_cases hseen : seen = s.catalog.revision
  · cases hdue : hasCome s.now giveUpAt <;> simp [Inquiry.turns, hseen, hdue]
  · simp [Inquiry.turns, hseen]

inductive ParkedStep (s s' : Queries) (number : Nat) (q : ServiceQuery) (last seen : Nat)
    (giveUpAt : Option Nat) : QueriesStep → Prop
  | same {a : QueriesStep}
      (hopen : s'.open? number = some ⟨number, q, last, .parked seen giveUpAt⟩) :
    ParkedStep s s' number q last seen giveUpAt a
  | again (look : s.catalog.look q last = none)
      (hopen : s'.open? number
        = some ⟨number, q, last, .parked s.catalog.revision giveUpAt⟩) :
    ParkedStep s s' number q last seen giveUpAt (.turn number .notice)
  | told {a : Answer} (look : s.catalog.look q last = some a)
      (hanswered : s'.answered = s.answered ++ [⟨number, a, s.now⟩]) :
    ParkedStep s s' number q last seen giveUpAt (.turn number .notice)
  | gaveUp {moment : Nat} (due : giveUpAt = some moment) (patient : moment ≤ s.now)
      (hanswered : s'.answered = s.answered ++ [⟨number, s.catalog.current q, s.now⟩]) :
    ParkedStep s s' number q last seen giveUpAt (.turn number .expire)

theorem parkedStep (h : Orderly patience s)
    (hopen : s.open? number = some ⟨number, q, last, .parked seen giveUpAt⟩) (a : QueriesStep) :
    ParkedStep s (s.step a) number q last seen giveUpAt a := by
  have hmove := moves_step h.backend_eq a
  generalize s.step a = s' at hmove ⊢
  cases hmove with
  | ask q' last' => exact .same (open?_ask hopen q' last')
  | change ch => exact .same hopen
  | wait ms => exact .same hopen
  | skip n t => exact .same hopen
  | @turn n t o c' i hopen' leads =>
    by_cases hn : n = number
    · subst hn
      obtain rfl := Option.some.inj (hopen'.symm.trans hopen)
      cases leads with
      | queued sent hqueued => exact nomatch sent
      | atOnce sent hqueued look => exact nomatch sent
      | parks sent hqueued look => exact nomatch sent
      | waitsOn parked written look =>
        obtain ⟨rfl, rfl⟩ := Inquiry.parked.inj parked
        exact .again look (open?_put_of_not_ready rfl hopen)
      | told parked written look =>
        refine .told look ?_
        rw [put_of_ready (ready?_replied s.now _)]
        rfl
      | gaveUp parked due =>
        obtain ⟨rfl, rfl⟩ := Inquiry.parked.inj parked
        cases giveUpAt with
        | none => exact nomatch due
        | some moment =>
          refine .gaveUp rfl (of_decide_eq_true due) ?_
          rw [put_of_ready (ready?_replied s.now _)]
          rfl
    · exact .same ((open?_put_of_ne (Ne.symm hn)).trans hopen)

/-- A prompt step takes nothing from the sight of a query that has not looked. -/
theorem news?_step (h : Orderly patience s)
    (hopen : s.open? number = some ⟨number, q, last, .parked seen giveUpAt⟩)
    (hlooked : seen = s.catalog.revision → s.catalog.look q last = none) {a : QueriesStep}
    (hprompt : IsPrompt number s a) :
    news? q last s = none ∨ news? q last (s.step a) = news? q last s := by
  have hidle : s.hasNews number = false → news? q last s = none := by
    intro hnone
    rw [hasNews_of_parked h hopen] at hnone
    rw [news?, hlooked (not_not.mp (of_decide_eq_false hnone))]
    rfl
  have hmove := moves_step h.backend_eq a
  generalize s.step a = s' at hmove ⊢
  cases hmove with
  | ask q' last' => exact .inr rfl
  | skip n t => exact .inr rfl
  | change ch => exact .inl (hidle hprompt)
  | wait ms => exact .inl (hidle hprompt.1)
  | turn hopen' leads =>
    right
    rw [news?, news?, put_catalog, put_now, leads.later.look_eq leads.revision_eq.symm]

/-- A prompt step never takes a query beyond its time. -/
theorem max_now_step (h : Orderly patience s)
    (hopen : s.open? number = some ⟨number, q, last, .parked seen giveUpAt⟩) {a : QueriesStep}
    (hprompt : IsPrompt number s a) {moment : Nat} (hdue : giveUpAt = some moment) :
    max (s.step a).now moment = max s.now moment := by
  have hmove := moves_step h.backend_eq a
  generalize s.step a = s' at hmove ⊢
  cases hmove with
  | ask q' last' => rfl
  | skip n t => rfl
  | change ch => rfl
  | turn hopen' leads => rw [put_now]
  | wait ms =>
    have hslept := hprompt.2
    rw [oversleeps, hopen, Option.any_some, hdue] at hslept
    have hle : s.now + ms ≤ moment := Nat.not_lt.mp (of_decide_eq_false hslept)
    show max (s.now + ms) moment = max s.now moment
    omega

/-- What a run has to see first is what the rest of it has, if its first step is prompt. -/
theorem firstNews_cons (h : Orderly patience s)
    (hopen : s.open? number = some ⟨number, q, last, .parked seen giveUpAt⟩)
    (hlooked : seen = s.catalog.revision → s.catalog.look q last = none) {a : QueriesStep}
    (hprompt : IsPrompt number s a) (rest : List QueriesStep) :
    firstNews q last s (a :: rest) = firstNews q last (s.step a) rest := by
  rw [firstNews]
  cases hnews : news? q last s with
  | none => exact Option.none_or
  | some x =>
    rcases news?_step h hopen hlooked hprompt with hnone | hsame
    · rw [hnews] at hnone
      exact nomatch hnone
    · have hhead : news? q last (s.step a) = some x := hsame.trans hnews
      cases rest with
      | nil => rw [firstNews, hhead]; rfl
      | cons b rest => rw [firstNews, hhead]; rfl

/-- **What can become of a query that waits**, along any run. -/
theorem fate_of_parked (later : List QueriesStep) (h : Orderly patience s)
    (hopen : s.open? number = some ⟨number, q, last, .parked seen giveUpAt⟩)
    (hseen : seen ≤ s.catalog.revision)
    (hlooked : seen = s.catalog.revision → s.catalog.look q last = none) :
    Fate s number q last giveUpAt later := by
  induction later generalizing s seen with
  | nil =>
    refine .waits hopen (fun a ha => ?_) (fun _ hnone => ?_) fun _ _ _ => Nat.le_max_left _ _
    · have hne : seen ≠ s.catalog.revision := by
        intro heq
        rw [show (s.after []).catalog = s.catalog from rfl, hlooked heq] at ha
        exact nomatch ha
      show QueryTurn.notice ∈ (Inquiry.parked seen giveUpAt).turns s.now s.catalog.revision
      simp [Inquiry.turns, hne]
    · rw [show s.after [] = s from rfl, hasNews_of_parked h hopen] at hnone
      rw [firstNews, news?, hlooked (not_not.mp (of_decide_eq_false hnone))]
      rfl
  | cons a rest ih =>
    obtain ⟨hbackend, hlater⟩ := backend_step h.backend_eq a
    -- the fate along the rest of the run is the fate along all of it
    have hlift : Fate (s.step a) number q last giveUpAt rest →
        Fate s number q last giveUpAt (a :: rest) := by
      intro hfate
      cases hfate with
      | waits parked looks missed intime =>
        refine .waits parked looks (fun hprompt hnone => ?_) fun hprompt moment hmoment => ?_
        · rw [firstNews_cons h hopen hlooked hprompt.1]
          exact missed hprompt.2 hnone
        · rw [← max_now_step h hopen hprompt.1 hmoment]
          exact intime hprompt.2 moment hmoment
      | @told before after ans split look answered first =>
        have hsplit : a :: rest = (a :: before) ++ .turn number .notice :: after :=
          congrArg (a :: ·) split
        refine .told hsplit look answered fun hprompt => ?_
        rw [firstNews_cons h hopen hlooked hprompt.1]
        exact first hprompt.2
      | @gaveUp before after moment split due patient answered missed intime =>
        have hsplit : a :: rest = (a :: before) ++ .turn number .expire :: after :=
          congrArg (a :: ·) split
        refine .gaveUp hsplit due patient answered (fun hprompt => ?_) fun hprompt => ?_
        · rw [firstNews_cons h hopen hlooked hprompt.1]
          exact missed hprompt.2
        · rw [← max_now_step h hopen hprompt.1 due]
          exact intime hprompt.2
    have hkept : ∀ x, x ∈ (s.step a).answered → x ∈ (s.after (a :: rest)).answered := fun x hx =>
      (answered_prefix_after hbackend rest).subset hx
    have hstep := parkedStep h hopen a
    cases hstep with
    | same hopen' =>
      refine hlift (ih (h.step a) hopen' (Nat.le_trans hseen hlater.revision_le) fun heq => ?_)
      -- no write since it looked, so nothing to see since
      have hrevision : s.catalog.revision = (s.step a).catalog.revision :=
        Nat.le_antisymm hlater.revision_le (heq ▸ hseen)
      rw [hlater.look_eq hrevision]
      exact hlooked (heq.trans hrevision.symm)
    | again look hopen' =>
      refine hlift (ih (h.step _) hopen' hlater.revision_le fun heq => ?_)
      rw [hlater.look_eq heq]
      exact look
    | told look hanswered =>
      have hsplit : QueriesStep.turn number .notice :: rest
          = [] ++ .turn number .notice :: rest := rfl
      refine .told hsplit look (hkept _ ?_) fun _ => ?_
      · rw [hanswered]
        exact List.mem_append_right _ (List.mem_singleton_self _)
      · rw [firstNews, news?, look]
        rfl
    | gaveUp due patient hanswered =>
      have hsplit : QueriesStep.turn number .expire :: rest
          = [] ++ .turn number .expire :: rest := rfl
      refine .gaveUp hsplit due patient (hkept _ ?_) (fun hprompt => ?_) fun _ =>
        (Nat.max_eq_left patient).symm
      · rw [hanswered]
        exact List.mem_append_right _ (List.mem_singleton_self _)
      · have hnone := hprompt.1 rfl
        rw [hasNews_of_parked h hopen] at hnone
        rw [firstNews, news?, hlooked (not_not.mp (of_decide_eq_false hnone))]
        rfl

end Parked

end Queries

end Switchboard
