import Mathlib.Data.List.Forall2
import Switchboard.Program.Calling
import Switchboard.Proofs.Retry.Accounts
/-!
# What an exhausted call reports

A call that is given up by the policy fails with the faults of all its attempts. Each of them comes
from one of three places: the balancer had no endpoint, the endpoint failed, and its fault was tagged
with the operation on the way out, or the task that ran the endpoint broke down. This file says what
the failure of the call makes of them, as a text and as a chain of causes, for every balancer, policy
and endpoint under the layers of the program.

* `Selection`, `Balancer` — a balancer of any kind, and what it hands out; `Balancer.environment` —
  with a middleware around every endpoint; `Balancer.logged` — with a log of what it handed out.
* `Setback` — how an attempt failed, as it is seen below the layers.
* `Matches`, `exists_setbacks` — the faults on record are those of the log.
* `Reports` — what the failure of a call says; `reports_stageAfter` — the law.
-/

namespace Switchboard

/-! ## Balancers -/

/-- What a balancer hands out to an attempt. -/
inductive Selection
  | refused (why : CallFailure)
  /-- An endpoint, whose calls are numbered from zero. -/
  | granted (callee : Callee) (nth : Nat)

/-- A balancer and the endpoints behind it, with a state of any kind. -/
structure Balancer (σ : Type) where
  select : σ → (now : Nat) → (request : String) → Selection × σ

/-- The attempt that is made with what was handed out, with a middleware around the endpoint. -/
def Selection.attempt (around : Middleware) (now : Nat) (request : String) : Selection → Attempt
  | .refused why => .unavailable why
  | .granted callee nth =>
    .invoked ((around callee nth request).delay.map (now + ·)) (around callee nth request).outcome

namespace Balancer

variable {σ : Type}

/-- The surroundings of calls through a balancer, with a middleware around every endpoint. -/
def environment (b : Balancer σ) (around : Middleware) : Environment σ where
  attempt state now request :=
    ((b.select state now request).1.attempt around now request, (b.select state now request).2)

/-- The same balancer with a log of what it handed out. -/
def logged (b : Balancer σ) : Balancer (σ × List Selection) where
  select s now request :=
    ((b.select s.1 now request).1,
      ((b.select s.1 now request).2, s.2 ++ [(b.select s.1 now request).1]))

theorem isSeenAs_logged (b : Balancer σ) (around : Middleware) :
    (b.logged.environment around).IsSeenAs Prod.fst (b.environment around) := fun _ _ _ => rfl

end Balancer

/-- A round-robin balancer in front of a source of endpoints. -/
def Dispatch.balancer {σ ε : Type} [DecidableEq ε]
    (endpoints : σ → Nat → Except DiscoveryFailure (List ε) × σ) (callee : ε → Callee) :
    Balancer (Dispatch σ ε) where
  select d now request :=
    match d.select endpoints now with
    | (.error why, d) => (.refused why, d)
    | (.ok e, d) => (.granted (callee e) (d.callsOf e), (d.invoke callee now e request).2)

/-- Its surroundings are those in which endpoints are dispatched. -/
theorem Dispatch.environment_eq {σ ε : Type} [DecidableEq ε]
    (endpoints : σ → Nat → Except DiscoveryFailure (List ε) × σ) (callee : ε → Callee)
    (around : Middleware) :
    Dispatch.environment endpoints (fun e => around (callee e))
      = (Dispatch.balancer endpoints callee).environment around := by
  refine congrArg Environment.mk (funext fun d => funext fun now => funext fun request => ?_)
  unfold Dispatch.balancer
  dsimp only
  rcases d.select endpoints now with ⟨_ | e, d'⟩ <;> rfl

/-! ## Setbacks -/

theorem Fault.chain_ne_nil (f : Fault) : f.chain ≠ [] := by
  cases f with
  | call failure => cases failure <;> exact List.cons_ne_nil _ _
  | message | discovery | context | operation => exact List.cons_ne_nil _ _

/-- How an attempt failed, as it is seen below the layers around the endpoints. -/
inductive Setback
  | unselected (why : CallFailure)
  | endpoint (f : Fault)
  | breakdown (message : String)

/-- How an attempt with what was handed out fails, if it does. -/
def Selection.setback? (request : String) : Selection → Option Setback
  | .refused why => some (.unselected why)
  | .granted callee nth =>
    match (callee nth request).outcome with
    | .response _ => none
    | .fault f => some (.endpoint f)
    | .panic message => some (.breakdown message)

namespace Setback

/-- The words for a task that broke down. -/
def breakdownText (message : String) : String :=
  "attempt task failed: " ++ Fault.panicText message

/-- The fault that a caller of an operation learns of. -/
def fault (operation : String) : Setback → Fault
  | .unselected why => .call why
  | .endpoint f => .operation operation f
  | .breakdown message => .message (breakdownText message)

/-- What is said of it: only a failure of an endpoint names the operation. -/
def text (operation : String) : Setback → String
  | .unselected why => why.text
  | .endpoint f => operation ++ ": " ++ f.text
  | .breakdown message => breakdownText message

/-- What is said of it and of its causes. -/
def chain (operation : String) : Setback → List String
  | .unselected why => why.chain
  | .endpoint f => (operation ++ ": " ++ f.text) :: f.chain
  | .breakdown message => [breakdownText message]

/-- What is said of the cause that led to all the rest. -/
def root? : Setback → Option String
  | .unselected why => why.chain.getLast?
  | .endpoint f => f.chain.getLast?
  | .breakdown message => some (breakdownText message)

theorem text_fault (operation : String) (w : Setback) : (w.fault operation).text = w.text operation := by
  cases w <;> rfl

theorem chain_fault (operation : String) (w : Setback) :
    (w.fault operation).chain = w.chain operation := by
  cases w <;> rfl

theorem chain_ne_nil (operation : String) (w : Setback) : w.chain operation ≠ [] := by
  rw [← chain_fault]
  exact Fault.chain_ne_nil _

/-- A chain ends in the root. -/
theorem getLast?_chain (operation : String) (w : Setback) :
    (w.chain operation).getLast? = w.root? := by
  cases w with
  | unselected why | breakdown message => rfl
  | endpoint f => exact List.getLast?_cons_of_ne_nil f.chain_ne_nil

end Setback

/-! ## Setbacks on record -/

section Record

variable {operation request : String} {cancelAt : Option Nat} {deadline : Nat}

/-- The attempts `log` are those made with what was handed out, under the layers of the program. -/
abbrev Matches (operation : String) (given : List Selection) (log : List Asked) : Prop :=
  List.Forall₂ (fun sel a => a.attempt = sel.attempt (Program.wrapped operation) a.askedAt a.request)
    given log

/-- What the layers of the program make of an endpoint: they tag its fault. -/
theorem attempt_granted (operation : String) (now : Nat) (request : String) (callee : Callee)
    (nth : Nat) : (Selection.granted callee nth).attempt (Program.wrapped operation) now request
      = .invoked ((callee nth request).delay.map (now + ·))
          ((callee nth request).outcome.mapFault (.operation operation)) := rfl

/-- The fault of an attempt that failed is that of a setback. -/
theorem exists_setback {sel : Selection} {a : Asked} {f : Fault}
    (h : a.attempt = sel.attempt (Program.wrapped operation) a.askedAt a.request)
    (hfault : a.fault? cancelAt deadline = some f) :
    ∃ w, sel.setback? a.request = some w ∧ f = w.fault operation := by
  obtain ⟨t, hanswer⟩ : ∃ t, a.answer? cancelAt deadline = some (t, .error f) := by
    unfold Asked.fault? at hfault
    split at hfault
    · rename_i t g hanswer
      exact ⟨t, Option.some_inj.mp hfault ▸ hanswer⟩
    · cases hfault
  cases sel with
  | refused why =>
    rcases Asked.answer?_cases hanswer with ⟨why', hattempt, -, heq⟩ | ⟨d, outcome, hattempt, -⟩
    · obtain rfl := Attempt.unavailable.inj (h.symm.trans hattempt)
      exact ⟨.unselected why, rfl, Except.error.inj heq⟩
    · cases h.symm.trans hattempt
  | granted callee nth =>
    rw [attempt_granted] at h
    rcases Asked.answer?_cases hanswer with ⟨why', hattempt, -⟩ | ⟨d, outcome, hattempt, -, -, heq⟩
    · cases h.symm.trans hattempt
    · obtain ⟨-, rfl⟩ := Attempt.invoked.inj (h.symm.trans hattempt)
      rw [Selection.setback?]
      cases houtcome : (callee nth a.request).outcome with
      | response text =>
        rw [houtcome] at heq
        cases heq
      | fault g =>
        rw [houtcome] at heq
        exact ⟨.endpoint g, rfl, Except.error.inj heq⟩
      | panic message =>
        rw [houtcome] at heq
        exact ⟨.breakdown message, rfl, Except.error.inj heq⟩

/-- The faults on record are those of setbacks, one for each attempt, in their order. -/
theorem exists_setbacks {given : List Selection} {log : List Asked} {raw : List Fault}
    (h : Matches operation given log) (hrequest : ∀ a ∈ log, a.request = request)
    (hfaults : log.map (Asked.fault? cancelAt deadline) = raw.map some) :
    ∃ ws : List Setback, given.map (Selection.setback? request) = ws.map some ∧
      raw = ws.map (Setback.fault operation) := by
  induction h generalizing raw with
  | nil =>
    refine ⟨[], rfl, ?_⟩
    exact List.map_eq_nil_iff.mp hfaults.symm
  | @cons sel a given log hmatch _ ih =>
    obtain ⟨f, raw, rfl⟩ : ∃ f fs, raw = f :: fs := by
      cases raw with
      | nil => cases hfaults
      | cons f fs => exact ⟨f, fs, rfl⟩
    rw [List.map_cons, List.map_cons, List.cons.injEq] at hfaults
    obtain ⟨w, hw, rfl⟩ := exists_setback hmatch hfaults.1
    obtain ⟨ws, hws, rfl⟩ := ih (fun a ha => hrequest a (List.mem_cons_of_mem _ ha)) hfaults.2
    rw [hrequest a List.mem_cons_self] at hw
    exact ⟨w :: ws, by rw [List.map_cons, List.map_cons, hw, hws], rfl⟩

end Record

/-! ## The report -/

/-- What the failure of a call says: a headline, behind it all that went wrong before, and a chain that
goes on with the causes of what is in the headline. -/
structure Reports (before : List String) (headline : String) (causes : List String)
    (failure : CallFailure) : Prop where
  text_alone : before = [] → failure.text = headline
  text_several : before ≠ [] →
    failure.text = headline ++ " (previously: " ++ "; ".intercalate before ++ ")"
  chain_eq : failure.chain = failure.text :: causes

section Report

theorem Fault.lastChain_concat (fs : List Fault) (f : Fault) :
    Fault.lastChain (fs ++ [f]) = f.chain := by
  induction fs with
  | nil => rfl
  | cons g fs ih =>
    obtain ⟨f', rest, hrest⟩ := List.exists_cons_of_ne_nil
      (List.append_ne_nil_of_right_ne_nil fs (List.cons_ne_nil f []))
    rw [hrest] at ih
    rw [List.cons_append, hrest, Fault.lastChain]
    · exact ih
    · exact List.cons_ne_nil _ _

theorem RetryRecord.textOf_singleton (last : String) (final : Option String) :
    textOf [last] final = final.getD last := by
  cases final <;> exact String.append_empty

theorem RetryRecord.textOf_concat {before : List String} (h : before ≠ []) (last : String)
    (final : Option String) : textOf (before ++ [last]) final
      = final.getD last ++ " (previously: " ++ "; ".intercalate before ++ ")" := by
  have hhead : (final.orElse fun _ => (before ++ [last]).getLast?).getD
      "retry failed without attempts" = final.getD last := by
    rw [List.getLast?_concat]
    cases final <;> rfl
  have hlength : (before ++ [last]).length > 1 := by
    rw [List.length_append, List.length_singleton]
    exact Nat.succ_lt_succ (List.length_pos_iff.mpr h)
  rw [textOf, hhead, List.dropLast_concat, if_pos hlength]
  simp only [String.append_assoc]

theorem CallFailure.text_exhausted (raw : List Fault) (final : Option Fault) :
    (CallFailure.exhausted raw final).text
      = RetryRecord.textOf (Fault.texts raw) (Fault.text? final) := rfl

theorem CallFailure.chain_exhausted (raw : List Fault) (final : Option Fault) :
    (CallFailure.exhausted raw final).chain = (CallFailure.exhausted raw final).text
      :: (Fault.chain? final).getD (Fault.lastChain raw) := rfl

/-- The chain of a failure ends as that of what is in its headline does. -/
theorem Reports.getLast?_chain {before causes : List String} {headline : String}
    {failure : CallFailure} (h : Reports before headline causes failure) (hne : causes ≠ []) :
    failure.chain.getLast? = causes.getLast? := by
  rw [h.chain_eq]
  exact List.getLast?_cons_of_ne_nil hne

/-- What the failure of a call says of its record. -/
theorem reports_exhausted (before : List Fault) (last : Fault) (final : Option Fault) :
    Reports (before.map Fault.text) ((final.map Fault.text).getD last.text)
      ((final.map Fault.chain).getD last.chain) (.exhausted (before ++ [last]) final) := by
  have htext : (CallFailure.exhausted (before ++ [last]) final).text
      = RetryRecord.textOf (before.map Fault.text ++ [last.text]) (final.map Fault.text) := by
    rw [CallFailure.text_exhausted, Fault.texts_eq_map, Fault.text?_eq_map, List.map_append,
      List.map_singleton]
  refine ⟨fun h => ?_, fun h => ?_, ?_⟩
  · rw [htext, h, List.nil_append, RetryRecord.textOf_singleton]
  · rw [htext, RetryRecord.textOf_concat h]
  · rw [CallFailure.chain_exhausted, Fault.chain?_eq_map, Fault.lastChain_concat]

end Report

/-! ## The law -/

section Law

variable {σ : Type} {operation request : String} {b : Balancer σ} {r : Retry} {jitter : Nat → Jitter}
  {cancelAt : Option Nat} {now deadline n : Nat} {state : σ}

/-- A log of attempts beside the log of what was handed out: each attempt is made with it. -/
theorem matches_stageAfter {c : CallReport ((σ × List Selection) × List Asked)}
    (h : r.stageAfter (b.logged.environment (Program.wrapped operation)).logged request jitter
      cancelAt deadline n (r.begin now ((state, []), [])) = .inl c) :
    Matches operation c.state.1.2 c.state.2 :=
  state_stageAfter (P := fun s : (σ × List Selection) × List Asked => Matches operation s.1.2 s.2)
    (s := r.begin now ((state, []), []))
    (fun _ _ _ hold => List.rel_append hold (.cons rfl .nil)) .nil h

/-- The faults of a call that was given up are those of setbacks with what was handed out. -/
theorem exists_setbacks_stageAfter {c : CallReport (σ × List Selection)} {raw : List Fault}
    {final : Option Fault}
    (h : r.stageAfter (b.logged.environment (Program.wrapped operation)) request jitter cancelAt
      deadline n (r.begin now (state, [])) = .inl c)
    (hresult : c.result = .error (.exhausted raw final)) :
    ∃ ws : List Setback, c.state.2.map (Selection.setback? request) = ws.map some ∧
      raw = ws.map (Setback.fault operation) ∧ ws ≠ [] ∧ c.attempts = ws.length := by
  -- the same call with a log of its attempts as well
  obtain ⟨c', hc', rfl⟩ := exists_of_stageAfter_mapState (Environment.isSeenAs_logged _)
    (s := r.begin now ((state, []), [])) h
  have haccounts : Accounts r request cancelAt now deadline c' := elim_stageAfter_accounts hc'
  have hmatches := matches_stageAfter hc'
  obtain ⟨hfaults, f, hlast, -⟩ := haccounts.exhausted raw final hresult
  obtain ⟨ws, hws, rfl⟩ := exists_setbacks hmatches haccounts.orderly.request_eq hfaults
  refine ⟨ws, hws, rfl, ?_, ?_⟩
  · rintro rfl
    cases hlast
  · show c'.attempts = ws.length
    rw [haccounts.attempts_eq, ← hmatches.length_eq]
    exact (List.length_map _).symm.trans ((congrArg List.length hws).trans (List.length_map _))

/-- The calls of the program are such calls: through a round-robin balancer, to lines of addresses. -/
theorem environment_calling (j : Jitter) (c : Program.Calling) :
    c.environment j = (Dispatch.balancer (Pipeline.endpoints j) fun e : Endpoint =>
      Line.callee e.address (c.peers e.address)).environment
        (Program.wrapped (Program.operationOf c.service)) :=
  Dispatch.environment_eq _ _ _

end Law

/-- **An exhausted call reports all its setbacks.** After any number of attempts through any balancer,
with the layers of the program around every endpoint: if the policy has given up, each attempt failed
in one of three ways, and the failure of the call names the last one, or the fault that was put in
its place, and in their order all before it; its chain goes on with the causes of what it names, down
to the root of them. The log of what was handed out is kept by the balancer: the executor, which knows
nothing of it, reports the same. -/
theorem reports_stageAfter :
    (∀ (j : Jitter) (c : Program.Calling), c.environment j
      = (Dispatch.balancer (Pipeline.endpoints j) fun e : Endpoint =>
          Line.callee e.address (c.peers e.address)).environment
            (Program.wrapped (Program.operationOf c.service))) ∧
    ∀ {σ : Type} (operation : String) (b : Balancer σ) (r : Retry) (jitter : Nat → Jitter)
      (cancelAt : Option Nat) (now : Nat) (request : String) (state : σ) (n : Nat),
      let deadline := now + r.timeout.ticks
      let around := Program.wrapped operation
      let run := r.stageAfter (b.logged.environment around) request jitter cancelAt deadline n
        (r.begin now (state, []))
      r.attemptsIn (b.environment around) request jitter cancelAt deadline n (r.begin now state)
          = run.getLeft?.map (CallReport.mapState Prod.fst) ∧
        ∀ c raw final, run = .inl c → c.result = .error (.exhausted raw final) →
          ∃ before last,
            c.state.2.map (Selection.setback? request) = (before ++ [last]).map some ∧
            c.attempts = before.length + 1 ∧
            (final = none →
              Reports (before.map (Setback.text operation)) (last.text operation)
                  (last.chain operation) (.exhausted raw final) ∧
                (CallFailure.exhausted raw final).chain.getLast? = last.root?) ∧
            ∀ g, final = some g →
              Reports (before.map (Setback.text operation)) g.text g.chain (.exhausted raw final) ∧
                (CallFailure.exhausted raw final).chain.getLast? = g.chain.getLast? := by
  refine ⟨environment_calling, fun operation b r jitter cancelAt now request state n => ?_⟩
  intro deadline around run
  refine ⟨attemptsIn_mapState (b.isSeenAs_logged around) n (r.begin now (state, [])), ?_⟩
  intro c raw final hrun hresult
  obtain ⟨ws, hws, rfl, hne, hattempts⟩ := exists_setbacks_stageAfter hrun hresult
  obtain ⟨before, last, heq⟩ := (List.eq_nil_or_concat ws).resolve_left hne
  rw [List.concat_eq_append] at heq
  subst heq
  have hreports := reports_exhausted (before.map (Setback.fault operation)) (last.fault operation) final
  have htexts : (before.map (Setback.fault operation)).map Fault.text
      = before.map (Setback.text operation) :=
    List.map_map.trans (List.map_congr_left fun w _ => w.text_fault operation)
  rw [htexts, Setback.text_fault, Setback.chain_fault] at hreports
  rw [List.map_append, List.map_singleton]
  refine ⟨before, last, hws, ?_, ?_, ?_⟩
  · rw [hattempts, List.length_append, List.length_singleton]
  · rintro rfl
    exact ⟨hreports, (hreports.getLast?_chain (last.chain_ne_nil operation)).trans
      (last.getLast?_chain operation)⟩
  · rintro g rfl
    exact ⟨hreports, hreports.getLast?_chain g.chain_ne_nil⟩

/-- A balancer that has no endpoint at first, then one that breaks down, and then one that refuses. -/
def Balancer.unlucky : Balancer Nat where
  select k _ _ :=
    match k with
    | 0 => (.refused .noEndpoints, 1)
    | 1 => (.granted (Callee.constant (.panic "boom")) 0, 2)
    | k + 2 => (.granted (Callee.constant (.fault (.context "refused" (.message "down")))) k, k + 3)

/-- A call that is given up after its third attempt. -/
def untilThird : Retry :=
  ⟨.ofMillis 100, .stopAt 3 none, .start (.ofMillis 10) (.ofMillis 100)⟩

/-- Three attempts fail, each in its own way: only the last one names the operation, and the chain goes
down to its root. -/
theorem reports_stageAfter_eachWay :
    ∃ c raw, untilThird.stageAfter (Balancer.unlucky.logged.environment (Program.wrapped "call users"))
        "hello" (fun _ => .half) none 100 3 (untilThird.begin 0 (0, [])) = .inl c ∧
      c.result = .error (.exhausted raw none) ∧
      Reports ["no endpoints available", "attempt task failed: " ++ Fault.panicText "boom"]
        "call users: refused" ["call users: refused", "refused", "down"] (.exhausted raw none) := by
  refine ⟨_, [.call .noEndpoints, .message (Setback.breakdownText "boom"),
    .operation "call users" (.context "refused" (.message "down"))], rfl, rfl, ?_⟩
  obtain ⟨before, last, hws, -, hreports, -⟩ := (reports_stageAfter.2 "call users" Balancer.unlucky
    untilThird (fun _ => .half) none 0 "hello" 0 3).2 _ _ none rfl rfl
  -- what was handed out tells the setbacks
  have hws : before ++ [last] = [.unselected .noEndpoints, .breakdown "boom"] ++
      [.endpoint (.context "refused" (.message "down"))] :=
    List.map_injective_iff.mpr (fun _ _ => Option.some.inj) hws.symm
  obtain ⟨rfl, hlast⟩ := List.append_inj' hws rfl
  obtain rfl := List.singleton_inj.mp hlast
  exact (hreports rfl).1

end Switchboard
