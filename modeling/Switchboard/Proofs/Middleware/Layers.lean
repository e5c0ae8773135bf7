import Switchboard.Middleware
/-!
# Layers around a callee

A middleware may do anything with a call. One that passes every call on exactly once, and waits for
what comes of it, is a *layer*: it does something on the way in, hands a request down, and does
something on the way out; what it does besides, while the call is under way, is strewn in between.
A stack of layers nests like one layer does. A call enters them from the outermost in, reaches the
callee once, and leaves them in the reverse order.

* `Strewn` — a list in its order, with others strewn in.
* `Layer` — a middleware with what it does around the one call that it passes on.
* `visits` — the layers that a call goes through, each with the request that reaches it and with what
  it gets back.
* `RunsThrough` — a call that goes through layers in order; `runsThrough_chainList` — every call does.
* `Marking` — layers that take notes and layers that change requests; `Marking.events_chainList` — the
  notes of a stack of them, and what reaches each.
* `BuiltIn` — the layers that the program stacks, in any order and number; `BuiltIn.Decorates` — what
  comes of a call below them.
* `runsThrough_chain` — both, for the stack that `chain` makes, and that stacks can be stacked.
-/

namespace Switchboard

/-! ## What is observed of a call -/

namespace Outcome

@[simp] theorem isOk_mapFault (o : Outcome) (g : Fault → Fault) : (o.mapFault g).isOk = o.isOk := by
  cases o <;> rfl

@[simp] theorem isComplete_mapFault (o : Outcome) (g : Fault → Fault) :
    (o.mapFault g).isComplete = o.isComplete := by
  cases o <;> rfl

theorem mapFault_id (o : Outcome) : o.mapFault (fun f => f) = o := by
  cases o <;> rfl

theorem mapFault_mapFault (o : Outcome) (g h : Fault → Fault) :
    (o.mapFault g).mapFault h = o.mapFault fun f => h (g f) := by
  cases o <;> rfl

end Outcome

namespace Invocation

/-- Does the call run to its end, if nobody gives it up? -/
def ends (i : Invocation) : Bool := i.delay.isSome && i.outcome.isComplete

/-- All that is observed of the call, if nobody gives it up. -/
def events (i : Invocation) : List CallEvent := i.atOnce ++ if i.delay.isSome then i.later else []

end Invocation

/-! ## Lists with others strewn in -/

/-- The list `all` is `core`, in its order, with `others` strewn in. -/
structure Strewn {α : Type} (core others all : List α) : Prop where
  sublist : core.Sublist all
  perm : all.Perm (core ++ others)

namespace Strewn

variable {α : Type} {core others all front back inner more : List α}

theorem of_eq (h : all = core) : Strewn core [] all := by
  subst h
  exact ⟨.refl all, by rw [List.append_nil]⟩

/-- With nothing strewn in, that is all there is. -/
theorem eq (h : Strewn core [] all) : all = core := by
  have hlength := h.perm.length_eq
  rw [List.append_nil] at hlength
  exact (h.sublist.eq_of_length hlength.symm).symm

theorem enclose (h : Strewn core others inner) (houter : Strewn (front ++ inner ++ back) more all) :
    Strewn (front ++ core ++ back) (more ++ others) all := by
  constructor
  · exact (((List.Sublist.refl front).append h.sublist).append (.refl back)).trans houter.sublist
  · calc all
      _ |>.Perm (front ++ inner ++ back ++ more) := houter.perm
      _ |>.Perm (front ++ (core ++ others) ++ back ++ more) :=
        ((h.perm.append_left front).append_right back).append_right more
      _ |>.Perm (front ++ core ++ back ++ (more ++ others)) := by
        simp only [List.append_assoc]
        refine List.Perm.append_left front (List.Perm.append_left core ?_)
        rw [← List.append_assoc back more]
        exact List.perm_append_comm

/-- A list with others strewn in inside of another one, where the ends of both are there on one
condition. -/
theorem nest {ended : Bool} {a b : List α}
    (h : Strewn (a ++ core ++ if ended then b else []) others inner)
    (houter : Strewn (front ++ inner ++ if ended then back else []) more all) :
    Strewn (front ++ a ++ core ++ if ended then b ++ back else []) (more ++ others) all := by
  have hnested := h.enclose houter
  cases ended with
  | false =>
    simp only [Bool.false_eq_true, if_false, List.append_nil, List.append_assoc] at hnested ⊢
    exact hnested
  | true =>
    simp only [if_true, List.append_assoc] at hnested ⊢
    exact hnested

end Strewn

/-! ## Layers -/

/-- A middleware that passes every call on exactly once, and waits for what comes of it. What it does
by itself depends on what it is told only: the request, and after how many milliseconds the call below
came to which outcome. -/
structure Layer where
  around : Middleware
  /-- The request that it hands down. -/
  passes : (nth : Nat) → (request : String) → String
  /-- What it does on the way in, before it passes the call on. -/
  entering : (nth : Nat) → (request : String) → List CallEvent
  /-- What it does while the call that it passed on is under way. -/
  meanwhile : (nth : Nat) → (request : String) → Option Nat → Outcome → List CallEvent
  /-- What it does on the way out, once the call that it passed on has come to its end. -/
  leaving : (nth : Nat) → (request : String) → Option Nat → Outcome → List CallEvent
  /-- Whatever is below, its n-th call makes one call below, the n-th one there, ... -/
  strewn : ∀ (next : Callee) (nth : Nat) (request : String),
    let below := next nth (passes nth request)
    Strewn (entering nth request ++ below.events
        ++ if below.ends then leaving nth request below.delay below.outcome else [])
      (meanwhile nth request below.delay below.outcome) (around next nth request).events
  /-- ... and ends if that one does. -/
  ends_eq : ∀ (next : Callee) (nth : Nat) (request : String),
    (around next nth request).ends = (next nth (passes nth request)).ends

abbrev Layer.stack (layers : List Layer) : List Middleware := layers.map Layer.around

/-- A layer on the way of a call. -/
structure Visit where
  layer : Layer
  nth : Nat
  request : String
  below : Invocation

namespace Visit

def entering (v : Visit) : List CallEvent := v.layer.entering v.nth v.request

def meanwhile (v : Visit) : List CallEvent :=
  v.layer.meanwhile v.nth v.request v.below.delay v.below.outcome

def leaving (v : Visit) : List CallEvent :=
  v.layer.leaving v.nth v.request v.below.delay v.below.outcome

end Visit

/-- The layers on the way of the n-th call with a request, outermost first. -/
def visits (callee : Callee) (nth : Nat) : List Layer → String → List Visit
  | [], _ => []
  | l :: rest, request =>
    ⟨l, nth, request, chainList (Layer.stack rest) callee nth (l.passes nth request)⟩
      :: visits callee nth rest (l.passes nth request)

/-- The request that reaches what is below the layers. -/
def handedDown (nth : Nat) (layers : List Layer) (request : String) : String :=
  layers.foldl (fun request l => l.passes nth request) request

/-- The n-th call `outer` of a stack of layers goes through all of them in order. -/
structure RunsThrough (layers : List Layer) (callee : Callee) (nth : Nat) (request : String)
    (outer : Invocation) : Prop where
  /-- Each layer is on its way once, the outermost first. -/
  visited : (visits callee nth layers request).map Visit.layer = layers
  /-- It ends if the call of the callee does, ... -/
  ends_eq : outer.ends = (callee nth (handedDown nth layers request)).ends
  /-- ... and what is observed, apart from what layers do meanwhile, is the way in, the one call of
  the callee, and the way back, if there is one. -/
  strewn : Strewn
    ((visits callee nth layers request).flatMap Visit.entering
      ++ (callee nth (handedDown nth layers request)).events
      ++ if (callee nth (handedDown nth layers request)).ends then
          (visits callee nth layers request).reverse.flatMap Visit.leaving
        else [])
    ((visits callee nth layers request).flatMap Visit.meanwhile) outer.events

/-- **A call goes through the layers of a stack in order**: by induction on the stack, as the call
that the outermost layer makes below is one of the rest of the stack. -/
theorem runsThrough_chainList (layers : List Layer) (callee : Callee) (nth : Nat) (request : String) :
    RunsThrough layers callee nth request (chainList (Layer.stack layers) callee nth request) := by
  induction layers generalizing request with
  | nil =>
    refine ⟨rfl, rfl, .of_eq ?_⟩
    show (callee nth request).events = [] ++ (callee nth request).events
      ++ if (callee nth request).ends then [] else []
    rw [ite_self, List.append_nil, List.nil_append]
  | cons l rest ih =>
    obtain ⟨hvisited, hends, hstrewn⟩ := ih (l.passes nth request)
    have hlayer := l.strewn (chainList (Layer.stack rest) callee) nth request
    dsimp only at hlayer
    refine ⟨congrArg (l :: ·) hvisited, (l.ends_eq ..).trans hends, ?_⟩
    rw [hends] at hlayer
    have hnested := hstrewn.nest hlayer
    rwa [visits, List.flatMap_cons, List.flatMap_cons, List.reverse_cons, List.flatMap_append,
      List.flatMap_singleton]

/-- With layers that do nothing meanwhile, what is observed is the way in, the call, and the way back. -/
theorem RunsThrough.events_eq {layers : List Layer} {callee : Callee} {nth : Nat} {request : String}
    {outer : Invocation} (h : RunsThrough layers callee nth request outer)
    (hidle : ∀ v ∈ visits callee nth layers request, v.meanwhile = []) :
    outer.events = (visits callee nth layers request).flatMap Visit.entering
      ++ (callee nth (handedDown nth layers request)).events
      ++ if (callee nth (handedDown nth layers request)).ends then
          (visits callee nth layers request).reverse.flatMap Visit.leaving
        else [] := by
  have hstrewn := h.strewn
  rw [List.flatMap_eq_nil_iff.mpr hidle] at hstrewn
  exact hstrewn.eq

/-! ## Layers that leave marks -/

/-- The layers that only leave marks, on what is observed or on requests. -/
inductive Marking
  | record (name : String)
  | lengthen (ending : String)
  deriving DecidableEq, Repr, Inhabited

namespace Marking

def middleware : Marking → Middleware
  | .record name => .record name
  | .lengthen ending => .lengthen ending

def layer (m : Marking) : Layer where
  around := m.middleware
  passes _ request :=
    match m with
    | .record _ => request
    | .lengthen ending => request ++ ending
  entering _ request :=
    match m with
    | .record name => [.entered name request]
    | .lengthen _ => []
  meanwhile _ _ _ _ := []
  leaving _ _ _ o :=
    match m with
    | .record name => [.left name o.isOk]
    | .lengthen _ => []
  strewn next nth request := by
    refine .of_eq ?_
    cases m with
    | record name =>
      rw [Invocation.events, Invocation.events, Invocation.ends]
      show _ :: (next nth request).atOnce ++ (if (next nth request).delay.isSome then
        (next nth request).later ++ (if (next nth request).outcome.isComplete then
          [.left name (next nth request).outcome.isOk] else []) else []) = _
      cases (next nth request).delay.isSome <;> simp
    | lengthen ending =>
      show (next nth (request ++ ending)).events = [] ++ _ ++ if _ then [] else []
      rw [ite_self, List.append_nil, List.nil_append]
  ends_eq next nth request := by cases m <;> rfl

/-- The notes that a request leaves on the way in. -/
def notesIn : List Marking → (request : String) → List CallEvent
  | [], _ => []
  | .record name :: rest, request => .entered name request :: notesIn rest request
  | .lengthen ending :: rest, request => notesIn rest (request ++ ending)

/-- The name that notes are taken under. -/
def notes? : Marking → Option String
  | .record name => some name
  | .lengthen _ => none

section

variable (stack : List Marking) (callee : Callee) (nth : Nat) (request : String)

/-- The request that reaches what is below. -/
def lengthened : String := handedDown nth (stack.map layer) request

theorem outcome_chainList :
    (chainList (Layer.stack (stack.map layer)) callee nth request).outcome
      = (callee nth (lengthened stack nth request)).outcome := by
  induction stack generalizing request with
  | nil => rfl
  | cons m rest ih =>
    cases m with
    | record name => exact ih request
    | lengthen ending => exact ih (request ++ ending)

theorem entering_visits :
    (visits callee nth (stack.map layer) request).flatMap Visit.entering
      = notesIn stack request := by
  induction stack generalizing request with
  | nil => rfl
  | cons m rest ih =>
    cases m with
    | record name => exact congrArg (CallEvent.entered name request :: ·) (ih request)
    | lengthen ending => exact ih (request ++ ending)

/-- On the way out every layer notes the outcome of the callee. -/
theorem leaving_visits :
    (visits callee nth (stack.map layer) request).reverse.flatMap Visit.leaving
      = (stack.filterMap notes?).reverse.map
          (.left · (callee nth (lengthened stack nth request)).outcome.isOk) := by
  induction stack generalizing request with
  | nil => rfl
  | cons m rest ih =>
    rw [List.map_cons, visits, List.reverse_cons, List.flatMap_append, List.flatMap_singleton]
    cases m with
    | record name =>
      have hbelow := outcome_chainList rest callee nth request
      have hnames : (record name :: rest).filterMap notes? = name :: rest.filterMap notes? := rfl
      rw [hnames, List.reverse_cons, List.map_append]
      show _ ++ [CallEvent.left name (chainList _ callee nth request).outcome.isOk] = _
      rw [hbelow]
      exact congrArg (· ++ [_]) (ih request)
    | lengthen ending => exact (List.append_nil _).trans (ih (request ++ ending))

/-- **Requests are seen from the outermost layer in, outcomes the other way round.** A layer sees the
request with what those outside of it appended. -/
theorem events_chainList :
    let inner := callee nth (lengthened stack nth request)
    (chainList (stack.map middleware) callee nth request).events
      = notesIn stack request ++ inner.events
        ++ if inner.ends then (stack.filterMap notes?).reverse.map (.left · inner.outcome.isOk)
          else [] := by
  intro inner
  have hthrough := runsThrough_chainList (stack.map layer) callee nth request
  have hidle : ∀ v ∈ visits callee nth (stack.map layer) request, v.meanwhile = [] := by
    intro v hv
    have hlayer := List.mem_map_of_mem (f := Visit.layer) hv
    rw [hthrough.visited] at hlayer
    obtain ⟨m, -, hm⟩ := List.mem_map.mp hlayer
    rw [Visit.meanwhile, ← hm]
    rfl
  have hevents := hthrough.events_eq hidle
  rw [entering_visits, leaving_visits] at hevents
  have hstack : Layer.stack (stack.map layer) = stack.map middleware := List.map_map
  rw [← hstack]
  exact hevents

end

-- one layer between two that take notes changes the request
example :
    (chainList ([.record "a", .lengthen "!", .record "b"].map middleware)
        (.constant (.response "ok")) 0 "hi").events
      = [.entered "a" "hi", .entered "b" "hi!", .invoked "hi!", .left "b" true, .left "a" true] := rfl

end Marking

/-! ## Faults with operations -/

namespace Fault

/-- A fault tagged with operations, the first of them outermost. -/
def tagged (operations : List String) (f : Fault) : Fault := operations.foldr .operation f

theorem text_operation (name : String) (cause : Fault) :
    (operation name cause).text = name ++ ": " ++ cause.text := rfl

theorem chain_operation (name : String) (cause : Fault) :
    (operation name cause).chain = (operation name cause).text :: cause.chain := rfl

theorem tagged_cons (name : String) (rest : List String) (f : Fault) :
    f.tagged (name :: rest) = operation name (f.tagged rest) := rfl

theorem tagged_append (front rest : List String) (f : Fault) :
    f.tagged (front ++ rest) = (f.tagged rest).tagged front := List.foldr_append ..

/-- The operations stand in front of the text. -/
theorem text_tagged (operations : List String) (f : Fault) :
    (f.tagged operations).text = ": ".intercalate (operations ++ [f.text]) := by
  induction operations with
  | nil => exact String.intercalate_singleton.symm
  | cons name rest ih =>
    have hne : rest ++ [f.text] ≠ [] := List.append_ne_nil_of_right_ne_nil _ (List.cons_ne_nil _ _)
    rw [List.cons_append, String.intercalate_cons_of_ne_nil hne, ← ih, tagged_cons, text_operation]

/-- Each operation has a cause of its own in front of those of the fault. -/
theorem chain_tagged (operations : List String) (f : Fault) :
    (f.tagged operations).chain
      = ((List.range operations.length).map fun k =>
          ": ".intercalate (operations.drop k ++ [f.text])) ++ f.chain := by
  induction operations with
  | nil => rfl
  | cons name rest ih =>
    rw [tagged_cons, chain_operation, ← tagged_cons, text_tagged, ih, List.length_cons,
      List.range_succ_eq_map, List.map_cons, List.map_map, List.drop_zero]
    rfl

end Fault

/-! ## The layers of the program -/

/-- The layers that the program stacks. -/
inductive BuiltIn
  | trace (operation : String)
  | metrics (operation : String)
  | errorContext (operation : String)
  deriving DecidableEq, Repr, Inhabited

namespace BuiltIn

def middleware : BuiltIn → Middleware
  | .trace operation => .trace operation
  | .metrics operation => .metrics operation
  | .errorContext operation => .errorContext operation

/-- The operation that calls are counted under. -/
def counts? : BuiltIn → Option String
  | .metrics operation => some operation
  | _ => none

/-- The operation that faults are tagged with. -/
def tags? : BuiltIn → Option String
  | .errorContext operation => some operation
  | _ => none

/-- What is counted of a call that comes to an outcome. -/
def counted (operations : List String) (ok : Bool) : List CallEvent :=
  operations.map fun operation => .counted operation ok

section Single

variable (b : BuiltIn) (next : Callee) (nth : Nat) (request : String)

theorem atOnce_middleware : (b.middleware next nth request).atOnce = (next nth request).atOnce := by
  cases b <;> rfl

theorem delay_middleware : (b.middleware next nth request).delay = (next nth request).delay := by
  cases b <;> rfl

theorem outcome_middleware :
    (b.middleware next nth request).outcome
      = (next nth request).outcome.mapFault (Fault.tagged b.tags?.toList) := by
  cases b with
  | errorContext operation => rfl
  | trace operation | metrics operation => exact (Outcome.mapFault_id _).symm

theorem ends_middleware : (b.middleware next nth request).ends = (next nth request).ends := by
  rw [Invocation.ends, Invocation.ends, delay_middleware, outcome_middleware,
    Outcome.isComplete_mapFault]

/-- A layer that counts counts a call that runs to its end once. -/
theorem events_middleware :
    (b.middleware next nth request).events
      = (next nth request).events
        ++ if (next nth request).ends then counted b.counts?.toList (next nth request).outcome.isOk
          else [] := by
  cases b with
  | trace operation | errorContext operation =>
    show (next nth request).events = _ ++ if _ then [] else []
    rw [ite_self, List.append_nil]
  | metrics operation =>
    rw [Invocation.events, Invocation.events, Invocation.ends]
    show (next nth request).atOnce ++ (if (next nth request).delay.isSome then
      (next nth request).later ++ (if (next nth request).outcome.isComplete then
        [.counted operation (next nth request).outcome.isOk] else []) else []) = _
    cases (next nth request).delay.isSome with
    | false => simp
    | true => simp [counted, counts?]

end Single

def layer (b : BuiltIn) : Layer where
  around := b.middleware
  passes _ request := request
  entering _ _ := []
  meanwhile _ _ _ _ := []
  leaving _ _ _ o := counted b.counts?.toList o.isOk
  strewn next nth request := .of_eq (b.events_middleware next nth request)
  ends_eq := b.ends_middleware

/-- What the layers `stack` make of a call `inner` below them. -/
structure Decorates (stack : List BuiltIn) (inner outer : Invocation) : Prop where
  /-- The call below is made at once, ... -/
  atOnce_eq : outer.atOnce = inner.atOnce
  /-- ... and what comes of it comes when it comes below. -/
  delay_eq : outer.delay = inner.delay
  /-- Apart from what is observed of the call below, there is one count for each layer that counts, if
  the call runs to its end. -/
  events_eq : outer.events = inner.events
    ++ if inner.ends then counted (stack.filterMap counts?).reverse inner.outcome.isOk else []
  /-- All that becomes of the outcome is that a fault is tagged by each layer that tags. -/
  outcome_eq : outer.outcome = inner.outcome.mapFault (Fault.tagged (stack.filterMap tags?))

namespace Decorates

variable {stack : List BuiltIn} {inner outer : Invocation}

theorem ends_eq (h : Decorates stack inner outer) : outer.ends = inner.ends := by
  rw [Invocation.ends, Invocation.ends, h.delay_eq, h.outcome_eq, Outcome.isComplete_mapFault]

theorem isOk_eq (h : Decorates stack inner outer) : outer.outcome.isOk = inner.outcome.isOk := by
  rw [h.outcome_eq, Outcome.isOk_mapFault]

theorem cons {next : Callee} {nth : Nat} {request : String}
    (h : Decorates stack inner (next nth request)) (b : BuiltIn) :
    Decorates (b :: stack) inner (b.middleware next nth request) := by
  constructor
  · rw [atOnce_middleware, h.atOnce_eq]
  · rw [delay_middleware, h.delay_eq]
  · -- the layer counts after those that are below it
    have hcounts : ((b :: stack).filterMap counts?).reverse
        = (stack.filterMap counts?).reverse ++ b.counts?.toList := by
      cases b with
      | metrics operation => exact List.reverse_cons ..
      | trace operation | errorContext operation => exact (List.append_nil _).symm
    rw [events_middleware, h.ends_eq, h.isOk_eq, h.events_eq, hcounts, counted, counted, counted,
      List.map_append]
    cases inner.ends with
    | false => simp only [Bool.false_eq_true, if_false, List.append_nil]
    | true => simp only [if_true, List.append_assoc]
  · have htags : (b :: stack).filterMap tags? = b.tags?.toList ++ stack.filterMap tags? := by
      cases b <;> rfl
    rw [outcome_middleware, h.outcome_eq, Outcome.mapFault_mapFault, htags]
    exact congrArg (inner.outcome.mapFault ·) (funext fun f => (Fault.tagged_append ..).symm)

end Decorates

/-- **What the program's layers make of a call**, by induction on the stack. -/
theorem decorates_chainList (stack : List BuiltIn) (callee : Callee) (nth : Nat)
    (request : String) :
    Decorates stack (callee nth request)
      (chainList (stack.map middleware) callee nth request) := by
  induction stack with
  | nil =>
    refine ⟨rfl, rfl, ?_, (Outcome.mapFault_id _).symm⟩
    show (callee nth request).events = _ ++ if _ then [] else []
    rw [ite_self, List.append_nil]
  | cons b rest ih => exact ih.cons b

end BuiltIn

/-! ## The law -/

/-- **A chain is ordered composition.** A call of a chain of layers goes through all of them in order;
of any middlewares, a chain may be stacked below another one; and what the program's layers do, in any
order and number, is to count a call that runs to its end, each layer once, and to tag its fault. They
make the call below at once and once, with the same request, and pass a response on as it is. -/
theorem runsThrough_chain :
    (∀ (outer : Layer) (others : List Layer) (callee : Callee) (nth : Nat) (request : String),
      RunsThrough (outer :: others) callee nth request
        (chain outer.around (Layer.stack others) callee nth request)) ∧
    (∀ (a b : Middleware) (rest : List Middleware),
      chain a ([b] ++ rest) = chain a [chain b rest]) ∧
    ∀ (outer : BuiltIn) (others : List BuiltIn) (callee : Callee) (nth : Nat) (request : String),
      let inner := callee nth request
      let i := chain outer.middleware (others.map BuiltIn.middleware) callee nth request
      let operations := (outer :: others).filterMap BuiltIn.tags?
      RunsThrough ((outer :: others).map BuiltIn.layer) callee nth request i ∧
        BuiltIn.Decorates (outer :: others) inner i ∧
        (∀ text, inner.outcome = .response text → i.outcome = .response text) ∧
        (∀ f, inner.outcome = .fault f → ∃ g, i.outcome = .fault g ∧
          g.text = ": ".intercalate (operations ++ [f.text]) ∧
          g.chain = ((List.range operations.length).map fun k =>
            ": ".intercalate (operations.drop k ++ [f.text])) ++ f.chain) := by
  refine ⟨fun outer others => runsThrough_chainList (outer :: others), fun a b rest => rfl,
    fun outer others callee nth request => ?_⟩
  intro inner i operations
  have hlayers : Layer.stack ((outer :: others).map BuiltIn.layer)
      = (outer :: others).map BuiltIn.middleware := List.map_map
  have hthrough : RunsThrough ((outer :: others).map BuiltIn.layer) callee nth request i := by
    have h := runsThrough_chainList ((outer :: others).map BuiltIn.layer) callee nth request
    rwa [hlayers] at h
  have hdecorates : BuiltIn.Decorates (outer :: others) inner i :=
    BuiltIn.decorates_chainList (outer :: others) callee nth request
  refine ⟨hthrough, hdecorates, ?_, ?_⟩
  · intro text htext
    rw [hdecorates.outcome_eq, htext]
    rfl
  · intro f hf
    refine ⟨f.tagged operations, ?_, f.text_tagged operations, f.chain_tagged operations⟩
    rw [hdecorates.outcome_eq, hf]
    rfl

end Switchboard
