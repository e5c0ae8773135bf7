import Switchboard.Callee
/-!
# Middleware

A middleware turns one callee into another that does something around it. Several are stacked
with `chain`: the first sees a request first and its outcome last.

* `Middleware.errorContext` — tags faults with an operation.
* `Middleware.metrics` — counts outcomes under an operation.
* `Middleware.trace` — leaves a call as it is; what it logs is below the levels that are shown.
* `Middleware.record`, `lengthen`, `reject` — note what passes, change requests, refuse calls.
* `chain` — the stack, and `chainList`, the same for a list that may be empty.
-/

namespace Switchboard

/-- From one callee to another. -/
abbrev Middleware := Callee → Callee

namespace Middleware

/-- Tags every fault with the operation that met it. -/
def errorContext (operation : String) : Middleware := fun next nth request =>
  let i := next nth request
  { i with outcome := i.outcome.mapFault (.operation operation) }

/-- Counts every call that runs to its end, as a success or as an error. -/
def metrics (operation : String) : Middleware := fun next nth request =>
  let i := next nth request
  { i with
    later :=
      i.later ++ if i.outcome.isComplete then [.counted operation i.outcome.isOk] else [] }

def trace (_operation : String) : Middleware := fun next nth request => next nth request

/-- Notes the request that goes in and whether the outcome that comes out is a success. -/
def record (layer : String) : Middleware := fun next nth request =>
  let i := next nth request
  { i with
    atOnce := .entered layer request :: i.atOnce
    later := i.later ++ if i.outcome.isComplete then [.left layer i.outcome.isOk] else [] }

/-- Appends to every request. -/
def lengthen (ending : String) : Middleware := fun next nth request => next nth (request ++ ending)

/-- Invokes what is below, but fails at once without waiting for it. -/
def reject (message : String) : Middleware := fun next nth request =>
  ⟨(next nth request).atOnce, some 0, [], .fault (.message message)⟩

end Middleware

/-- The stack of a list of middlewares, the first of them outermost. -/
def chainList (layers : List Middleware) : Middleware := fun callee =>
  layers.foldr (fun layer next => layer next) callee

/-- The stack of an outer middleware and others below it. -/
def chain (outer : Middleware) (others : List Middleware) : Middleware := fun callee =>
  outer (chainList others callee)

end Switchboard
