import Switchboard.Logging.Directive
/-!
# Filters on log lines

Which log lines are let through: directives, of which the most specific one that covers a line
judges it.

* `LogFilter` — directives, at most one for each scope.
* `LogFilter.read` — the filter of a text, with the noise of the HTTP stack kept out; a text
  that is no filter counts as `info`.
* `LogFilter.lets` — is a line let through?
-/

namespace Switchboard

/-- Directives, at most one for each scope. -/
structure LogFilter where
  /-- Those that can be judged by a line alone. -/
  static : List Directive := []
  /-- Those that look at spans or fields. -/
  dynamic : List Directive := []
  deriving DecidableEq, Repr, Inhabited

namespace LogFilter

/-- Directives with another, which takes the place of one of its scope. -/
def put (ds : List Directive) (d : Directive) : List Directive :=
  ds.filter (fun e => !e.sameScope d) ++ [d]

/-- The filter of directives. One that looks at fields but can be judged by a line alone goes on
both sides, behind all others. -/
def ofDirectives (ds : List Directive) : LogFilter where
  static :=
    (ds.filter (!·.isDynamic) ++ ds.filter fun d => d.isDynamic && d.isStatic).foldl put []
  dynamic := (ds.filter (·.isDynamic)).foldl put []

/-- The directives between commas; if one of them cannot be read, none can. -/
def readDirectives (s : String) : Option (List Directive) :=
  ((s.splitOn ",").filter fun p => !p.isEmpty).mapM Directive.read

/-- The directives when the text for them cannot be read. -/
def fallback : List Directive := [{ threshold := .info }]

/-- The directives that hold whatever the text says. -/
def standing : List Directive :=
  [{ target := some "hyper", threshold := .off }, { target := some "reqwest", threshold := .info }]

def read (s : String) : LogFilter :=
  let f := ofDirectives ((readDirectives s).getD fallback)
  { f with static := standing.foldl put f.static }

def texts (f : LogFilter) : List String :=
  (f.static ++ f.dynamic).map Directive.text |>.mergeSort fun a b => a ≤ b

/-- Is a line of this level and target, with these fields, let through? No line is in a span. -/
def lets (f : LogFilter) (level : LogLevel) (target : String) (fields : List String) : Bool :=
  let covering := f.static.filter fun d => d.covers target fields
  match covering.find? fun d => covering.all fun e => e.rank d != .gt with
  | some d => d.threshold.lets level
  | none => false

end LogFilter

end Switchboard
