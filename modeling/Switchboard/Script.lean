import Switchboard.Callee
/-!
# Scripted callees

Callees that do what a list of actions says: the n-th call runs the n-th action, and the last
one runs over and over. Without any action a callee answers with its name and the request.

* `Action` — one entry of a script.
* `Script.callee` — the callee of a name and a script.
-/

namespace Switchboard

/-- What a scripted callee does for one call, after a delay in milliseconds. An echo is the name of
the callee with the request. -/
inductive Action
  | hang
  | panic (delay : Nat) (message : String)
  | answer (delay : Nat) (text : String)
  | fail (delay : Nat) (f : Fault)
  | echo (delay : Nat)
  deriving Inhabited

abbrev Script := List Action

namespace Action

/-- What a callee of a name does with a request. -/
def invocation (a : Action) (name request : String) : Invocation :=
  match a with
  | .hang => ⟨[.invoked request], none, [], .panic ""⟩
  | .panic delay message => ⟨[.invoked request], some delay, [], .panic message⟩
  | .answer delay text => ⟨[.invoked request], some delay, [], .response text⟩
  | .fail delay f => ⟨[.invoked request], some delay, [], .fault f⟩
  | .echo delay => ⟨[.invoked request], some delay, [], .response (name ++ ":" ++ request)⟩

end Action

namespace Script

/-- The action of the n-th call. -/
def action (s : Script) (nth : Nat) : Action := (s[nth]?).getD (s.getLast?.getD (.echo 0))

/-- The callee of a name and a script. -/
def callee (s : Script) (name : String) : Callee := fun nth request =>
  (s.action nth).invocation name request

end Script

end Switchboard
