import Switchboard.Text.Outline
/-!
# Discovery failures

Why a discovery backend could not answer. Two failures are compared by kind and contents, so
that a failure that repeats is seen not to be news.

* `DiscoveryFailure` — the kinds.
* `DiscoveryFailure.text` — what a reader of an error message sees.
* `DiscoveryFailure.outline`, `DiscoveryFailure.detail` — the kind and the quoted message, as log
  fields show them.
-/

namespace Switchboard

/-- A failure reported by a discovery backend. -/
inductive DiscoveryFailure
  | transport (message : String)
  | status (code : Nat) (message : String)
  | codec (message : String)
  /-- The watch was stopped before an answer came. -/
  | stopped
  deriving DecidableEq, Repr, Inhabited

namespace DiscoveryFailure

def text : DiscoveryFailure → String
  | .transport message => "transport error: " ++ message
  | .status code message => "backend returned status " ++ toString code ++ ": " ++ message
  | .codec message => "codec error: " ++ message
  | .stopped => "discovery stopped"

/-- The failure with its kind, for inspection. -/
def outline : DiscoveryFailure → Text.Outline
  | .transport message => .tuple "Transport" [.ofText message]
  | .status code message =>
    .record "Status" [("code", .ofNat code), ("message", .ofText message)]
  | .codec message => .tuple "Codec" [.ofText message]
  | .stopped => .atom "Stopped"

/-- The failure with its kind, as log fields show it. -/
def detail (why : DiscoveryFailure) : String := why.outline.inline

end DiscoveryFailure

end Switchboard
