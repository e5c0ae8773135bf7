import Switchboard.Agent.Url
/-!
# URLs that can be sent to

What may stand in a URL and what may stand in a request are not quite the same: a request takes
no URL of great length, and is stricter about hosts.

* `HostScan` — what there was so far of a host with its port and credentials.
* `Url.isSendable` — can the URL stand in a request?
-/

namespace Switchboard.Agent

/-- May the character stand in a request in front of the path? -/
def isInAuthority (c : Char) : Bool := c.isAlphanum || "!$&'()*+,-.:;=@[]_~".toList.contains c

/-- What there was so far in front of the path. -/
structure HostScan where
  /-- The colons since the last at sign or closing bracket. -/
  colons : Nat := 0
  hasPercent : Bool := false
  isOpened : Bool := false
  isClosed : Bool := false
  endsAtSign : Bool := false
  deriving DecidableEq, Repr, Inhabited

namespace HostScan

def maxColons : Nat := 8

/-- One more character, if it may stand there. -/
def next (s : HostScan) (c : Char) : Option HostScan :=
  let s' := { s with endsAtSign := c = '@' }
  if c = ':' then if s.colons < maxColons then some { s' with colons := s.colons + 1 } else none
  else if c = '[' then
    if s.hasPercent || s.isOpened then none else some { s' with isOpened := true }
  else if c = ']' then
    if !s.isOpened || s.isClosed then none
    else some { s' with isClosed := true, colons := 0, hasPercent := false }
  else if c = '@' then some { s' with colons := 0, hasPercent := false }
  else if c = '%' then some { s' with hasPercent := true }
  else if isInAuthority c then some s'
  else none

/-- May it all stand in a request? -/
def isDone (s : HostScan) : Bool :=
  s.isOpened == s.isClosed && s.colons ≤ 1 && !s.hasPercent && !s.endsAtSign

end HostScan

/-- May the text stand in front of the path in a request? -/
def isAuthority (cs : List Char) : Bool := (cs.foldlM HostScan.next {}).any HostScan.isDone

namespace Url

/-- The longest URL, and the longest scheme, that a request takes. -/
def maxLength : Nat := 65534
@[inherit_doc maxLength] def maxScheme : Nat := 64

/-- Can the URL stand in a request? With a host it needs one that fits; without one all of it has
to fit in the place of a host. -/
def isSendable (url : Url) : Bool :=
  let cs := url.text.toList
  cs.length ≤ maxLength &&
    match (cs.drop url.scheme.length) with
    | ':' :: '/' :: '/' :: rest =>
      let authority := rest.takeWhile fun c => c != '/' && c != '?' && c != '#'
      url.scheme.length ≤ maxScheme && !authority.isEmpty && isAuthority authority
    | _ => isAuthority cs

end Url

end Switchboard.Agent
