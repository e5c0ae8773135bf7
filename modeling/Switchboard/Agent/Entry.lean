import Switchboard.Document
import Switchboard.Service
import Switchboard.Text.Numeral
/-!
# What the agent lists

The entries that the agent lists for a service: each an instance, with the node it runs on. The
agent filters by one tag only, so further tags are looked for here.

* `Node`, `ServiceRecord`, `Entry` — an entry and its parts.
* `Entry.ofDocument`, `Entry.listOf` — entries from a document.
* `Entry.address` — the address of an entry.
* `Entry.keeps` — does an entry carry the tags that the agent was not asked for?
-/

namespace Switchboard.Agent

open Document

/-- A node that instances run on. -/
structure Node where
  name : String
  address : String
  deriving DecidableEq, Repr, Inhabited

/-- An instance as the agent lists it. -/
structure ServiceRecord where
  id : String
  service : String
  /-- The tags; the agent writes a null for none. -/
  tags : Option (List String)
  /-- The host of the instance; without one it is that of the node. -/
  address : String
  port : Nat
  deriving DecidableEq, Repr, Inhabited

/-- An entry of the agent's list. -/
structure Entry where
  node : Node
  service : ServiceRecord
  deriving DecidableEq, Repr, Inhabited

def Node.ofDocument (d : Document) : Option Node := do
  let f ← d.fields ["Node", "Address"] true
  return {
    name := ← f.defaulted 0 asText ""
    address := ← f.defaulted 1 asText "" }

def ServiceRecord.ofDocument (d : Document) : Option ServiceRecord := do
  let f ← d.fields ["ID", "Service", "Tags", "Address", "Port"] true
  return {
    id := ← f.defaulted 0 asText ""
    service := ← f.defaulted 1 asText ""
    tags := ← f.defaulted 2 (·.asOptional (·.asList asText)) none
    address := ← f.defaulted 3 asText ""
    port := ← f.defaulted 4 (·.asNatural Text.maxWord16) 0 }

namespace Entry

def ofDocument (d : Document) : Option Entry := do
  let f ← d.fields ["Node", "Service"] true
  return {
    node := ← f.required 0 Node.ofDocument
    service := ← f.required 1 ServiceRecord.ofDocument }

/-- The entries that a document lists; with one that is none there is no list at all. -/
def listOf (d : Document) : Option (List Entry) := d.asList ofDocument

/-- The host of an entry. -/
def host (e : Entry) : String :=
  if e.service.address.isEmpty then e.node.address else e.service.address

/-- The `host:port` of an entry. -/
def address (e : Entry) : String := instanceAddress e.host e.service.port

/-- Does an entry carry every tag after the first? The agent was asked for the first. -/
def keeps (tags : List String) (e : Entry) : Bool :=
  tags.tail.all fun t => (e.service.tags.getD []).contains t

/-- The entries that carry every tag after the first. -/
def kept (tags : List String) (entries : List Entry) : List Entry := entries.filter (keeps tags)

def addresses (entries : List Entry) : List String := entries.map address

end Entry

end Switchboard.Agent
