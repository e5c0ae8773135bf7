import Switchboard.Document
import Switchboard.Json
import Switchboard.Service
import Switchboard.Text.Numeral
/-!
# Queries and registrations as documents

How what is asked and what is announced is written down: as a record, or as the list of its
fields in order. Records are open, so fields of other names are passed over.

* `ServiceQuery.ofDocument`, `Registration.ofDocument` — from a document.
* `ServiceQuery.toJson`, `Registration.toJson` — to JSON, with a null for what is left out.
-/

namespace Switchboard

open Document

/-- Texts in a list. -/
def asTexts (d : Document) : Option (List String) := d.asList asText

def asOptionalText (d : Document) : Option (Option String) := d.asOptional asText

def asPort (d : Document) : Option Nat := d.asNatural Text.maxWord16

namespace ServiceQuery

def ofDocument (d : Document) : Option ServiceQuery := do
  let f ← d.fields ["service", "tags", "passing_only"] true
  return {
    service := ← f.required 0 asText
    tags := ← f.defaulted 1 asTexts []
    passingOnly := ← f.defaulted 2 asTruth false }

def toJson (q : ServiceQuery) : Json :=
  .record [("service", .text q.service), ("tags", .texts q.tags),
    ("passing_only", .bool q.passingOnly)]

end ServiceQuery

namespace HealthCheck

def ofDocument (d : Document) : Option HealthCheck := do
  let f ← d.fields ["http", "tcp", "interval", "timeout", "deregister_critical_service_after"] true
  return {
    http := ← f.defaulted 0 asOptionalText none
    tcp := ← f.defaulted 1 asOptionalText none
    interval := ← f.required 2 asText
    timeout := ← f.defaulted 3 asOptionalText none
    deregisterAfter := ← f.defaulted 4 asOptionalText none }

def toJson (c : HealthCheck) : Json :=
  .record [("http", .optional c.http), ("tcp", .optional c.tcp), ("interval", .text c.interval),
    ("timeout", .optional c.timeout),
    ("deregister_critical_service_after", .optional c.deregisterAfter)]

end HealthCheck

namespace Registration

def ofDocument (d : Document) : Option Registration := do
  let f ← d.fields ["id", "name", "address", "port", "tags", "namespace", "check"] true
  return {
    id := ← f.required 0 asText
    name := ← f.required 1 asText
    address := ← f.required 2 asText
    port := ← f.required 3 asPort
    tags := ← f.defaulted 4 asTexts []
    namespaceName := ← f.defaulted 5 asOptionalText none
    check := ← f.defaulted 6 (·.asOptional HealthCheck.ofDocument) none }

def toJson (r : Registration) : Json :=
  .record [("id", .text r.id), ("name", .text r.name), ("address", .text r.address),
    ("port", .natural r.port), ("tags", .texts r.tags), ("namespace", .optional r.namespaceName),
    ("check", match r.check with
      | none => .null
      | some c => c.toJson)]

end Registration

end Switchboard
