import Switchboard.Failure
/-!
# Faults of calls

What can go wrong in a call, as a tree: every fault has a text and at most one direct cause, and
the chain of a fault is its text, the text of its cause, and so on down to the root.

* `Fault` — any fault: a bare message, a fault with context, one tagged with the operation that
  met it, or a failure of a whole call.
* `CallFailure` — how a call through the resolver fails: no endpoint, deadline, cancellation,
  every attempt failed, or discovery down.
* `RetryRecord` — the faults of the attempts of one call, in order, and the fault put in place
  of the last one, if any.
* `Fault.text`, `Fault.chain`, `Fault.report` — one line, the causes, and both over several
  lines.
-/

namespace Switchboard

mutual

/-- A fault with all that led to it. -/
inductive Fault
  | message (text : String)
  | discovery (why : DiscoveryFailure)
  /-- A fault seen as part of something larger, whose text stands in front. -/
  | context (text : String) (cause : Fault)
  | operation (name : String) (cause : Fault)
  | call (failure : CallFailure)

/-- How a call through the resolver fails. -/
inductive CallFailure
  | noEndpoints
  | deadlineExceeded
  | cancelled
  /-- Every attempt failed: their faults in order, and the fault that replaces the last. -/
  | exhausted (raw : List Fault) (final : Option Fault)
  /-- Discovery fails, and its grace window is over. -/
  | discovery (why : DiscoveryFailure)

end

instance : Inhabited Fault := ⟨.message ""⟩

instance : Inhabited CallFailure := ⟨.noEndpoints⟩

/-- The faults of the attempts of one call, and the terminal one if it was replaced. -/
structure RetryRecord where
  /-- One fault per attempt, in order. -/
  raw : List Fault := []
  /-- The fault that stands for the whole call in place of the last attempt's. -/
  final : Option Fault := none
  deriving Inhabited

namespace RetryRecord

def push (r : RetryRecord) (f : Fault) : RetryRecord := ⟨r.raw ++ [f], r.final⟩

def conclude (r : RetryRecord) (f : Fault) : RetryRecord := ⟨r.raw, some f⟩

/-- The number of failed attempts. -/
def attempts (r : RetryRecord) : Nat := r.raw.length

/-- The failure of a call that has this record. -/
def toFailure (r : RetryRecord) : CallFailure := .exhausted r.raw r.final

/-- The text of a record from the texts of its faults. -/
def textOf (raw : List String) (final : Option String) : String :=
  (final.orElse fun _ => raw.getLast?).getD "retry failed without attempts"
    ++ if raw.length > 1 then
      " (previously: " ++ String.intercalate "; " raw.dropLast ++ ")"
    else ""

end RetryRecord

/-! ## Texts -/

mutual

def Fault.text : Fault → String
  | .message text => text
  | .discovery why => why.text
  | .context text _ => text
  | .operation name cause => name ++ ": " ++ cause.text
  | .call failure => failure.text

def CallFailure.text : CallFailure → String
  | .noEndpoints => "no endpoints available"
  | .deadlineExceeded => "deadline exceeded"
  | .cancelled => "operation cancelled"
  | .exhausted raw final => RetryRecord.textOf (Fault.texts raw) (Fault.text? final)
  | .discovery why => "discovery failed: " ++ why.text

def Fault.texts : List Fault → List String
  | [] => []
  | f :: rest => f.text :: Fault.texts rest

def Fault.text? : Option Fault → Option String
  | none => none
  | some f => some f.text

end

/-! ## Chains -/

mutual

/-- The text of a fault and of its causes, outermost first. -/
def Fault.chain : Fault → List String
  | .message text => [text]
  | .discovery why => [why.text]
  | .context text cause => text :: cause.chain
  | .operation name cause => (name ++ ": " ++ cause.text) :: cause.chain
  | .call failure => failure.chain

/-- The text of a failed call and of its causes. The cause of an exhausted call is the terminal
fault, or else the fault of the last attempt. -/
def CallFailure.chain : CallFailure → List String
  | .noEndpoints => ["no endpoints available"]
  | .deadlineExceeded => ["deadline exceeded"]
  | .cancelled => ["operation cancelled"]
  | .exhausted raw final =>
    RetryRecord.textOf (Fault.texts raw) (Fault.text? final)
      :: ((Fault.chain? final).getD (Fault.lastChain raw))
  | .discovery why => ["discovery failed: " ++ why.text, why.text]

/-- The chain of a fault that may be missing. -/
def Fault.chain? : Option Fault → Option (List String)
  | none => none
  | some f => some f.chain

/-- The chain of the last of several faults; empty if there is none. -/
def Fault.lastChain : List Fault → List String
  | [] => []
  | [f] => f.chain
  | _ :: rest => Fault.lastChain rest

end

namespace CallFailure

def source? (f : CallFailure) : Option String := f.chain[1]?

def isNoEndpoints : CallFailure → Bool
  | .noEndpoints => true
  | _ => false

def isDeadlineExceeded : CallFailure → Bool
  | .deadlineExceeded => true
  | _ => false

def isCancelled : CallFailure → Bool
  | .cancelled => true
  | _ => false

end CallFailure

namespace Fault

/-- The failed call that a fault is, whatever context it was given. -/
def asCall? : Fault → Option CallFailure
  | .call failure => some failure
  | .context _ cause => cause.asCall?
  | _ => none

/-- The operation that a fault is tagged with, whatever context it was given. -/
def asOperation? : Fault → Option String
  | .operation name _ => some name
  | .context _ cause => cause.asOperation?
  | _ => none

/-- The words for a task that broke down with a message. -/
def panicText (message : String) : String := "task # panicked with message " ++ Text.quoted message

/-- A number in five columns and a colon. -/
def causeNumber (n : Nat) : String :=
  let digits := toString n
  "".pushn ' ' (5 - digits.length) ++ digits ++ ": "

/-- A cause under its heading: `first` in front of its first line, `rest` in front of others. -/
def indented (first rest text : String) : String :=
  first ++ String.intercalate ("\n" ++ rest) (text.splitOn "\n")

/-- The causes below a text, numbered if there are several. -/
def causesText : List String → String
  | [] => ""
  | [cause] => "\n\nCaused by:\n" ++ indented "    " "    " cause
  | causes =>
    "\n\nCaused by:" ++ String.join (causes.zipIdx.map fun p =>
      "\n" ++ indented (causeNumber p.2) "       " p.1)

/-- A fault over several lines: its text, and under a heading its causes. -/
def report (f : Fault) : String := f.text ++ causesText f.chain.tail

end Fault

/-! ## Lemmas -/

theorem Fault.texts_eq_map (fs : List Fault) : Fault.texts fs = fs.map Fault.text := by
  induction fs with
  | nil => simp [Fault.texts]
  | cons f rest ih => simp [Fault.texts, ih]

theorem Fault.text?_eq_map (f : Option Fault) : Fault.text? f = f.map Fault.text := by
  cases f <;> simp [Fault.text?]

theorem Fault.chain?_eq_map (f : Option Fault) : Fault.chain? f = f.map Fault.chain := by
  cases f <;> simp [Fault.chain?]

end Switchboard
