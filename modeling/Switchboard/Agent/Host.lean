import Switchboard.Agent.Domain
import Switchboard.Text.Percent
/-!
# Hosts

The host in a URL: a name, or an address of either version of the internet protocol, in any of
the ways it may be written. Where a URL is of a scheme that every reader knows, a name is the
name of a domain; elsewhere it may be any text.

* `Host` — the host; `Host.text` — its one written form.
* `Host.read` — a host from text, where names are those of domains.
* `Host.readAny` — a host from text, where names are any text.
-/

namespace Switchboard.Agent

/-- Where a request goes. -/
inductive Host
  /-- A name to look up; an empty one is no host. -/
  | name (cs : List Char)
  | v4 (address : Nat)
  | v6 (groups : List Nat)
  deriving DecidableEq, Repr, Inhabited

namespace Host

/-- The parts between separators. -/
def parts (separator : Char) (cs : List Char) : List (List Char) := cs.splitOn separator

/-! ## Addresses of 32 bits -/

/-- The number of all digits of a base; no digits are zero. -/
def digitsOf (base : Nat) (cs : List Char) : Option Nat :=
  cs.foldl (fun value c => do
    let v ← value
    let d ← Text.digitValue? base c
    return base * v + d) (some 0)

/-- A number in decimal, or after a mark in octal or hexadecimal. -/
def numberOf : List Char → Option Nat
  | [] => none
  | '0' :: 'x' :: rest => digitsOf 16 rest
  | '0' :: 'X' :: rest => digitsOf 16 rest
  | '0' :: d :: rest => digitsOf 8 (d :: rest)
  | cs => digitsOf 10 cs

/-- The parts between dots; a dot at the end does not count. -/
def dotted (cs : List Char) : List (List Char) :=
  let ps := parts '.' cs
  if ps.getLast? = some [] then ps.dropLast else ps

/-- Is the last part a number? Then the host can only be an address. -/
def endsInNumber (cs : List Char) : Bool :=
  match (dotted cs).getLast? with
  | none => false
  | some part => (!part.isEmpty && part.all Text.isDigit) || (numberOf part).isSome

/-- What a number stands for that has `i` more to its right. -/
def weight (i : Nat) : Nat := Nat.pow 256 i

/-- An address from its numbers; the last one fills what the others leave. -/
def ofNumbers (numbers : List Nat) : Option Nat :=
  match numbers.getLast? with
  | none => none
  | some last =>
    let front := numbers.dropLast
    if front.length < 4 ∧ last < weight (4 - front.length) ∧ front.all (· ≤ 255) then
      some (front.zipIdx.foldl (fun sum p => sum + p.1 * weight (3 - p.2)) last)
    else none

def v4Of (cs : List Char) : Option Nat := ((dotted cs).mapM numberOf).bind ofNumbers

/-- The four numbers of an address between dots. -/
def v4Text (address : Nat) : String :=
  String.intercalate "." ([3, 2, 1, 0].map fun i => toString (address / weight i % 256))

/-! ## Addresses of 128 bits -/

/-- A group of up to four hexadecimal digits. -/
def groupOf (cs : List Char) : Option Nat :=
  if 1 ≤ cs.length ∧ cs.length ≤ 4 then digitsOf 16 cs else none

/-- A number from 0 to 255 without zeros in front. -/
def octetOf (cs : List Char) : Option Nat :=
  match cs with
  | [] => none
  | ['0'] => some 0
  | '0' :: _ => none
  | cs => (digitsOf 10 cs).filter (· ≤ 255)

/-- The two groups of four numbers between dots. -/
def groupsOfOctets (cs : List Char) : Option (List Nat) :=
  match (parts '.' cs).mapM octetOf with
  | some [a, b, c, d] => some [256 * a + b, 256 * c + d]
  | _ => none

/-- Groups between colons; the last of them may be four numbers between dots. -/
def groupsOf (cs : List Char) : Option (List Nat) :=
  if cs.isEmpty then some []
  else
    let ps := parts ':' cs
    match ps.getLast? with
    | none => some []
    | some last =>
      if last.contains '.' then do
        let front ← ps.dropLast.mapM groupOf
        let octets ← groupsOfOctets last
        return front ++ octets
      else ps.mapM groupOf

/-- The text in front of the first pair of colons, and the text behind it. -/
def splitPair : List Char → Option (List Char × List Char)
  | ':' :: ':' :: rest => some ([], rest)
  | c :: rest => (splitPair rest).map fun p => (c :: p.1, p.2)
  | [] => none

/-- An address of eight groups; one pair of colons stands for as many zeros as are missing. -/
def v6Of (cs : List Char) : Option (List Nat) :=
  match splitPair cs with
  | none => (groupsOf cs).filter (·.length = 8)
  | some (front, back) => do
    let front ← if front.contains '.' then none else groupsOf front
    let back ← groupsOf back
    if front.length + back.length < 8 then
      return front ++ List.replicate (8 - front.length - back.length) 0 ++ back
    else none

def zeros (groups : List Nat) : Nat := (groups.takeWhile (· = 0)).length

/-- The longest run of zeros, the first of several: where it starts, and its length. -/
def longestZeros (groups : List Nat) : Nat × Nat :=
  (List.range groups.length).foldl
    (fun best i =>
      let n := zeros (groups.drop i)
      if best.2 < n then (i, n) else best) (0, 0)

def groupsText (groups : List Nat) : String :=
  String.intercalate ":" (groups.map fun g => String.ofList (Nat.toDigits 16 g))

/-- The groups of an address, with a pair of colons for the longest run of several zeros. -/
def v6Text (groups : List Nat) : String :=
  let (start, length) := longestZeros groups
  if length < 2 then groupsText groups
  else groupsText (groups.take start) ++ "::" ++ groupsText (groups.drop (start + length))

/-! ## Hosts -/

/-- May the character not stand in the name of a domain? -/
def isForbidden (c : Char) : Bool :=
  c.toNat ≤ 32 || c.toNat = 127 || "#/:<>?@[\\]^|%".toList.contains c

/-- May the character not stand in any name? -/
def isForbiddenAnywhere (c : Char) : Bool :=
  "\x00\t\n\r #/:<>?@[\\]^|".toList.contains c

def isControl (c : Char) : Bool := c.toNat < 32 || 126 < c.toNat

/-- An address between brackets, after the first of them. -/
def readBracketed (cs : List Char) : Option Host :=
  if cs.getLast? = some ']' then (v6Of cs.dropLast).map .v6 else none

/-- The characters of a name in which some are written as bytes. -/
def plainOf? (cs : List Char) : Option (List Char) :=
  if cs.contains '%' then (Text.textOf? (Text.percentDecoded cs)).map String.toList else some cs

/-- The host of a domain's name, or of an address. -/
def ofName? (name : List Char) : Option Host :=
  if name.isEmpty || name.any isForbidden then none
  else if endsInNumber name then (v4Of name).map .v4
  else some (.name name)

/-- A host from text, where names are those of domains. -/
def read : List Char → Option Host
  | '[' :: rest => readBracketed rest
  | cs => do ofName? (← Domain.asciiName? (← plainOf? cs))

/-- A host from text, where names are any text, and may be empty. -/
def readAny : List Char → Option Host
  | '[' :: rest => readBracketed rest
  | cs =>
    if cs.any isForbiddenAnywhere then none else some (.name (Text.percentEncoded isControl cs))

def text : Host → String
  | .name cs => String.ofList cs
  | .v4 address => v4Text address
  | .v6 groups => "[" ++ v6Text groups ++ "]"

end Host

end Switchboard.Agent
