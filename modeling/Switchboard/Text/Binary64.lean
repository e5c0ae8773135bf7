import Switchboard.Text.Numeral
/-!
# Binary fractions of 64 bits

Numbers with 53 binary digits and an exponent of two, read from decimal text to the nearest one,
and written with as few decimal digits as tell them apart.

* `Binary64` — a number, an infinity, or none at all.
* `Binary64.ofQuotient` — the nearest to a quotient; of two as near, the even one.
* `Binary64.read?` — from decimal text.
* `Binary64.text` — the shortest text that reads back, always with all places written out.
-/

namespace Switchboard.Text

/-- A number of 64 bits. -/
inductive Binary64
  | nan
  | infinite (isNegative : Bool)
  /-- A whole number of steps; each is a power of two. There are 2⁵² or more of them unless the
  step is the smallest. -/
  | finite (isNegative : Bool) (steps : Nat) (exponent : Int)
  deriving DecidableEq, Repr, Inhabited

namespace Binary64

def precision : Nat := 53

/-- The exponents of the smallest and of the largest step. -/
def minExponent : Int := -1074
@[inherit_doc minExponent] def maxExponent : Int := 971

/-- The quotient of two numbers when the divisor is multiplied by a power of two. -/
def scaled (num den : Nat) (exponent : Int) : Nat × Nat :=
  (num * Nat.pow 2 (-exponent).toNat, den * Nat.pow 2 exponent.toNat)

/-- The quotient of two numbers, to the nearest whole one; of two as near, the even one. -/
def nearest (num den : Nat) : Nat :=
  let q := num / den
  let twice := 2 * (num % den)
  if twice < den ∨ (twice = den ∧ q % 2 = 0) then q else q + 1

/-- The exponent of the step that a quotient takes: it leaves as many digits as there may be. -/
def exponentOf (num den : Nat) : Int :=
  let low : Int := (Nat.log2 num : Int) - Nat.log2 den - precision
  let (n, d) := scaled num den low
  max minExponent (if n / d < Nat.pow 2 precision then low else low + 1)

/-- The number that is nearest to a quotient. -/
def ofQuotient (isNegative : Bool) (num den : Nat) : Binary64 :=
  if num = 0 then .finite isNegative 0 minExponent
  else
    let e := exponentOf num den
    let (n, d) := scaled num den e
    let steps := nearest n d
    let (steps, e) :=
      if steps = Nat.pow 2 precision then (Nat.pow 2 (precision - 1), e + 1) else (steps, e)
    if maxExponent < e then .infinite isNegative else .finite isNegative steps e

/-! ## Reading -/

/-- Beyond so many places in front of the point, or zeros behind it, nothing but infinity or
zero is near. -/
def maxPlaces : Int := 400

/-- The number nearest to some digits times a power of ten. -/
def ofDecimal (isNegative : Bool) (digits : Nat) (exponent : Int) : Binary64 :=
  if digits = 0 then .finite isNegative 0 minExponent
  else
    let places := (Nat.toDigits 10 digits).length + exponent
    if maxPlaces < places then .infinite isNegative
    else if places < -maxPlaces then .finite isNegative 0 minExponent
    else
      ofQuotient isNegative (digits * Nat.pow 10 exponent.toNat)
        (Nat.pow 10 (-exponent).toNat)

def valueOf (cs : List Char) : Nat := cs.foldl (fun n c => 10 * n + (c.toNat - 48)) 0

/-- An exponent with its letter, or none. -/
def exponent? : List Char → Option Int
  | [] => some 0
  | mark :: rest =>
    let (isNegative, digits) :=
      match rest with
      | '-' :: ds => (true, ds)
      | '+' :: ds => (false, ds)
      | ds => (false, ds)
    if (mark = 'e' ∨ mark = 'E') ∧ digits ≠ [] ∧ digits.all isDigit then
      some (if isNegative then -(valueOf digits : Int) else valueOf digits)
    else none

/-- A number without a sign: digits on at least one side of a point, and an exponent. -/
def readDecimal? (isNegative : Bool) (cs : List Char) : Option Binary64 := do
  let whole := cs.takeWhile isDigit
  let rest := cs.dropWhile isDigit
  let (part, rest) :=
    match rest with
    | '.' :: more => (more.takeWhile isDigit, more.dropWhile isDigit)
    | rest => ([], rest)
  if whole.isEmpty && part.isEmpty then none
  let e ← exponent? rest
  return ofDecimal isNegative (valueOf (whole ++ part)) (e - part.length)

/-- A number without a sign, in digits or by name. -/
def readUnsigned? (isNegative : Bool) (cs : List Char) : Option Binary64 :=
  let name := String.ofList (cs.map Char.toLower)
  if name = "inf" ∨ name = "infinity" then some (.infinite isNegative)
  else if name = "nan" then some .nan
  else readDecimal? isNegative cs

def read? : List Char → Option Binary64
  | '-' :: rest => readUnsigned? true rest
  | '+' :: rest => readUnsigned? false rest
  | cs => readUnsigned? false cs

/-! ## The shortest digits

The decimals nearest to a number `steps · 2^exponent` are those between the middles to its two
neighbours. All are taken as multiples of a quarter of the step, so that middles are whole. -/

/-- The numbers whose nearest is a given one: from the low to the high end, in quarters of the
step; at a power of two the neighbour below is half as far. -/
def ends (steps : Nat) (exponent : Int) : Nat × Nat :=
  let isPower := steps = Nat.pow 2 (precision - 1) ∧ minExponent < exponent
  (4 * steps - (if isPower then 1 else 2), 4 * steps + 2)

/-- A decimal of so many digits times a power of ten, in quarters of the step, as a quotient. -/
def inQuarters (digits : Nat) (power exponent : Int) : Nat × Nat :=
  scaled (digits * Nat.pow 10 power.toNat) (Nat.pow 10 (-power).toNat) (exponent - 2)

/-- Is a decimal between the ends? The ends themselves are if the number is even. -/
def readsBack (steps : Nat) (exponent : Int) (digits : Nat) (power : Int) : Bool :=
  let (low, high) := ends steps exponent
  let (n, d) := inQuarters digits power exponent
  if steps % 2 = 0 then low * d ≤ n && n ≤ high * d else low * d < n && n < high * d

/-- The decimal on a grid that is nearest to a number, if it reads back; else the other of its
two neighbours there, if that does. -/
def onGrid? (steps : Nat) (exponent power : Int) : Option Nat :=
  let (n, d) := scaled (steps * Nat.pow 10 (-power).toNat) (Nat.pow 10 power.toNat) (-exponent)
  let below := n / d
  let isUpper := d ≤ 2 * (n % d)
  let reads (digits : Nat) : Bool := readsBack steps exponent digits power
  let (first, second) := if isUpper then (below + 1, below) else (below, below + 1)
  if reads first then some first else if reads second then some second else none

/-- The first grid with a decimal that reads back, from a power of ten downwards. -/
def shortestFrom (steps : Nat) (exponent : Int) : Nat → Int → Nat × Int
  | 0, power => (0, power)
  | grids + 1, power =>
    match onGrid? steps exponent power with
    | some digits => (digits, power)
    | none => shortestFrom steps exponent grids (power - 1)

/-- The fewest digits that read back, and the power of ten of the last one. -/
def shortest (steps : Nat) (exponent : Int) : Nat × Int :=
  let (n, d) := scaled steps 1 (-exponent)
  let power : Int :=
    if d ≤ n then (Nat.toDigits 10 (n / d)).length else 1 - (Nat.toDigits 10 (d / n)).length
  shortestFrom steps exponent 20 power

/-! ## Writing -/

/-- Digits times a power of ten with all places written out. -/
def placed (digits : Nat) (power : Int) : String :=
  let ds := Nat.toDigits 10 digits
  let whole := ds.length + power
  if 0 ≤ power then String.ofList (ds ++ List.replicate power.toNat '0')
  else if 0 < whole then String.ofList (ds.take whole.toNat ++ '.' :: ds.drop whole.toNat)
  else String.ofList ('0' :: '.' :: List.replicate (-whole).toNat '0' ++ ds)

def text : Binary64 → String
  | .nan => "NaN"
  | .infinite isNegative => (if isNegative then "-" else "") ++ "inf"
  | .finite isNegative steps exponent =>
    (if isNegative then "-" else "") ++
      if steps = 0 then "0"
      else
        let (digits, power) := shortest steps exponent
        placed digits power

end Binary64

end Switchboard.Text
