/-!
# Decimal numerals

Reading whole numbers from text: ASCII digits with an optional sign, into a range. Digits are
read from the left, and the first fault met decides, so a numeral that leaves the range before
a bad digit is too large, and a bad digit met first is reported as such.

* `NumeralFault` — why a text is no numeral of the range, with its wording.
* `readDigits` — digits of any base up to 36 into `0 … limit`.
* `readNatural` — an optional plus sign and decimal digits, into `0 … limit`.
* `readInteger` — an optional sign and decimal digits, into `-low … high`.
-/

namespace Switchboard.Text

/-- Why a text is not a numeral of the range asked for. -/
inductive NumeralFault
  | empty
  /-- A character is not a digit, or a sign stands alone. -/
  | badDigit
  | tooLarge
  | tooSmall
  deriving DecidableEq, Repr, Inhabited

def NumeralFault.message : NumeralFault → String
  | .empty => "cannot parse integer from empty string"
  | .badDigit => "invalid digit found in string"
  | .tooLarge => "number too large to fit in target type"
  | .tooSmall => "number too small to fit in target type"

/-- The value of a digit in a base of at most 36; letters stand for ten and above. -/
def digitValue? (base : Nat) (c : Char) : Option Nat :=
  let n := c.toNat
  let v :=
    if 48 ≤ n ∧ n ≤ 57 then n - 48
    else if 97 ≤ n ∧ n ≤ 122 then n - 87
    else if 65 ≤ n ∧ n ≤ 90 then n - 55
    else 36
  if v < base then some v else none

/-- Reads on from the value of the digits before; `excess` is the fault of leaving the range. -/
def readDigitsFrom (base limit : Nat) (excess : NumeralFault) (value : Nat) :
    List Char → Except NumeralFault Nat
  | [] => .ok value
  | c :: rest =>
    match digitValue? base c with
    | none => .error .badDigit
    | some d =>
      if limit < base * value + d then .error excess
      else readDigitsFrom base limit excess (base * value + d) rest

/-- At least one digit of the base, with a value of at most `limit`. -/
def readDigits (base limit : Nat) (excess : NumeralFault) : List Char → Except NumeralFault Nat
  | [] => .error .badDigit
  | cs => readDigitsFrom base limit excess 0 cs

/-- A natural number of at most `limit`, in digits of `base` after an optional plus sign. -/
def readNaturalIn (base limit : Nat) : List Char → Except NumeralFault Nat
  | [] => .error .empty
  | '+' :: rest => readDigits base limit .tooLarge rest
  | cs => readDigits base limit .tooLarge cs

/-- A natural number of at most `limit`, in decimal digits after an optional plus sign. -/
def readNatural (limit : Nat) (cs : List Char) : Except NumeralFault Nat :=
  readNaturalIn 10 limit cs

/-- An integer from `-low` to `high`, in digits of `base` after an optional sign. -/
def readIntegerIn (base low high : Nat) : List Char → Except NumeralFault Int
  | [] => .error .empty
  | '-' :: rest => (readDigits base low .tooSmall rest).map fun n => -(n : Int)
  | '+' :: rest => (readDigits base high .tooLarge rest).map Int.ofNat
  | cs => (readDigits base high .tooLarge cs).map Int.ofNat

/-- An integer from `-low` to `high`, in decimal digits after an optional sign. -/
def readInteger (low high : Nat) (cs : List Char) : Except NumeralFault Int :=
  readIntegerIn 10 low high cs

def maxWord16 : Nat := 65535

def maxWord64 : Nat := 18446744073709551615

/-- Is the character an ASCII decimal digit? -/
def isDigit (c : Char) : Bool := '0' ≤ c && c ≤ '9'

end Switchboard.Text
