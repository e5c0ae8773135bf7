/-!
# Punycode

Labels of any script in letters, digits and hyphens. What is basic stands first, then a hyphen,
then for every other character, by ascending code point, how far it is from the one before:
counted over all places and code points that it could have had. Distances are written with the
least digit first; how many values of a digit end a number depends on the digit's place and on a
bias that follows the distances so far.

* `encode` — a label in punycode.
* `decode` — the label of a text in punycode, if it is one.
-/

namespace Switchboard.Text.Punycode

/-! ## Digits -/

/-- A digit of base 36: letters, then decimal digits. -/
def digit (n : Nat) : Char := if n < 26 then Char.ofNat (97 + n) else Char.ofNat (22 + n)

def digitValue? (c : Char) : Option Nat :=
  let n := c.toNat
  if 97 ≤ n ∧ n ≤ 122 then some (n - 97)
  else if 65 ≤ n ∧ n ≤ 90 then some (n - 65)
  else if 48 ≤ n ∧ n ≤ 57 then some (n - 22)
  else none

/-- The values below this end a number at a place, counted in steps of 36. -/
def threshold (place bias : Nat) : Nat := if place ≤ bias then 1 else min 26 (place - bias)

theorem threshold_pos (place bias : Nat) : 1 ≤ threshold place bias := by
  unfold threshold; split <;> omega

theorem threshold_le (place bias : Nat) : threshold place bias ≤ 26 := by
  unfold threshold; split <;> omega

/-- The bias for a distance that was made small, and the places that this took. -/
def settledBias (distance places : Nat) : Nat :=
  if 455 < distance then settledBias (distance / 35) (places + 36)
  else places + 36 * distance / (distance + 38)
termination_by distance
decreasing_by omega

/-- The bias after a distance, with so many characters in place by then. -/
def biasAfter (distance count : Nat) (isFirst : Bool) : Nat :=
  let scaled := if isFirst then distance / 700 else distance / 2
  settledBias (scaled + scaled / count) 0

def firstBias : Nat := 72

/-- The first code point that is not basic. -/
def firstCode : Nat := 128

/-- Is the character a basic one? -/
def isBasic (c : Char) : Bool := c.toNat < firstCode

/-! ## Encoding -/

/-- A number in digits, from a place on. -/
def digitsOf (bias place n : Nat) : List Char :=
  let t := threshold place bias
  if n < t then [digit n]
  else digit (t + (n - t) % (36 - t)) :: digitsOf bias (place + 36) ((n - t) / (36 - t))
termination_by n
decreasing_by
  have := threshold_pos place bias
  have := threshold_le place bias
  have := Nat.div_le_self (n - threshold place bias) (36 - threshold place bias)
  omega

/-- How far encoding has come. -/
structure Encoding where
  out : List Char := []
  /-- The distance since the last character that was written. -/
  distance : Nat := 0
  bias : Nat := firstBias
  /-- The characters written so far, basic ones included. -/
  count : Nat
  isFirst : Bool := true

/-- A character of the label is passed while those of a code point are written. -/
def Encoding.pass (code : Nat) (e : Encoding) (c : Char) : Encoding :=
  if c.toNat < code then { e with distance := e.distance + 1 }
  else if c.toNat = code then
    { out := e.out ++ digitsOf e.bias 36 e.distance
      distance := 0
      bias := biasAfter e.distance (e.count + 1) e.isFirst
      count := e.count + 1
      isFirst := false }
  else e

/-- The characters of the code points are written, which ascend from `next` on. -/
def Encoding.write (label : List Char) (e : Encoding) (next : Nat) : List Nat → Encoding
  | [] => e
  | code :: rest =>
    let e := { e with distance := e.distance + (code - next) * (e.count + 1) }
    let e := label.foldl (Encoding.pass code) e
    Encoding.write label { e with distance := e.distance + 1 } (code + 1) rest

/-- A label in punycode. -/
def encode (label : List Char) : List Char :=
  let basic := label.filter isBasic
  let codes := ((label.filter (!isBasic ·)).map Char.toNat).mergeSort.eraseDups
  let e := Encoding.write label { count := basic.length } firstCode codes
  basic ++ (if basic.isEmpty then [] else ['-']) ++ e.out

/-! ## Decoding -/

/-- A number in digits added to `sum`, from a place of weight `weight` on, and what follows. -/
def readDigits (bias place weight sum : Nat) : List Char → Option (Nat × List Char)
  | [] => none
  | c :: rest =>
    match digitValue? c with
    | none => none
    | some d =>
      let t := threshold place bias
      if d < t then some (sum + d * weight, rest)
      else readDigits bias (place + 36) (weight * (36 - t)) (sum + d * weight) rest

/-- What follows a number is shorter than what it was read from. -/
theorem length_lt_of_readDigits {bias place weight sum : Nat} {cs : List Char}
    {r : Nat × List Char} (h : readDigits bias place weight sum cs = some r) :
    r.2.length < cs.length := by
  induction cs generalizing place weight sum with
  | nil => simp [readDigits] at h
  | cons c rest ih =>
    rw [readDigits] at h
    split at h
    · exact absurd h (by simp)
    · simp only at h
      split at h
      · cases h; simp
      · exact Nat.lt_succ_of_lt (ih h)

/-- Is the number the code point of a character? -/
def isCode (n : Nat) : Bool := n < 0xD800 || (0xDFFF < n && n < 0x110000)

/-- Decodes on: `code` and `place` say where the next character is counted from. -/
def decodeFrom (bias code place : Nat) (out : List Char) (isFirst : Bool) :
    List Char → Option (List Char)
  | [] => some out
  | c :: rest =>
    match _h : readDigits bias 36 1 place (c :: rest) with
    | none => none
    | some (n, rest') =>
      let count := out.length + 1
      let code' := code + n / count
      if isCode code' then
        decodeFrom (biasAfter (n - place) count isFirst) code' (n % count + 1)
          (out.insertIdx (n % count) (Char.ofNat code')) false rest'
      else none
termination_by cs => cs.length
decreasing_by exact length_lt_of_readDigits (by assumption)

/-- The label of a text in punycode; the last hyphen ends the basic characters, if there are
any. -/
def decode (cs : List Char) : Option (List Char) :=
  let coded := (cs.reverse.takeWhile (· ≠ '-')).reverse
  let basic := cs.take (cs.length - coded.length - 1)
  if !cs.all isBasic then none
  else if basic.isEmpty then decodeFrom firstBias firstCode 0 [] true cs
  else decodeFrom firstBias firstCode 0 basic true coded

end Switchboard.Text.Punycode
