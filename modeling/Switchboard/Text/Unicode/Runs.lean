/-!
# Runs of code points

Tables of Unicode properties. The code points from zero on are cut into runs of one class each;
a table is written as the lengths of its runs, and the class of a code point is found by halving.

* `numbersOf` — the numbers that a table is written in.
* `Runs` — where each run ends, and its class.
* `Runs.alternating` — a set, written as the lengths of the runs outside and inside by turns.
* `Runs.classified` — a table of several classes.
* `Runs.classOf`, `Runs.contains` — looking up.
-/

namespace Switchboard.Text

/-! ## Written tables -/

/-- The value of a hexadecimal digit in lower case. -/
def tableDigit? (c : Char) : Option Nat :=
  if '0' ≤ c ∧ c ≤ '9' then some (c.toNat - 48)
  else if 'a' ≤ c ∧ c ≤ 'f' then some (c.toNat - 87)
  else none

/-- The numbers read so far, and the digits of the next. -/
def readTableChar (state : Array Nat × Option Nat) (c : Char) : Array Nat × Option Nat :=
  match tableDigit? c, state with
  | some d, (numbers, pending) => (numbers, some (16 * pending.getD 0 + d))
  | none, (numbers, some n) => (numbers.push n, none)
  | none, state => state

/-- The numbers of a text in hexadecimal, with anything else between them. -/
def numbersOf (s : String) : Array Nat :=
  match s.toList.foldl readTableChar (#[], none) with
  | (numbers, some n) => numbers.push n
  | (numbers, none) => numbers

/-! ## Runs -/

/-- A class for every code point. -/
structure Runs where
  /-- Where each run ends, in ascending order; its end is in the next run. -/
  ends : Array Nat := #[]
  classes : Array Nat := #[]
  deriving DecidableEq, Repr, Inhabited

namespace Runs

/-- The runs with another at their end. -/
def push (r : Runs) (length cls : Nat) : Runs :=
  ⟨r.ends.push (r.ends.back?.getD 0 + length), r.classes.push cls⟩

/-- The runs of lengths whose classes are zero and one by turns. -/
def ofLengths (r : Runs) (cls : Nat) : List Nat → Runs
  | [] => r
  | n :: rest => ofLengths (r.push n cls) (1 - cls) rest

/-- A set of code points: the lengths of the runs outside and inside by turns. -/
def alternating (s : String) : Runs := ofLengths {} 0 (numbersOf s).toList

/-- The runs of lengths and classes by turns. -/
def ofPairs (r : Runs) : List Nat → Runs
  | n :: cls :: rest => ofPairs (r.push n cls) rest
  | _ => r

/-- A table of several classes: the length and the class of each run by turns. -/
def classified (s : String) : Runs := ofPairs {} (numbersOf s).toList

/-- The first place from `lo` up to `hi` whose number is above `n`, in an ascending array. -/
def firstAbove (numbers : Array Nat) (n lo hi : Nat) : Nat :=
  if lo < hi then
    let mid := (lo + hi) / 2
    if (numbers[mid]?).any (· ≤ n) then firstAbove numbers n (mid + 1) hi
    else firstAbove numbers n lo mid
  else lo
termination_by hi - lo
decreasing_by all_goals omega

/-- The class of a code point; behind the last run it is zero. -/
def classOf (r : Runs) (n : Nat) : Nat :=
  (r.classes[firstAbove r.ends n 0 r.ends.size]?).getD 0

def contains (r : Runs) (c : Char) : Bool := r.classOf c.toNat == 1

end Runs

end Switchboard.Text
