/-!
# Durations

A span of time, counted exactly in nanoseconds. A duration is at most 2^64 - 1 seconds and
999999999 nanoseconds; the operations here stay within that bound and saturate at it.

* `Duration` — the span; `Duration.max` is the longest.
* `Duration.ofSeconds`, `Duration.ofMillis` — whole seconds and milliseconds.
* `Duration.double` — twice as long, saturating.
* `Duration.ticks` — the milliseconds a timer needs to cover it: a part of one counts whole.
* `Duration.text` — the shortest exact text, `1.5s`, `250ms`, `10µs` or `0ns`.
-/

namespace Switchboard

/-- A span of time in nanoseconds. -/
structure Duration where
  /-- The whole span, in nanoseconds. -/
  nanos : Nat
  deriving DecidableEq, Repr, Inhabited

namespace Duration

def perSecond : Nat := 1000000000

def perMilli : Nat := 1000000

/-- The longest duration: 2^64 - 1 seconds and all but one nanosecond of another. -/
def max : Duration := ⟨18446744073709551615 * perSecond + 999999999⟩

def zero : Duration := ⟨0⟩

def ofSeconds (n : Nat) : Duration := ⟨n * perSecond⟩

def ofMillis (n : Nat) : Duration := ⟨n * perMilli⟩

def isZero (d : Duration) : Bool := d.nanos == 0

def seconds (d : Duration) : Nat := d.nanos / perSecond

/-- The nanoseconds beyond the whole seconds. -/
def subsecond (d : Duration) : Nat := d.nanos % perSecond

instance : LE Duration := ⟨fun a b => a.nanos ≤ b.nanos⟩

instance : LT Duration := ⟨fun a b => a.nanos < b.nanos⟩

instance (a b : Duration) : Decidable (a ≤ b) := inferInstanceAs (Decidable (a.nanos ≤ b.nanos))

instance (a b : Duration) : Decidable (a < b) := inferInstanceAs (Decidable (a.nanos < b.nanos))

def least (a b : Duration) : Duration := ⟨Nat.min a.nanos b.nanos⟩

def greatest (a b : Duration) : Duration := ⟨Nat.max a.nanos b.nanos⟩

/-- Twice as long, but never longer than the longest duration. -/
def double (d : Duration) : Duration := ⟨Nat.min (2 * d.nanos) max.nanos⟩

/-- The milliseconds after which a timer set for this long is due; a part of one counts whole. -/
def ticks (d : Duration) : Nat := (d.nanos + (perMilli - 1)) / perMilli

/-- A longer duration takes no fewer ticks. -/
theorem ticks_mono {a b : Duration} (h : a ≤ b) : a.ticks ≤ b.ticks := by
  have h' : a.nanos ≤ b.nanos := h
  simp only [ticks, perMilli]; omega

/-- The digits after the point: `part` out of ten to the `width`, zeros at the end left off. -/
def fractionText (part width : Nat) : String :=
  let digits := (Nat.toDigits 10 part)
  let padded := List.replicate (width - digits.length) '0' ++ digits
  let kept := (padded.reverse.dropWhile (· == '0')).reverse
  if kept.isEmpty then "" else String.ofList ('.' :: kept)

/-- The exact text, in the largest unit of which there is at least one. -/
def text (d : Duration) : String :=
  if perSecond ≤ d.nanos then
    toString (d.nanos / perSecond) ++ fractionText (d.nanos % perSecond) 9 ++ "s"
  else if perMilli ≤ d.nanos then
    toString (d.nanos / perMilli) ++ fractionText (d.nanos % perMilli) 6 ++ "ms"
  else if 1000 ≤ d.nanos then
    toString (d.nanos / 1000) ++ fractionText (d.nanos % 1000) 3 ++ "µs"
  else toString d.nanos ++ "ns"

end Duration

end Switchboard
