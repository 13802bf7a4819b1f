/-!
# Spans of Time

A span is a whole number of nanoseconds, fewer than `2 ^ 64` seconds of them. Sums and
products that leave that range have no value, and `ofNanos` stops at the longest span.
-/

namespace LeaseLock

/-- A length of time, in whole nanoseconds. -/
@[ext]
structure Span where
  nanos : Nat
  nanos_lt : nanos < 18446744073709551616 * 1000000000
  deriving DecidableEq

namespace Span

/-- One more than the nanoseconds of the longest span. -/
abbrev limit : Nat := 18446744073709551616 * 1000000000

/-- The span of `n` nanoseconds, or the longest span if there is none that long. -/
def ofNanos (n : Nat) : Span :=
  ⟨min n (limit - 1), by unfold limit; omega⟩

theorem nanos_ofNanos {n : Nat} (h : n < limit) : (ofNanos n).nanos = n := by
  simp only [ofNanos, limit] at *
  omega

@[simp] theorem ofNanos_nanos (d : Span) : ofNanos d.nanos = d :=
  Span.ext (nanos_ofNanos d.nanos_lt)

def ofMillis (n : Nat) : Span := ofNanos (n * 1000000)

def ofSecs (n : Nat) : Span := ofNanos (n * 1000000000)

/-- The span of `n` nanoseconds, if there is one. -/
def ofNanos? (n : Nat) : Option Span :=
  if h : n < limit then some ⟨n, h⟩ else none

instance : Inhabited Span := ⟨ofNanos 0⟩

/-- No time at all. -/
def zero : Span := ofNanos 0

/-- The longest span. -/
def longest : Span := ofNanos limit

/-- Whole seconds. -/
def secs (d : Span) : Nat := d.nanos / 1000000000

/-- What is left beside the whole seconds, in nanoseconds. -/
def subsec (d : Span) : Nat := d.nanos % 1000000000

/-- Whole milliseconds. -/
def millis (d : Span) : Nat := d.nanos / 1000000

def isZero (d : Span) : Bool := d.nanos == 0

@[simp] theorem isZero_iff {d : Span} : d.isZero = true ↔ d.nanos = 0 := by simp [isZero]

instance : LT Span := ⟨fun a b => a.nanos < b.nanos⟩
instance : LE Span := ⟨fun a b => a.nanos ≤ b.nanos⟩
instance (a b : Span) : Decidable (a < b) := inferInstanceAs (Decidable (a.nanos < b.nanos))
instance (a b : Span) : Decidable (a ≤ b) := inferInstanceAs (Decidable (a.nanos ≤ b.nanos))

theorem lt_def {a b : Span} : a < b ↔ a.nanos < b.nanos := .rfl

theorem le_def {a b : Span} : a ≤ b ↔ a.nanos ≤ b.nanos := .rfl

def add? (a b : Span) : Option Span := ofNanos? (a.nanos + b.nanos)

def mul? (d : Span) (k : Nat) : Option Span := ofNanos? (d.nanos * k)

/-- A third of a span, rounded down to the nanosecond. -/
def third (d : Span) : Span := ⟨d.nanos / 3, Nat.lt_of_le_of_lt (Nat.div_le_self ..) d.nanos_lt⟩

/-! ### The written form -/

/-- `n` of the units that `unit` nanoseconds make, `places` digits below the unit: the
whole part, and the exact fraction without trailing zeros. -/
def decimal (n unit places : Nat) : String :=
  let fraction := Nat.toDigits 10 (n % unit)
  let padded := List.replicate (places - fraction.length) '0' ++ fraction
  let shown := (padded.reverse.dropWhile (· == '0')).reverse
  let whole := Nat.toDigits 10 (n / unit)
  String.ofList (if shown.isEmpty then whole else whole ++ '.' :: shown)

/-- A span in the largest of the units `s`, `ms`, `µs` and `ns` of which it holds one. -/
def text (d : Span) : String :=
  if d.nanos ≥ 1000000000 then decimal d.nanos 1000000000 9 ++ "s"
  else if d.nanos ≥ 1000000 then decimal d.nanos 1000000 6 ++ "ms"
  else if d.nanos ≥ 1000 then decimal d.nanos 1000 3 ++ "µs"
  else decimal d.nanos 1 0 ++ "ns"

end Span
end LeaseLock
