import LeaseLock.Number.Binary64

/-!
# The Fewest Digits that Read Back

The decimal number with the fewest digits among those that round to a given binary number;
of two with as few digits the nearer one. For each number of digits the two neighbours of the
number on that decimal grid are tried, in exact arithmetic: if any decimal number of the grid
rounds back, one of the two does.
-/

namespace LeaseLock.Binary64

/-- The number `digits * 10 ^ exponent`. -/
structure Decimal where
  digits : Nat
  exponent : Int
  deriving DecidableEq

/-- The quotient `num / den` in units of `10 ^ exponent`, as a quotient. -/
def scaleTen (num den : Nat) (exponent : Int) : Nat × Nat :=
  if exponent < 0 then (num * Nat.pow 10 exponent.natAbs, den)
  else (num, den * Nat.pow 10 exponent.natAbs)

/-- How many places after the point the first digit of `num / den < 1` stands. -/
def leadingPlaces (num den : Nat) : Nat → Nat
  | 0 => 0
  | fuel + 1 => if den ≤ num then 0 else leadingPlaces (num * 10) den fuel + 1

/-- The exponent of the first decimal digit of a quotient. -/
def magnitude (num den : Nat) : Int :=
  if num / den = 0 then -(leadingPlaces num den 400 : Int)
  else ((Nat.toDigits 10 (num / den)).length : Int) - 1

/-- The bounds of the interval that rounds to the number, in quarters of its last binary
digit. Below a power of two the numbers lie twice as close. -/
def bounds (x : Binary64) : Nat × Nat :=
  let low := if x.significand = leading ∧ -1074 < x.exponent then 1 else 2
  (4 * x.significand - low, 4 * x.significand + 2)

/-- Whether a decimal number rounds to the number. -/
def isNear (x : Binary64) (d : Decimal) : Bool :=
  let (n, m) := scaleTen d.digits 1 (-d.exponent)
  let (n, m) := scale n m (x.exponent - 2)
  let (low, high) := x.bounds
  if x.significand % 2 = 0 then low * m ≤ n && n ≤ high * m else low * m < n && n < high * m

/-- The decimal number with `count` digits that rounds to the number, if there is one. -/
def withDigits? (x : Binary64) (count : Nat) : Option Decimal :=
  let (num, den) := x.ratio
  let exponent := magnitude num den + 1 - count
  let (n, d) := scaleTen num den exponent
  let below := n / d
  let twice := 2 * (n % d)
  let downFirst := twice < d || (twice == d && below % 2 == 0)
  let candidates := if downFirst then [below, below + 1] else [below + 1, below]
  (candidates.map fun digits => ⟨digits, exponent⟩).find? x.isNear

/-- The shortest decimal number that rounds to the number. Seventeen digits always do. -/
def shortest (x : Binary64) : Decimal :=
  if x.significand = 0 then ⟨0, 0⟩
  else ((List.range' 1 17).findSome? x.withDigits?).getD ⟨0, 0⟩

end LeaseLock.Binary64
