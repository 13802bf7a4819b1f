import LeaseLock.Number.Width

/-!
# Punycode

The text that letters, digits and hyphens of ASCII stand for in a label. What comes before the
last hyphen stands for itself. What comes after it is a row of numbers, each of which says how far
it is to the next character that is put in: through all the places that the text has for it, and
through all code points in turn. The digits of a number have weights that adapt to the numbers
before it.
-/

namespace LeaseLock.Domain.Punycode

/-- The digits: letters, then the digits of decimal numbers. -/
def digit? (c : Char) : Option Nat :=
  if 'a' ≤ c ∧ c ≤ 'z' then some (c.toNat - 'a'.toNat)
  else if c.isDigit then some (c.toNat - '0'.toNat + 26)
  else none

/-- A text into which characters are put, and the number that is being read. -/
structure State where
  text : List Char
  /-- The code point of the latest character. -/
  code : Nat
  /-- The place that comes next, plus the number as far as it is read. -/
  place : Nat
  /-- The place at which the number starts. -/
  start : Nat
  bias : Nat
  weight : Nat
  /-- How far the next digit is from the bias: it grows by 36 from digit to digit. -/
  rank : Nat

namespace State

def init (text : List Char) : State := ⟨text, 128, 0, 0, 72, 1, 36⟩

/-- Whether the last number is complete. -/
def isBetween (s : State) : Bool := s.rank == 36

/-- A digit below the threshold is the last one of its number. -/
def threshold (s : State) : Nat := min 26 (max 1 (s.rank - s.bias))

end State

/-- The bias for a number after a distance has been read; it is divided down to the range of one
digit, at most `fuel` times. -/
def biasOf : Nat → Nat → Nat
  | 0, _ => 0
  | fuel + 1, distance =>
    if 455 < distance then 36 + biasOf fuel (distance / 35)
    else 36 * distance / (distance + 38)

/-- The bias after a distance to one of `places` places. -/
def adapt (distance places : Nat) (isFirst : Bool) : Nat :=
  let damped := if isFirst then distance / 700 else distance / 2
  biasOf 32 (damped + damped / places)

/-- The character of a code point. -/
def char? (n : Nat) : Option Char :=
  if h : n.isValidChar then some (Char.ofNatAux n h) else none

/-- Reads a digit. Numbers stay below `2 ^ 32`. -/
def step (s : State) (c : Char) : Option State := do
  let digit ← digit? c
  let place := s.place + digit * s.weight
  if Width.bits32 ≤ place then none
  else if digit < s.threshold then
    let places := s.text.length + 1
    let code := s.code + place / places
    let next := place % places
    let char ← char? code
    some { text := s.text.take next ++ char :: s.text.drop next
           code
           place := next + 1
           start := next + 1
           bias := adapt (place - s.start) places (s.start == 0)
           weight := 1
           rank := 36 }
  else
    let weight := s.weight * (36 - s.threshold)
    if Width.bits32 ≤ weight then none else some { s with place, weight, rank := s.rank + 36 }

/-- What stands for itself, and the digits. -/
def split (cs : List Char) : List Char × List Char :=
  match cs.reverse.span (· != '-') with
  | (digits, _ :: text) => if text.isEmpty then ([], cs) else (text.reverse, digits.reverse)
  | (_, []) => ([], cs)

/-- The text that small letters, digits and hyphens stand for. -/
def decode? (cs : List Char) : Option (List Char) := do
  let (text, digits) := split cs
  let s ← digits.foldlM step (State.init text)
  if s.isBetween then some s.text else none

end LeaseLock.Domain.Punycode
