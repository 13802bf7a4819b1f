import LeaseLock.Number.Shortest
import LeaseLock.Text.Quoted

/-!
# What is Wrong with a Document

A document is malformed, or it is well formed and does not hold what is looked for. In the
second case the fault says what was found and what was expected.
-/

namespace LeaseLock.Json

/-- A number as it is written: without fraction and exponent, and not too great, it is an
integer, and otherwise it is rounded. -/
inductive Number
  /-- An integer below `2 ^ 64`. -/
  | natural (n : Nat)
  /-- The integer `-n`, with `0 < n ≤ 2 ^ 63`. -/
  | negative (n : Nat)
  | real (minus : Bool) (x : Binary64)
  deriving DecidableEq

/-- The layout of a rounded number: positional if its first digit is at most five places
after the point and at most sixteen before it, and with an exponent otherwise. -/
def realText (x : Binary64) : List Char :=
  let decimal := x.shortest
  let all := Nat.toDigits 10 decimal.digits
  let digits := (all.reverse.dropWhile (· == '0')).reverse
  let digits := if digits.isEmpty then ['0'] else digits
  let first : Int := all.length - 1 + decimal.exponent
  if x.significand = 0 then ['0', '.', '0']
  else if 0 ≤ first ∧ first < 16 then
    let whole := first.toNat + 1
    let padded := digits ++ List.replicate (whole - digits.length) '0'
    let fraction := padded.drop whole
    padded.take whole ++ '.' :: (if fraction.isEmpty then ['0'] else fraction)
  else if -5 ≤ first ∧ first < 0 then
    ['0', '.'] ++ List.replicate (first.natAbs - 1) '0' ++ digits
  else
    let mark := if first < 0 then '-' else '+'
    digits.take 1 ++ (if digits.length = 1 then [] else '.' :: digits.drop 1) ++
      'e' :: mark :: Nat.toDigits 10 first.natAbs

/-- What a document holds in place of what was expected. -/
inductive Found
  | number (n : Number)
  | text (s : String)
  | bool (b : Bool)
  | null
  | map
  | sequence
  deriving DecidableEq

namespace Found

def message : Found → String
  | number (.natural n) => "integer \x60" ++ toString n ++ "\x60"
  | number (.negative n) => "integer \x60-" ++ toString n ++ "\x60"
  | number (.real minus x) =>
    "floating point \x60" ++ (if minus then "-" else "") ++ String.ofList (realText x) ++ "\x60"
  | text s => "string " ++ Text.quoted s
  | bool b => "boolean \x60" ++ toString b ++ "\x60"
  | null => "null"
  | map => "map"
  | sequence => "sequence"

end Found

/-- Why a well-formed document is refused. -/
inductive Mismatch
  | type (found : Found) (expected : String)
  | value (found : Found) (expected : String)
  | length (n : Nat) (expected : String)
  | missing (name : String)
  | duplicate (name : String)
  deriving DecidableEq

namespace Mismatch

def message : Mismatch → String
  | type found expected => s!"invalid type: {found.message}, expected {expected}"
  | value found expected => s!"invalid value: {found.message}, expected {expected}"
  | length n expected => s!"invalid length {n}, expected {expected}"
  | missing name => "missing field \x60" ++ name ++ "\x60"
  | duplicate name => "duplicate field \x60" ++ name ++ "\x60"

end Mismatch

inductive Fault
  | malformed
  | mismatch (m : Mismatch)
  deriving DecidableEq

end LeaseLock.Json
