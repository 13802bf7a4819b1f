import LeaseLock.Error.Config
import LeaseLock.Retry.Count

/-!
# Doubling Intervals

The strategy whose intervals double from a first one until they would pass a longest one,
which then stands for all later ones. `Backoff.doubled` is the rule without memory; `next`
also keeps note of having reached the longest interval, and then no longer computes it.
-/

namespace LeaseLock.Retry

structure Backoff where
  first : Span
  longest : Span
  /-- How many intervals there are; zero for no limit. -/
  most : UInt32
  /-- How often the strategy was asked. -/
  asked : UInt32
  /-- Whether the longest interval was reached. -/
  capped : Bool

namespace Backoff

def make (first longest : Span) (most : UInt32) : Except ConfigError Backoff :=
  if first.isZero then .error (.interval first)
  else if longest < first then .error (.maxInterval longest first)
  else .ok ⟨first, longest, most, 0, false⟩

/-- A power of two that is a number of 32 bits. -/
def factor? (exponent : Nat) : Option Nat :=
  if exponent < 32 then some (Nat.pow 2 exponent) else none

/-- The interval for the `n`-th time of asking, if it is one that doubling yields. -/
def doubled? (first longest : Span) (n : UInt32) : Option Span :=
  ((factor? (n.toNat - 1)).bind first.mul?).filter (· ≤ longest)

/-- The interval for the `n`-th time of asking. -/
def doubled (first longest : Span) (n : UInt32) : Span := (doubled? first longest n).getD longest

def next (b : Backoff) : Option Span × Backoff :=
  let asked := bump b.asked
  if exhausted b.most asked then (none, { b with asked })
  else if b.capped then (some b.longest, { b with asked })
  else match doubled? b.first b.longest asked with
    | some d => (some d, { b with asked })
    | none => (some b.longest, { b with asked, capped := true })

end Backoff
end LeaseLock.Retry
