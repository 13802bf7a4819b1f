import LeaseLock.Retry.Backoff

/-!
# Counting Down

The doubling strategy, asked with an eye on its arithmetic. A counter of 32 bits stops at its
greatest value, and powers and products that overflow are answered with the longest interval. That
leaves one operation that can fail: to count down, which there is no way to do from zero.
-/

namespace LeaseLock.Retry

/-- The count before `n`, if there is one. -/
def before? (n : UInt32) : Option UInt32 := if n = 0 then none else some (n - 1)

/-- Asks the strategy; nothing comes of it if it has to count down from zero. -/
def Backoff.next? (b : Backoff) : Option (Option Span × Backoff) :=
  let asked := bump b.asked
  if exhausted b.most asked then some (none, { b with asked })
  else if b.capped then some (some b.longest, { b with asked })
  else (before? asked).map fun exponent =>
    match ((factor? exponent.toNat).bind b.first.mul?).filter (· ≤ b.longest) with
    | some d => (some d, { b with asked })
    | none => (some b.longest, { b with asked, capped := true })

end LeaseLock.Retry
