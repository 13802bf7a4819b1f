import LeaseLock.Error.Config
import LeaseLock.Retry.Count

/-!
# Fixed Intervals

The strategy that hands out one and the same interval, a limited number of times or for ever.
-/

namespace LeaseLock.Retry

structure Fixed where
  interval : Span
  /-- How many intervals there are; zero for no limit. -/
  most : UInt32
  /-- How often the strategy was asked. -/
  asked : UInt32

namespace Fixed

def make (interval : Span) (most : UInt32) : Except ConfigError Fixed :=
  if interval.isZero then .error (.interval interval) else .ok ⟨interval, most, 0⟩

def next (f : Fixed) : Option Span × Fixed :=
  let asked := bump f.asked
  (if exhausted f.most asked then none else some f.interval, { f with asked })

end Fixed
end LeaseLock.Retry
