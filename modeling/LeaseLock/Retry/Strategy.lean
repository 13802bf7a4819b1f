import LeaseLock.Retry.Backoff
import LeaseLock.Retry.Fixed

/-!
# Retry Strategies

What decides, after each failed attempt, whether and after which wait there is another one.
A strategy is asked with `next` and answers with an interval, or with none once it gives up.
A `custom` strategy is known only by what it answers to each time of asking; it may also
break down.
-/

namespace LeaseLock.Retry

/-- What a strategy answers. -/
inductive Answer
  | wait (interval : Span)
  | stop
  /-- The strategy broke down with this text. -/
  | broken (text : String)
  deriving DecidableEq

/-- The answer of a strategy that only ever hands out intervals. -/
def Answer.ofInterval : Option Span → Answer
  | some d => .wait d
  | none => .stop

inductive Strategy
  | never
  | fixed (f : Fixed)
  | backoff (b : Backoff)
  /-- Its `n`-th answer, from 0, is `answers n`; it was asked `asked` times. -/
  | custom (answers : Nat → Answer) (asked : Nat)

namespace Strategy

/-- Asks a strategy. -/
def next : Strategy → Answer × Strategy
  | never => (.stop, never)
  | fixed f => (.ofInterval f.next.1, fixed f.next.2)
  | backoff b => (.ofInterval b.next.1, backoff b.next.2)
  | custom answers asked => (answers asked, custom answers (asked + 1))

/-- The strategy that hands out `intervals` in order, and then gives `ending` as its answer. -/
def ofList (intervals : List Span) (ending : Answer) : Strategy :=
  custom (fun n => (intervals[n]?).elim ending .wait) 0

end Strategy

/-- What asking several times came to. -/
structure Tally where
  /-- The last answer, if it was an interval. -/
  last : Option Span
  /-- How many answers were intervals. -/
  intervals : Nat
  /-- Their sum, while it is a span. -/
  total : Option Span
  /-- The text with which the strategy broke down. -/
  broken : Option String

namespace Tally

def start : Tally := ⟨none, 0, some .zero, none⟩

/-- Adds one answer; after a breakdown there are no more. -/
def add (t : Tally) (a : Answer) : Tally :=
  match t.broken, a with
  | some _, _ => t
  | none, .wait d => { t with
      last := some d, intervals := t.intervals + 1, total := t.total.bind (·.add? d) }
  | none, .stop => { t with last := none }
  | none, .broken text => { t with broken := some text }

end Tally

namespace Strategy

/-- Asks `n` times. -/
def tally (s : Strategy) (n : Nat) : Tally × Strategy :=
  n.repeat (fun (t, s) => let (a, s) := s.next; (t.add a, s)) (.start, s)

end Strategy
end LeaseLock.Retry
