import LeaseLock.Call.Acquisition
import LeaseLock.Shared.Flights

/-!
# Callers of a Shared Acquisition

A caller first joins or enters a flight for its key, whether or not its signal has fired; if
the flight is new, it launches its own acquisition as the work of it. Then it waits for the
outcome, or for its own signal, which wins. The acquisition listens to the signal of the
caller that launched it and goes on without any of its callers.
-/

namespace LeaseLock

/-- What everybody on a flight gets. -/
abbrev Shared := Except LockError Lease

inductive Caller.Stage
  | entering (work : Acquisition)
  | launching (number : Nat) (work : Acquisition)
  | waiting (number : Nat)

structure Caller where
  /-- The group of clients that share their flights. -/
  group : String
  signal : Option Signal
  stage : Caller.Stage

namespace Caller

def start (group : String) (work : Acquisition) : Caller := ⟨group, work.signal, .entering work⟩

/-- What the end of the work is to the callers. -/
def outcome : Outcome Lease → Shared
  | .ok lease => .ok lease
  | .failed e => .error e
  | .broken text => .error (.ofBreakdown text)

/-- What the callers get if the work never gets under way. -/
def neverLaunched : Shared := .error (.store "in-flight call was never started")

end Caller
end LeaseLock
