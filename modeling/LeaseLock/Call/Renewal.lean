import LeaseLock.Call.Turn

/-!
# Renewals

The call that keeps a lease by renewing it at every tick. The first tick is due one interval
after the start, each later one an interval after the one before it was due, or, if that one
was seen more than five milliseconds late, an interval after it was seen. A renewal that
misses its deadline is repeated at once; any other failure ends the call. The lease's signal
ends it at the next tick or between repetitions, and turns a failure of the renewal under way
into a regular end.
-/

namespace LeaseLock

inductive Renewal.Stage
  | fresh
  /-- Waiting for the tick due at an instant. -/
  | ticking (due : Nat)
  /-- About to repeat a renewal that came too late; the next tick is due at `due`. -/
  | repeating (due : Nat)
  | asking (due deadline : Nat)
  deriving DecidableEq

structure Renewal where
  lease : Lease
  interval : Span
  timeout : Span
  stage : Renewal.Stage
  deriving DecidableEq

namespace Renewal

def start (lease : Lease) (interval timeout : Span) : Renewal :=
  ⟨lease, interval, timeout, .fresh⟩

/-- How late a tick may be seen without moving the ticks that follow. -/
def tolerance : Nat := 5000000

/-- When the next tick is due after the one due at `due` was seen at `now`. -/
def nextDue (interval : Span) (due now : Nat) : Nat :=
  if now ≤ due + tolerance then due + interval.nanos else now + interval.nanos

/-- Turns to the store; the next tick is due at `due`. -/
def ask (r : Renewal) (now due : Nat) : Turn Renewal Unit :=
  .ask { r with stage := .asking due (Instant.timer now r.timeout) }
    (.refresh r.lease.key r.lease.token r.lease.ttl)

/-- What a failed renewal leads to. -/
def afterFailure (r : Renewal) (fired : Bool) (due : Nat) (e : LockError) : Turn Renewal Unit :=
  if e.isTimeout then .go { r with stage := .repeating due }
  else if fired then .fin (.ok ())
  else .fin (.failed e)

def turn (r : Renewal) (g : Glimpse) : Turn Renewal Unit :=
  match r.stage with
  | .fresh =>
    if r.interval.isZero then .fin (.failed (.invalidConfig (.interval r.interval)))
    else match Instant.after? g.now r.interval with
      | some due => .go { r with stage := .ticking due }
      | none => .fin (.broken Instant.overflowText)
  | .ticking due =>
    if g.fired then .fin (.ok ())
    else if Instant.roundUp due ≤ g.now then r.ask g.now (nextDue r.interval due g.now)
    else .rest
  | .repeating due => if g.fired then .fin (.ok ()) else r.ask g.now due
  | .asking due deadline =>
    match g.response with
    | some (.granted true) => .go { r with stage := .ticking due }
    | some (.granted false) => r.afterFailure g.fired due .notHeld
    | some (.failed e) => r.afterFailure g.fired due e
    | some (.broken text) => .fin (.broken text)
    | none => if deadline ≤ g.now then r.afterFailure g.fired due .timeout else .rest

/-- The instant at which a turn may come due that is not due yet. -/
def wake? (r : Renewal) : Option Nat :=
  match r.stage with
  | .fresh | .repeating _ => none
  | .ticking due => some (Instant.roundUp due)
  | .asking _ deadline => some deadline

end Renewal
end LeaseLock
