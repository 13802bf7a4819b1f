import LeaseLock.Call.Turn
import LeaseLock.Retry.Strategy

/-!
# Acquisitions

The call that keeps trying for a key. Each attempt presents a token of its own and is given
up at its deadline; after a failed attempt the strategy says whether and when there is
another. The caller's signal, once fired, ends the call at its next turn, whatever else has
come about by then.
-/

namespace LeaseLock

inductive Acquisition.Stage
  /-- Before an attempt. -/
  | ready
  | asking (token : Token) (deadline : Nat)
  /-- Between attempts, until an instant. -/
  | resting (wake : Nat)
  deriving DecidableEq

structure Acquisition where
  key : String
  ttl : Span
  timeout : Span
  strategy : Retry.Strategy
  signal : Option Signal
  /-- How many attempts were begun, as far as the counter goes. -/
  attempts : UInt32
  stage : Acquisition.Stage

namespace Acquisition

def start (key : String) (ttl timeout : Span) (strategy : Retry.Strategy)
    (signal : Option Signal) : Acquisition :=
  ⟨key, ttl, timeout, strategy, signal, 0, .ready⟩

/-- What a failed attempt leads to. -/
def afterFailure (a : Acquisition) (now : Nat) (e : LockError) : Turn Acquisition Grant :=
  if e.isRetryable then
    match a.strategy.next with
    | (.wait d, strategy) =>
      .go { a with strategy, stage := .resting (Instant.timer now d) }
    | (.stop, _) => .fin (.failed (.retriesExhausted a.attempts.toNat e))
    | (.broken text, _) => .fin (.broken text)
  else .fin (.failed e)

def turn (a : Acquisition) (g : Glimpse) : Turn Acquisition Grant :=
  if g.fired then .fin (.failed .cancelled)
  else match a.stage with
    | .ready =>
      .ask { a with
          attempts := Retry.bump a.attempts
          stage := .asking g.fresh (Instant.timer g.now a.timeout) }
        (.acquire a.key g.fresh a.ttl)
    | .asking token deadline =>
      match g.response with
      | some (.granted true) => .fin (.ok ⟨a.key, token, a.ttl⟩)
      | some (.granted false) => a.afterFailure g.now (.acquireFailed a.key)
      | some (.failed e) => a.afterFailure g.now e
      | some (.broken text) => .fin (.broken text)
      | none => if deadline ≤ g.now then a.afterFailure g.now .timeout else .rest
    | .resting wake => if wake ≤ g.now then .go { a with stage := .ready } else .rest

/-- The instant at which a turn may come due that is not due yet. -/
def wake? (a : Acquisition) : Option Nat :=
  match a.stage with
  | .ready => none
  | .asking _ deadline => some deadline
  | .resting wake => some wake

end Acquisition
end LeaseLock
