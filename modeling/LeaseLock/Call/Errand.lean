import LeaseLock.Call.Turn

/-!
# Errands

The calls that put one request to the store and end with its response: a single attempt at a
key, one renewal of a lease, and giving a lease up. Giving up fires the lease's signal before
it turns to the store, so that renewals end even if the store never responds.
-/

namespace LeaseLock

inductive Errand.Kind
  | attempt (key : String) (ttl : Span)
  | refresh (lease : Lease)
  | unlock (lease : Lease)
  deriving DecidableEq

inductive Errand.Stage
  | fresh
  /-- The lease's signal has fired, the store comes next. -/
  | ready
  | asked (token : Token)
  deriving DecidableEq

structure Errand where
  kind : Errand.Kind
  stage : Errand.Stage
  deriving DecidableEq

namespace Errand

def attempt (key : String) (ttl : Span) : Errand := ⟨.attempt key ttl, .fresh⟩

def refresh (lease : Lease) : Errand := ⟨.refresh lease, .fresh⟩

def unlock (lease : Lease) : Errand := ⟨.unlock lease, .fresh⟩

/-- The request to put to the store. -/
def request (kind : Kind) (fresh : Token) : Request :=
  match kind with
  | .attempt key ttl => .acquire key fresh ttl
  | .refresh lease => .refresh lease.key lease.token lease.ttl
  | .unlock lease => .release lease.key lease.token

/-- How the errand ends if its request is granted. -/
def granted (kind : Kind) (token : Token) : Option Grant :=
  match kind with
  | .attempt key ttl => some ⟨key, token, ttl⟩
  | .refresh _ | .unlock _ => none

/-- How the errand ends if its request is refused. -/
def refused : Kind → LockError
  | .attempt key _ => .acquireFailed key
  | .refresh _ | .unlock _ => .notHeld

/-- Turns to the store. -/
def ask (e : Errand) (fresh : Token) : Turn Errand (Option Grant) :=
  .ask { e with stage := .asked fresh } (request e.kind fresh)

def turn (e : Errand) (g : Glimpse) : Turn Errand (Option Grant) :=
  match e.stage with
  | .fresh =>
    match e.kind with
    | .unlock lease => .fire { e with stage := .ready } lease.stop
    | .attempt .. | .refresh _ => e.ask g.fresh
  | .ready => e.ask g.fresh
  | .asked token =>
    match g.response with
    | none => .rest
    | some (.granted true) => .fin (.ok (granted e.kind token))
    | some (.granted false) => .fin (.failed (refused e.kind))
    | some (.failed error) => .fin (.failed error)
    | some (.broken text) => .fin (.broken text)

end Errand
end LeaseLock
