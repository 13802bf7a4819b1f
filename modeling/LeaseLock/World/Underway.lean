import LeaseLock.Call.Turn
import LeaseLock.Store.Memory

/-!
# Requests Under Way

A request on its way to the store in memory and back. The plan for it says how long it takes
to get there, what happens there, and how long the response takes; a request that is dropped
stays where it is, so that one dropped on its way back has been served.

The delays are timers, as the waits of a call are. A request with a delay gets to the store at a
whole millisecond, and the response to it gets back at one; a store that takes a fraction of a
millisecond is none of these.
-/

namespace LeaseLock

/-- What happens to a request at the store. -/
inductive Deed
  /-- The store serves it. -/
  | serve
  /-- It is answered without the store. -/
  | answer (yes : Bool)
  | fail (e : LockError)
  /-- Nothing, for ever. -/
  | hang
  | breakDown
  deriving DecidableEq

/-- What awaits a request. -/
structure Plan where
  before : Option Span
  deed : Deed
  after : Option Span
  deriving DecidableEq

/-- The plan without delays. -/
def Plan.plain : Plan := ⟨none, .serve, none⟩

inductive Underway.Stage
  | outward (due : Nat)
  | arrived
  | homeward (due : Nat) (response : Response)
  | back (response : Response)
  deriving DecidableEq

structure Underway where
  request : Request
  plan : Plan
  stage : Underway.Stage
  deriving DecidableEq

namespace Underway

def start (request : Request) (plan : Plan) (now : Nat) : Underway :=
  ⟨request, plan, plan.before.elim .arrived fun d => .outward (Instant.timer now d)⟩

/-- What a store says that breaks down. -/
def breakdownText : String := "store gave out"

/-- Sends a response home. -/
def respond (u : Underway) (now : Nat) (response : Response) : Underway :=
  { u with
    stage := u.plan.after.elim (.back response) fun d => .homeward (Instant.timer now d) response }

/-- The next thing that happens to the request: where it is then, what becomes of the store,
and the store's answer if it was served with one. -/
def step (u : Underway) (now : Nat) (m : Memory) : Option (Underway × Memory × Option Bool) :=
  match u.stage with
  | .outward due => if due ≤ now then some ({ u with stage := .arrived }, m, none) else none
  | .arrived =>
    match u.plan.deed with
    | .serve =>
      match m.serve now u.request with
      | (some yes, m) => some (u.respond now (.granted yes), m, some yes)
      | (none, m) => some ({ u with stage := .back (.broken Instant.overflowText) }, m, none)
    | .answer yes => some (u.respond now (.granted yes), m, none)
    | .fail e => some (u.respond now (.failed e), m, none)
    | .hang => none
    | .breakDown => some ({ u with stage := .back (.broken breakdownText) }, m, none)
  | .homeward due response =>
    if due ≤ now then some ({ u with stage := .back response }, m, none) else none
  | .back _ => none

/-- The response, once it is there. -/
def response? (u : Underway) : Option Response :=
  match u.stage with
  | .back response => some response
  | _ => none

/-- The instant at which something may happen that cannot happen yet. -/
def wake? (u : Underway) : Option Nat :=
  match u.stage with
  | .outward due | .homeward due _ => some due
  | .arrived | .back _ => none

end Underway
end LeaseLock
