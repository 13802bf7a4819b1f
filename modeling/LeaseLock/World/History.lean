import LeaseLock.Store.Trace
import LeaseLock.World.Run

/-!
# Readings of the History

What the events of a world say about its store and about its tasks. A history has its latest
event first, so that the first event that says something is the one that counts.
-/

namespace LeaseLock

namespace Event

/-- The request that the store granted, and when. -/
def granted? : Event → Option (Nat × Request)
  | served time _ r true | intruded time r true => some (time, r)
  | _ => none

/-- Until when the store let `token` hold `key`, if that is what it granted. -/
def deadline? (key : String) (token : Token) (e : Event) : Option Nat :=
  e.granted?.bind fun (time, r) => r.write?.bind fun (k, owner, ttl) =>
    if k = key ∧ owner = token then some (time + ttl.nanos) else none

/-- Whether the event drops `key`, whoever holds it. -/
def drops (key : String) : Event → Bool
  | expired _ k => k = key
  | _ => false

/-- Whether the event ends whatever hold `token` has on `key`. -/
def frees (key : String) (token : Token) (e : Event) : Bool :=
  e.drops key || e.granted?.any (·.2 = .release key token)

/-- The request of task `i` that the event is about, with the store's answer if it has one. -/
def request? (i : Nat) : Event → Option (Request × Option Bool)
  | asked _ j r => if j = i then some (r, none) else none
  | served _ j r yes => if j = i then some (r, some yes) else none
  | _ => none

end Event

/-- The last request of task `i`, with the store's answer once the store has served it. -/
def latest? (i : Nat) (history : List Event) : Option (Request × Option Bool) :=
  history.findSome? (·.request? i)

namespace World

/-- Whether a task has ended with a lease in its hands. -/
def HandedOut (w : World) (lease : Lease) : Prop :=
  ∃ time i, .ended time i (.leased lease) ∈ w.history

/-- Whether the store has granted a task what it asked for. -/
def Acquired (w : World) (grant : Grant) : Prop :=
  ∃ time i, .served time i (.acquire grant.key grant.token grant.ttl) true ∈ w.history

/-- Whether a grant was acquired and is no longer held. -/
def Lost (w : World) (grant : Grant) : Prop :=
  w.Acquired grant ∧ w.memory.holder w.now grant.key ≠ some grant.token

/-- Whether task `i` has given up a lease, and with success. -/
def Unlocked (w : World) (i : Nat) (lease : Lease) : Prop :=
  ∃ t stage, w.tasks[i]? = some t ∧ t.process = .errand ⟨.unlock lease, stage⟩ ∧
    t.ending = some .done

end World

/-! ### Runs in which only the store answers -/

/-- Whether a request is answered by nobody but the store. -/
def Plan.Honest (p : Plan) : Prop := ∀ yes, p.deed ≠ .answer yes

def Plans.Honest (p : Plans) : Prop :=
  ∀ plan, plan ∈ p.acquire ∨ plan ∈ p.refresh ∨ plan ∈ p.release → plan.Honest

/-- Whether an act leaves answers to the store, and minted tokens to the tasks. -/
def World.Act.Lawful : World.Act → Prop
  | .intrude r => ∀ n, r.token ≠ .minted n
  | .plan plans => plans.Honest
  | _ => True

end LeaseLock
