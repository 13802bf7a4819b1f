import LeaseLock.Call.Errand
import LeaseLock.Call.Renewal
import LeaseLock.Shared.Caller
import LeaseLock.World.Underway

/-!
# The World of Tasks

Tasks run calls side by side against one store in memory. A task holds the state of its call
and the request it has under way; it ends once, by itself or aborted. The world also keeps
the clock, the plans for the requests to come, the signals that have fired, the flights of
each group of clients, and the history of all that has happened.
-/

namespace LeaseLock

/-- A call of any kind. -/
inductive Process
  | errand (e : Errand)
  | acquisition (a : Acquisition)
  | renewal (r : Renewal)
  | caller (c : Caller)
  /-- A call that fails before it turns to the store. -/
  | refused (e : LockError)

/-- Whether a call learns of its outcome by way of a flight. -/
def Process.isCaller : Process → Bool
  | caller _ => true
  | _ => false

/-- How a task ended. -/
inductive Ending
  | leased (lease : Lease)
  | done
  | failed (e : LockError)
  | broken (text : String)
  | aborted
  deriving DecidableEq

/-- A flight whose work a task is: its group and number. -/
structure Duty where
  group : String
  number : Nat
  deriving DecidableEq

structure Task where
  process : Process
  underway : Option Underway
  duty : Option Duty
  ending : Option Ending

/-- What happened, and when. -/
inductive Event
  /-- A task put a request to the store. -/
  | asked (time : Nat) (task : Nat) (r : Request)
  /-- The store served a request of a task. -/
  | served (time : Nat) (task : Nat) (r : Request) (yes : Bool)
  /-- Someone who is no task had a request served. -/
  | intruded (time : Nat) (r : Request) (yes : Bool)
  | expired (time : Nat) (key : String)
  | fired (time : Nat) (signal : Signal)
  | ended (time : Nat) (task : Nat) (ending : Ending)
  deriving DecidableEq

/-- When it happened. -/
def Event.time : Event → Nat
  | asked time .. | served time .. | intruded time .. | expired time _ | fired time _
  | ended time .. => time

/-- The plans for requests to come, by kind. A kind without plans left gets the plain one. -/
structure Plans where
  acquire : List Plan
  refresh : List Plan
  release : List Plan

namespace Plans

/-- The plan for a request, and the plans left after it. -/
def take (p : Plans) : Request → Plan × Plans
  | .acquire .. => (p.acquire.headD .plain, { p with acquire := p.acquire.tail })
  | .refresh .. => (p.refresh.headD .plain, { p with refresh := p.refresh.tail })
  | .release .. => (p.release.headD .plain, { p with release := p.release.tail })

end Plans

structure World where
  now : Nat
  memory : Memory
  plans : Plans
  /-- How many tokens were minted. -/
  minted : Nat
  /-- How many signals there are. -/
  signals : Nat
  /-- The signals that have fired. -/
  fired : List Signal
  flights : Table (Flights Shared)
  /-- Every task there ever was, by its number. -/
  tasks : List Task
  /-- The latest event first. -/
  history : List Event

namespace World

def start (plans : Plans) : World :=
  { now := 0, memory := .empty, plans, minted := 0, signals := 0, fired := [],
    flights := .empty, tasks := [], history := [] }

def hasFired (w : World) : Option Signal → Bool
  | some s => w.fired.contains s
  | none => false

/-- The flights of a group. -/
def flightsOf (w : World) (group : String) : Flights Shared :=
  (w.flights.find? group).getD .empty

def setFlights (w : World) (group : String) (f : Flights Shared) : World :=
  { w with flights := w.flights.put group f }

def record (w : World) (e : Event) : World := { w with history := e :: w.history }

def setTask (w : World) (i : Nat) (t : Task) : World := { w with tasks := w.tasks.set i t }

/-- A signal that has not fired. -/
def newSignal (w : World) : Signal × World := (w.signals, { w with signals := w.signals + 1 })

def fire (w : World) (s : Signal) : World :=
  if w.fired.contains s then w
  else { w with fired := s :: w.fired }.record (.fired w.now s)

/-- A task for a call, and the task's number. -/
def spawn (w : World) (process : Process) (duty : Option Duty) : Nat × World :=
  (w.tasks.length, { w with tasks := w.tasks ++ [⟨process, none, duty, none⟩] })

end World
end LeaseLock
