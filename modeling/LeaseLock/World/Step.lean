import LeaseLock.World.Basic

/-!
# Steps of the World

`World.step` lets one task do the next thing it can do, if there is one; no order between
tasks is built in, so that a run may interleave them in any way. A step of a task takes its
request one stage on, or else gives its call a turn. The exception is an acquisition whose
signal has fired: it gets its turn first, and so never sees a response that comes at the same
time.
-/

namespace LeaseLock.World

/-- What the end of a task is to a flight whose work it was. -/
def outcomeOf : Ending → Shared
  | .leased lease => Caller.outcome (.ok lease)
  | .failed e => Caller.outcome (.failed e)
  | .broken text => Caller.outcome (.broken text)
  | .aborted => .error .cancelled
  | .done => Caller.neverLaunched

/-- A task ends: its request is dropped, and a flight whose work it was lands. -/
def finish (w : World) (i : Nat) (t : Task) (ending : Ending) : World :=
  let w := (w.setTask i { t with underway := none, ending := some ending }).record
    (.ended w.now i ending)
  match t.duty with
  | some duty =>
    w.setFlights duty.group ((w.flightsOf duty.group).land duty.number (outcomeOf ending))
  | none => w

/-- A grant becomes a lease with a stop signal of its own. -/
def lease (w : World) (grant : Grant) : Lease × World :=
  let (stop, w) := w.newSignal
  ({ grant with stop }, w)

/-- A task puts a request to the store. -/
def ask (w : World) (i : Nat) (t : Task) (r : Request) : World :=
  let (plan, plans) := w.plans.take r
  let minted := match r with
    | .acquire .. => w.minted + 1
    | _ => w.minted
  ({ w with plans, minted }.setTask i { t with underway := some (.start r plan w.now) }).record
    (.asked w.now i r)

/-- A task whose call ends well, with a grant or without one. -/
def conclude (w : World) (i : Nat) (t : Task) : Option Grant → World
  | some grant =>
    let (lease, w) := w.lease grant
    w.finish i t (.leased lease)
  | none => w.finish i t .done

/-- Carries out what a call does at its turn. -/
def perform (w : World) (i : Nat) (t : Task) (wrap : σ → Process) (grant : α → Option Grant) :
    Turn σ α → Option World
  | .rest => none
  | .go s => some (w.setTask i { t with process := wrap s, underway := none })
  | .fire s signal => some ((w.fire signal).setTask i { t with process := wrap s })
  | .ask s r => some (w.ask i { t with process := wrap s } r)
  | .fin (.ok value) => some (w.conclude i t (grant value))
  | .fin (.failed e) => some (w.finish i t (.failed e))
  | .fin (.broken text) => some (w.finish i t (.broken text))

/-- What the call of a task sees. -/
def glimpse (w : World) (t : Task) (signal : Option Signal) : Glimpse :=
  { now := w.now
    fired := w.hasFired signal
    response := t.underway.bind (·.response?)
    fresh := .minted (w.minted + 1) }

/-- The turn of a caller of a shared acquisition. -/
def callerTurn (w : World) (i : Nat) (t : Task) (c : Caller) : Option World :=
  let stay (w : World) (stage : Caller.Stage) : World :=
    w.setTask i { t with process := .caller { c with stage } }
  match c.stage with
  | .entering work =>
    let ((number, isNew), flights) := (w.flightsOf c.group).enter work.key
    let w := w.setFlights c.group flights
    some (stay w (if isNew then .launching number work else .waiting number))
  | .launching number work =>
    let w := w.setFlights c.group ((w.flightsOf c.group).launch number)
    let (_, w) := (stay w (.waiting number)).spawn (.acquisition work) (some ⟨c.group, number⟩)
    some w
  | .waiting number =>
    if w.hasFired c.signal then some (w.finish i t (.failed .cancelled))
    else ((w.flightsOf c.group).outcome? number).map fun
      | .ok lease => w.finish i t (.leased lease)
      | .error e => w.finish i t (.failed e)

/-- The turn of the call of a task. -/
def turn (w : World) (i : Nat) (t : Task) : Option World :=
  match t.process with
  | .errand e => w.perform i t .errand id (e.turn (w.glimpse t none))
  | .acquisition a => w.perform i t .acquisition some (a.turn (w.glimpse t a.signal))
  | .renewal r => w.perform i t .renewal (fun _ => none) (r.turn (w.glimpse t (some r.lease.stop)))
  | .caller c => w.callerTurn i t c
  | .refused e => some (w.finish i t (.failed e))

/-- Whether the call looks at its signal before it lets its request move on. -/
def heedsSignalFirst (w : World) (t : Task) : Bool :=
  match t.process with
  | .acquisition a => w.hasFired a.signal
  | _ => false

/-- The request of a task moves on. -/
def moveRequest (w : World) (i : Nat) (t : Task) : Option World := do
  let u ← t.underway
  let (u', memory, served) ← u.step w.now w.memory
  let w := { w with memory }.setTask i { t with underway := some u' }
  return match served with
    | some yes => w.record (.served w.now i u.request yes)
    | none => w

/-- The next thing that task `i` does; `none` if it has ended or has to wait. -/
def step (w : World) (i : Nat) : Option World := do
  let t ← w.tasks[i]?
  if t.ending.isSome then none
  else if w.heedsSignalFirst t then w.turn i t
  else w.moveRequest i t <|> w.turn i t

/-- The instants that a task waits for. -/
def wakes (t : Task) : List Nat :=
  if t.ending.isSome then []
  else
    let call := match t.process with
      | .acquisition a => a.wake?
      | .renewal r => r.wake?
      | .errand _ | .caller _ | .refused _ => none
    call.toList ++ (t.underway.bind (·.wake?)).toList

/-- The next instant at which a task may have something to do that it cannot do now. -/
def wake? (w : World) : Option Nat :=
  ((w.tasks.flatMap wakes).filter (w.now < ·)).min?

end LeaseLock.World
