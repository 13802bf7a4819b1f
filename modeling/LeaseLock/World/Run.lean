import LeaseLock.World.Step

/-!
# Runs of the World

A run is a list of acts: a task takes a step, the clock advances, and things that are done
to the world from outside. `World.settle` and `World.advanceUntil` are the schedule of a
world in which no task that can do something is kept waiting, and the clock jumps from one
instant at which something is due to the next.

Acts come one after another, and each happens at one instant. So a store reads its clock and
serves the request in one piece; that it may read the clock a moment before it gets at the table
is left out. In everything else a run is free, and may keep a task waiting for as long as it
likes. Only what is said about the instants at which a task does something takes more for granted:
the task gets its steps as soon as it can take them, and the clock passes by no instant that the
task waits for.
-/

namespace LeaseLock.World

inductive Act
  | step (task : Nat)
  | advance (d : Nat)
  | spawn (process : Process)
  /-- A task is aborted, and whatever it has under way dropped. -/
  | abort (task : Nat)
  | fire (signal : Signal)
  | newSignal
  | expire (key : String)
  /-- Someone who is no task puts a request to the store, under a name of its own. If it breaks
  down, that is the end of whoever put it, and the world goes on as it was. -/
  | intrude (r : Request)
  /-- Other plans for the requests to come. -/
  | plan (plans : Plans)

/-- The world after an act. A task that cannot do anything does nothing. -/
def act (w : World) : Act → World
  | .step i => (w.step i).getD w
  | .advance d => { w with now := w.now + d }
  | .spawn process => (w.spawn process none).2
  | .abort i =>
    match w.tasks[i]? with
    | some t => if t.ending.isSome then w else w.finish i t .aborted
    | none => w
  | .fire s => w.fire s
  | .newSignal => w.newSignal.2
  | .expire key => { w with memory := w.memory.expire key }.record (.expired w.now key)
  | .intrude r =>
    match w.memory.serve w.now r with
    | (some yes, memory) => { w with memory }.record (.intruded w.now r yes)
    | (none, memory) => { w with memory }
  | .plan plans => { w with plans }

/-- The world after a run. -/
def run (w : World) (acts : List Act) : World := acts.foldl act w

/-- The first task that can do something does it. -/
def stepAny (w : World) : Option World := (List.range w.tasks.length).findSome? w.step

/-- Lets tasks step until none can, at most `fuel` times. -/
def settleWith : Nat → World → World
  | 0, w => w
  | fuel + 1, w =>
    match w.stepAny with
    | some w => settleWith fuel w
    | none => w

/-- How many steps one instant may take; calls that never come to rest end there. -/
def stepsPerInstant : Nat := 1000000

/-- Lets every task do what it can do now. -/
def settle (w : World) : World := settleWith stepsPerInstant w

/-- Lets time pass until `stop` holds or the clock has reached `limit`; one jump for each unit
of fuel. -/
def advanceWith (stop : World → Bool) (limit : Nat) : Nat → World → World
  | 0, w => w
  | fuel + 1, w =>
    let w := w.settle
    if stop w || limit ≤ w.now then w
    else
      let target := min limit ((w.wake?).getD limit)
      advanceWith stop limit fuel (w.act (.advance (target - w.now)))

/-- Lets time pass until `stop` holds, but not beyond `limit`. Whatever tasks wait for is due
at a whole millisecond, so one jump for each is enough. -/
def advanceUntil (stop : World → Bool) (limit : Nat) (w : World) : World :=
  advanceWith stop limit ((limit - w.now) / 1000000 + 2) w

/-- How task `i` ended. -/
def ending? (w : World) (i : Nat) : Option Ending := w.tasks[i]?.bind (·.ending)

end LeaseLock.World
