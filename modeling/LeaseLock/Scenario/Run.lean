import LeaseLock.Scenario.Basic

/-!
# Playing a Scenario

`Scenario.play` runs the steps one after another and reports on each. A call that breaks down
does so in its own task. A request that a step puts to the store itself has no task: if it breaks
down, the whole scenario does, and there is no report on any of its steps.
-/

namespace LeaseLock.Scenario

/-- The latest `n` events, each with the events before it. -/
def latest : Nat → List Event → List (Event × List Event)
  | n + 1, e :: earlier => (e, earlier) :: latest n earlier
  | _, _ => []

namespace State

def start (plans : Plans) (clients : List (String × Client)) : State :=
  { world := .start plans, clients, leases := .empty, tasks := .empty, joinable := .empty,
    named := [], signals := .empty, reported := 0, filed := 0 }

def act (s : State) (a : World.Act) : State := { s with world := s.world.act a }

def settle (s : State) : State := { s with world := s.world.settle }

/-- The signal of a name, which is made when the name is new. -/
def signal (s : State) (name : String) : Signal × State :=
  match s.signals.find? name with
  | some signal => (signal, s)
  | none =>
    let (signal, world) := s.world.newSignal
    (signal, { s with world, signals := s.signals.put name signal })

def signal? (s : State) : Option String → Option Signal × State
  | some name =>
    let (signal, s) := s.signal name
    (some signal, s)
  | none => (none, s)

/-- Lets time pass until `stop` holds, but not beyond `limit`. -/
def wait (s : State) (stop : World → Bool) (limit : Nat) : State :=
  { s with world := s.world.advanceUntil stop limit }

/-- Lets time pass until a task has ended, up to `limit` from now. -/
def waitFor (s : State) (number : Nat) (limit : Span) : State :=
  s.wait (fun w => (w.ending? number).isSome) (Instant.timer s.world.now limit)

/-- No step sleeps longer than thirty years of 365 days. Calls wait for as long as they are told. -/
def longestSleep : Span := .ofSecs 946080000

/-- Lets time pass. -/
def sleep (s : State) (d : Span) : State :=
  s.wait (fun _ => false) (Instant.timer s.world.now (if longestSleep < d then longestSleep else d))

/-- The events after the first `n`, each with the events before it. -/
def eventsAfter (s : State) (n : Nat) : List (Event × List Event) :=
  (latest (s.world.history.length - n) s.world.history).reverse

/-- Keeps the lease of an event, if the event is a named task that obtains one. -/
def keepLease (s : State) : Event → State
  | .ended _ number (.leased lease) =>
    match s.named.find? (·.number = number) with
    | some ⟨_, _, some as⟩ => { s with leases := s.leases.put as lease }
    | _ => s
  | _ => s

/-- Keeps the leases that named tasks have obtained before an instant. -/
def file (s : State) (limit : Nat) : State :=
  let events := ((s.eventsAfter s.filed).map (·.1)).takeWhile (·.time < limit)
  { events.foldl keepLease s with filed := s.filed + events.length }

end State

/-- What an ending comes to for whoever waited for the call. -/
def Result.ofEnding (w : World) : Ending → Result
  | .leased l => .lease l (w.hasFired (some l.stop))
  | .done => .ok
  | .failed e => .failed e
  | .broken text => .broken text
  | .aborted => .stuck

/-- What an ending comes to for whoever joins the task. -/
def Result.ofTask (stopped : Signal → Bool) : Ending → Result
  | .leased l => .lease l (stopped l.stop)
  | .done => .ok
  | .failed e => .failed e
  | .broken text => .joinFailed (.ofBreakdown text)
  | .aborted => .joinFailed .cancelled

/-- Runs a call as a step says; a lease it obtains is kept under the name `as`. A caller that
comes to know of a lease by way of a flight comes after the tasks that end at that instant, and
any other before them. -/
def call (s : State) (process : Process) (mode : Mode) (as : Option String) : Result × State :=
  let number := s.world.tasks.length
  let s := s.act (.spawn process)
  match mode with
  | .task name =>
    (.spawned, { s with
      tasks := s.tasks.put name number
      joinable := s.joinable.put name number
      named := ⟨number, name, as⟩ :: s.named })
  | .await limit =>
    let s := s.waitFor number limit
    match s.world.ending? number with
    | none => (.stuck, s.act (.abort number))
    | some ending =>
      let s := s.file (if process.isCaller then s.world.now + 1 else s.world.now)
      let leases := match as, ending with
        | some name, .leased lease => s.leases.put name lease
        | _, _ => s.leases
      (.ofEnding s.world ending, { s with leases })

def withLease (s : State) (name : String) (f : Lease → Result × State) : Result × State :=
  match s.leases.find? name with
  | some lease => f lease
  | none => (.missing .lease name, s)

def withClient (s : State) (name : String) (f : Client → Result × State) : Result × State :=
  match s.clients.lookup name with
  | some client => f client
  | none => (.missing .client name, s)

/-- Does something with the task that a table has under a name. -/
def withTask (tasks : State → Table Nat) (s : State) (name : String)
    (f : Nat → Result × State) : Result × State :=
  match (tasks s).find? name with
  | some number => f number
  | none => (.missing .task name, s)

/-- Grants a client's wish. -/
def grant (s : State) (wish : Wish) (client : Client) (as : String) (mode : Mode) :
    Result × State :=
  match wish with
  | .attempt key ttl => call s (.errand (.attempt key ttl)) mode as
  | .acquire key => call s (client.acquire key) mode as
  | .lock _ _ _ _ (.error e) _ => (.failed (.invalidConfig e), s)
  | .lock shared key ttl timeout (.ok strategy) cancel =>
    let (signal, s) := s.signal? cancel
    let work := Acquisition.start key ttl timeout strategy signal
    call s (if shared then .caller (.start client.group work) else .acquisition work) mode as

/-- Sets the plans for one kind of requests. -/
def setPlans (p : Plans) (plans : List Plan) : Kind → Plans
  | .acquire => { p with acquire := plans }
  | .refresh => { p with refresh := plans }
  | .release => { p with release := plans }

/-- Takes a step; without a result, the scenario has broken down at it. -/
def step (s : State) : Step → Except String (Result × State)
  | .obtain wish client as mode => .ok (withClient s client fun c => grant s wish c as mode)
  | .refresh lease mode => .ok (withLease s lease fun l => call s (.errand (.refresh l)) mode none)
  | .unlock lease mode => .ok (withLease s lease fun l => call s (.errand (.unlock l)) mode none)
  | .renew lease interval timeout mode =>
    .ok (withLease s lease fun l => call s (.renewal (.start l interval timeout)) mode none)
  | .keepAlive client lease task =>
    .ok (withLease s lease fun l => withClient s client fun c =>
      match c.keepAlive l with
      | .error e => (.failed e, s)
      | .ok process => call s process (.task task) none)
  | .info lease =>
    .ok (withLease s lease fun l => (.info l (s.world.hasFired (some l.stop)), s))
  | .copyLease lease as =>
    .ok (withLease s lease fun l => (.ok, { s with leases := s.leases.put as l }))
  | .dropLease lease =>
    .ok (.flag (s.leases.find? lease).isSome, { s with leases := s.leases.drop lease })
  | .cancel name =>
    let (signal, s) := s.signal name
    .ok (.ok, s.act (.fire signal))
  | .sleep d => .ok (.ok, s.sleep d)
  | .join task limit =>
    .ok (withTask (·.joinable) s task fun number =>
      let s := { s with joinable := s.joinable.drop task }.waitFor number limit
      (if (s.world.ending? number).isSome then .ended else .stuck, s))
  | .abort task =>
    .ok (withTask (·.tasks) s task fun number => (.ok, s.act (.abort number)))
  | .expire key => .ok (.nothing, s.act (.expire key))
  | .intrude r =>
    match (s.world.memory.serve s.world.now r).1 with
    | some yes => .ok (.flag yes, s.act (.intrude r))
    | none => .error Instant.overflowText
  | .plan kind plans => .ok (.ok, s.act (.plan (setPlans s.world.plans plans kind)))
  | .settings client => .ok (withClient s client fun c => (.settings c.settings, s))

/-- Lets all tasks do what they can do now, and reports on what happened since the last
report. -/
def report (result : Result) (s : State) : Report × State :=
  let s := s.settle
  let news := s.eventsAfter s.reported
  let asked := news.filterMap fun
    | (.asked time _ r, _) => some (time, r)
    | _ => none
  let ended := news.filterMap fun
    | (.ended time number ending, earlier) => do
      let named ← s.named.find? (·.number = number)
      let stopped (signal : Signal) := earlier.any fun
        | .fired _ other => other = signal
        | _ => false
      return (time, named.name, .ofTask stopped ending)
    | _ => none
  let s := s.file (s.world.now + 1)
  let before (a b : Nat × String × Result) : Bool :=
    a.1 < b.1 || (a.1 == b.1 && a.2.1 ≤ b.2.1)
  ({ now := s.world.now, result, held := s.world.memory.held s.world.now, asked,
     ended := ended.mergeSort before },
   { s with reported := s.world.history.length })

/-- Plays the steps in order. -/
def play : State → List Step → Except String (List Report)
  | _, [] => .ok []
  | s, next :: steps => do
    let (result, s) ← step s next
    let (r, s) := report result s
    return r :: (← play s steps)

end LeaseLock.Scenario
