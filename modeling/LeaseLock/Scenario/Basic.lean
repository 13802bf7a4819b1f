import LeaseLock.Settings.Locking
import LeaseLock.World.Run

/-!
# Scenarios

A scenario is a script for a world: clients by name that make calls, tasks by name that run
them side by side, and things done to the world in between. A step either waits for its call,
up to a limit, or hands it to a task. Whatever a step says, all tasks that can do something at
its instant have done it when it ends.
-/

namespace LeaseLock

/-- A client and the group of clients with which it shares its flights. -/
structure Client where
  settings : LockSettings
  group : String

namespace Client

/-- The call that acquires a key as the client's settings say. -/
def acquire (c : Client) (key : String) : Process :=
  match c.settings.validate.bind fun _ => c.settings.strategy with
  | .error e => .refused (.invalidConfig e)
  | .ok retry =>
    .acquisition (.start key c.settings.ttl c.settings.acquireTimeout (.fixed retry) none)

/-- The call that keeps a lease as the client's settings say. -/
def keepAlive (c : Client) (lease : Lease) : Except LockError Process :=
  match c.settings.validate with
  | .error e => .error (.invalidConfig e)
  | .ok _ =>
    .ok (.renewal (.start lease c.settings.effectiveRefreshInterval c.settings.refreshTimeout))

end Client

/-- The text of a lease. -/
def Lease.text (lease : Lease) (stopped : Bool) : String :=
  "Lease \x7b key: " ++ Text.quoted lease.key ++ ", token: " ++ Text.quoted lease.token.text ++
    ", ttl: " ++ lease.ttl.text ++ ", stopped: " ++ toString stopped ++ " \x7d"

namespace Scenario

/-- Whether a step waits for its call, and for how long, or hands it to a task. -/
inductive Mode
  | await (limit : Span)
  | task (name : String)

/-- What a client is asked for; a granted key is kept as a lease. -/
inductive Wish
  | attempt (key : String) (ttl : Span)
  | acquire (key : String)
  /-- With `shared`, on a flight. -/
  | lock (shared : Bool) (key : String) (ttl timeout : Span)
      (strategy : Except ConfigError Retry.Strategy) (cancel : Option String)

/-- The kinds of requests. -/
inductive Kind
  | acquire
  | refresh
  | release

inductive Step
  /-- The lease is kept under the name `as`. -/
  | obtain (wish : Wish) (client as : String) (mode : Mode)
  | refresh (lease : String) (mode : Mode)
  | unlock (lease : String) (mode : Mode)
  | renew (lease : String) (interval timeout : Span) (mode : Mode)
  | keepAlive (client lease task : String)
  | info (lease : String)
  | copyLease (lease as : String)
  | dropLease (lease : String)
  | cancel (signal : String)
  | sleep (d : Span)
  | join (task : String) (limit : Span)
  | abort (task : String)
  | expire (key : String)
  | intrude (r : Request)
  | plan (kind : Kind) (plans : List Plan)
  | settings (client : String)

/-- What a name was to name. -/
inductive Missing
  | lease
  | task
  | client

/-- What a step comes to, or a task. -/
inductive Result
  | ok
  | spawned
  | ended
  /-- The limit of the step was reached. -/
  | stuck
  | nothing
  | flag (yes : Bool)
  | lease (lease : Lease) (stopped : Bool)
  | info (lease : Lease) (stopped : Bool)
  | settings (s : LockSettings)
  | failed (e : LockError)
  | broken (text : String)
  /-- A task that did not end by itself, and what joining it comes to. -/
  | joinFailed (e : LockError)
  | missing (what : Missing) (name : String)

/-- A task that a scenario has named. -/
structure Named where
  number : Nat
  name : String
  /-- The name for the lease that the task obtains. -/
  as : Option String

structure State where
  world : World
  clients : List (String × Client)
  leases : Table Lease
  /-- The latest task of each name. -/
  tasks : Table Nat
  /-- The latest task of each name that nobody has joined. -/
  joinable : Table Nat
  named : List Named
  signals : Table Signal
  /-- How many events were reported. -/
  reported : Nat
  /-- How many events were searched for leases to keep. -/
  filed : Nat

/-- What is seen after a step. -/
structure Report where
  now : Nat
  result : Result
  held : List (String × Token × Span)
  /-- The requests put to the store during the step. -/
  asked : List (Nat × Request)
  /-- The tasks that ended during the step. -/
  ended : List (Nat × String × Result)

end Scenario
end LeaseLock
