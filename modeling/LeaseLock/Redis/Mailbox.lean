import LeaseLock.Redis.Link
import LeaseLock.Store.Trace

/-!
# Requests in the Mail

Requests between their senders and a server. Whatever becomes of its sender, a request that was
sent may be carried out at any later time, before or after any other, once at most; it may also
be lost, and nothing is said of where its reply goes.
-/

namespace LeaseLock.Redis

/-- A request that was carried out, and when. -/
structure Execution where
  time : Nat
  request : Request
  reply : Reply

/-- Until when an execution lets `token` hold `key`, if that is what its reply grants. -/
def Execution.deadline? (key : String) (token : Token) (e : Execution) : Option Nat :=
  e.request.write?.bind fun (k, owner, ttl) =>
    if k = key ∧ owner = token ∧ Link.response e.request e.reply = .granted true then
      some (e.time + ttlMillis ttl)
    else none

structure Mailbox where
  keyspace : Keyspace
  /-- The requests that were sent and may still be carried out. -/
  pending : List Request
  /-- The latest execution first. -/
  history : List Execution

inductive Mailbox.Move
  | send (r : Request)
  /-- The request at an index arrives and is carried out. -/
  | deliver (i : Nat)
  | lose (i : Nat)
  | advance (millis : Nat)

/-- Whether a move sends a request that presents `token` as a new one. -/
def Mailbox.Move.presents (token : Token) : Mailbox.Move → Bool
  | .send r => r.presents? = some token
  | .deliver _ | .lose _ | .advance _ => false

namespace Mailbox

def start : Mailbox := ⟨.start, [], []⟩

/-- Carries a request out. -/
def execute (m : Mailbox) (r : Request) : Mailbox :=
  let (reply, keyspace, _) := (Script.program r).run m.keyspace
  { m with keyspace, history := ⟨m.keyspace.now, r, reply⟩ :: m.history }

def step (m : Mailbox) : Move → Mailbox
  | .send r => { m with pending := m.pending ++ [r] }
  | .deliver i =>
    match m.pending[i]? with
    | some r => { m.execute r with pending := m.pending.eraseIdx i }
    | none => m
  | .lose i => { m with pending := m.pending.eraseIdx i }
  | .advance millis => { m with keyspace := m.keyspace.advance millis }

def run (m : Mailbox) (moves : List Move) : Mailbox := moves.foldl step m

end Mailbox
end LeaseLock.Redis
