import LeaseLock.Store.Memory

/-!
# The Store under Its Lock

The store in memory, statement by statement. An operation has the lock while it looks at the
table and changes it. It may break down between two statements, for want of an instant: what it
has changed by then stays changed, and the lock goes back as it does from any other end. The
clock stands still from before an operation has the lock until it gives it back.
-/

namespace LeaseLock

/-- A store in memory with its lock, and the instant on its clock. -/
structure Guarded where
  now : Nat
  memory : Memory
  /-- Whether an operation has the lock. -/
  taken : Bool

namespace Guarded

def start : Guarded := ⟨0, .empty, false⟩

/-- Statements that look at the table and change it. They come to nothing if they break down. -/
abbrev Section := OptionT (StateM Memory)

namespace Section

/-- The instant `ttl` after `now`; without one, the operation breaks down here. -/
def deadline (now : Nat) (ttl : Span) : Section Nat := (Instant.after? now ttl).getM

def acquire (now : Nat) (key : String) (token : Token) (ttl : Span) : Section Bool := do
  let existing := (← get).entries.find? key
  if existing.any fun e => e.isLive now && e.token != token then
    return false
  -- the entry is made before it is put into the table
  let expires ← deadline now ttl
  modify fun m => ⟨m.entries.put key ⟨token, expires⟩⟩
  return true

def refresh (now : Nat) (key : String) (token : Token) (ttl : Span) : Section Bool := do
  match (← get).entries.find? key with
  | some e =>
    if e.isLive now && e.token == token then
      let expires ← deadline now ttl
      modify fun m => ⟨m.entries.put key { e with expires }⟩
      return true
    else
      return false
  | none => return false

def release (now : Nat) (key : String) (token : Token) : Section Bool := do
  match (← get).entries.find? key with
  | none => return false
  | some e =>
    if !e.isLive now then
      modify (·.expire key)
      return false
    if e.token = token then
      modify (·.expire key)
    return e.token = token

def ofRequest (now : Nat) : Request → Section Bool
  | .acquire key token ttl => acquire now key token ttl
  | .refresh key token ttl => refresh now key token ttl
  | .release key token => release now key token

end Section

/-- Takes the lock for an operation, which waits for ever if somebody has it. The lock goes back
when the operation is over, in whatever way. -/
def under {α : Type} (s : Guarded) (body : Section α) : Option (Option α × Guarded) :=
  if s.taken then none
  else
    let s := { s with taken := true }
    let (result, memory) := body.run s.memory
    some (result, { s with memory, taken := false })

/-- The answer of an operation that has the lock while it is under way. -/
def call (s : Guarded) (body : Section Reply) : Option (Reply × Guarded) :=
  (s.under body).map fun (reply, s) => (reply.getD .overflow, s)

/-- The answer to a move and the store after it, unless the move waits for ever. -/
def step (s : Guarded) : Move → Option (Reply × Guarded)
  | .request r => s.call (.granted <$> Section.ofRequest s.now r)
  | .expire key => s.call do
    modify (·.expire key)
    return .done
  | .holder key => s.call do return .holder ((← get).holder s.now key)
  | .remaining key => s.call do return .remaining ((← get).remaining s.now key)
  | .advance d => some (.done, { s with now := s.now + d.nanos })

/-- The store after moves that are made one after another, unless one waits for ever. -/
def run (s : Guarded) (moves : List Move) : Option Guarded :=
  moves.foldlM (fun s m => (s.step m).map (·.2)) s

/-- The answers to moves that are made one after another. -/
def answers : Guarded → List Move → Option (List Reply)
  | _, [] => some []
  | s, m :: moves => do
    let (reply, s) ← s.step m
    return reply :: (← s.answers moves)

end Guarded
end LeaseLock
