import LeaseLock.Store.Request
import LeaseLock.Store.Table
import LeaseLock.Time.Instant

/-!
# The Store in Memory

A table from keys to their owners and the instants at which ownership ends. Nothing happens
to an entry at that instant: it stays in the table and is passed over, until a request
replaces or removes it. `Memory.serve` answers a request; a request that would have been
granted until an instant that no clock can name fails and leaves the table as it was. A request
is served in one piece, at the instant that the store reads from its clock.
-/

namespace LeaseLock

structure Entry where
  token : Token
  expires : Nat
  deriving DecidableEq

/-- Whether the entry counts at instant `now`. -/
def Entry.isLive (e : Entry) (now : Nat) : Bool := now < e.expires

structure Memory where
  entries : Table Entry

namespace Memory

def empty : Memory := ⟨.empty⟩

instance : Inhabited Memory := ⟨empty⟩

/-- The entry of a key, if it counts. -/
def live? (m : Memory) (now : Nat) (key : String) : Option Entry :=
  (m.entries.find? key).filter (·.isLive now)

/-- Who holds a key. -/
def holder (m : Memory) (now : Nat) (key : String) : Option Token :=
  (m.live? now key).map (·.token)

/-- How much longer a key is held. -/
def remaining (m : Memory) (now : Nat) (key : String) : Option Span :=
  (m.live? now key).map fun e => .ofNanos (e.expires - now)

/-- The keys that are held, each with its owner and the time left. -/
def held (m : Memory) (now : Nat) : List (String × Token × Span) :=
  m.entries.rows.filterMap fun (key, e) =>
    if e.isLive now then some (key, e.token, .ofNanos (e.expires - now)) else none

/-- Drops a key, whoever holds it. -/
def expire (m : Memory) (key : String) : Memory := ⟨m.entries.drop key⟩

/-- Writes an entry that lasts for `ttl`; with no such instant, changes nothing. -/
def write (m : Memory) (now : Nat) (key : String) (token : Token) (ttl : Span) :
    Option Bool × Memory :=
  match Instant.after? now ttl with
  | some expires => (some true, ⟨m.entries.put key ⟨token, expires⟩⟩)
  | none => (none, m)

/-- Answers a request; `none` is the failure for want of an instant. -/
def serve (m : Memory) (now : Nat) : Request → Option Bool × Memory
  | .acquire key token ttl =>
    match m.live? now key with
    | some e => if e.token = token then m.write now key token ttl else (some false, m)
    | none => m.write now key token ttl
  | .refresh key token ttl =>
    match m.live? now key with
    | some e => if e.token = token then m.write now key token ttl else (some false, m)
    | none => (some false, m)
  | .release key token =>
    match m.entries.find? key with
    | none => (some false, m)
    | some e =>
      if !e.isLive now then (some false, m.expire key)
      else if e.token = token then (some true, m.expire key)
      else (some false, m)

end Memory

/-- A store in memory and the instant on its clock. -/
structure ClockedMemory where
  now : Nat
  memory : Memory

namespace ClockedMemory

def start : ClockedMemory := ⟨0, .empty⟩

def step (c : ClockedMemory) : Move → Reply × ClockedMemory
  | .request r =>
    let (answer, memory) := c.memory.serve c.now r
    (answer.elim .overflow .granted, { c with memory })
  | .expire key => (.done, { c with memory := c.memory.expire key })
  | .holder key => (.holder (c.memory.holder c.now key), c)
  | .remaining key => (.remaining (c.memory.remaining c.now key), c)
  | .advance d => (.done, { c with now := c.now + d.nanos })

end ClockedMemory
end LeaseLock
