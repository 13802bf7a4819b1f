import LeaseLock.Store.Request
import LeaseLock.Store.Table
import LeaseLock.Time.Instant

/-!
# The Store that Forgets at Once

The plainest store there is: a key maps to at most one owner and deadline, and its row goes
away at the very instant of the deadline. Whether a row is there is all that a request looks
at. It is what the store in memory is measured by.
-/

namespace LeaseLock

structure Eager where
  now : Nat
  rows : Table (Token × Nat)

namespace Eager

def start : Eager := ⟨0, .empty⟩

/-- The same rows without those whose deadline is reached at `now`. -/
def sweep (now : Nat) (rows : Table (Token × Nat)) : Table (Token × Nat) :=
  ⟨rows.rows.filter fun row => now < row.2.2⟩

/-- Sets the owner of a key for `ttl`. -/
def write (s : Eager) (key : String) (token : Token) (ttl : Span) : Reply × Eager :=
  match Instant.after? s.now ttl with
  | some deadline =>
    (.granted true, { s with rows := sweep s.now (s.rows.put key (token, deadline)) })
  | none => (.overflow, s)

def step (s : Eager) : Move → Reply × Eager
  | .request (.acquire key token ttl) =>
    match s.rows.find? key with
    | some (owner, _) => if owner = token then s.write key token ttl else (.granted false, s)
    | none => s.write key token ttl
  | .request (.refresh key token ttl) =>
    match s.rows.find? key with
    | some (owner, _) => if owner = token then s.write key token ttl else (.granted false, s)
    | none => (.granted false, s)
  | .request (.release key token) =>
    match s.rows.find? key with
    | some (owner, _) =>
      if owner = token then (.granted true, { s with rows := s.rows.drop key })
      else (.granted false, s)
    | none => (.granted false, s)
  | .expire key => (.done, { s with rows := s.rows.drop key })
  | .holder key => (.holder ((s.rows.find? key).map (·.1)), s)
  | .remaining key =>
    (.remaining ((s.rows.find? key).map fun row => .ofNanos (row.2 - s.now)), s)
  | .advance d =>
    (.done, { now := s.now + d.nanos, rows := sweep (s.now + d.nanos) s.rows })

end Eager
end LeaseLock
