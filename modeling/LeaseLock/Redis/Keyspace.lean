import LeaseLock.Number.Width
import LeaseLock.Redis.Reply
import LeaseLock.Store.Request
import LeaseLock.Store.Table

/-!
# The Keys of a Server

What a Redis server keeps, on a clock in whole milliseconds: a value for each key, and for some
the time at which the key goes away. `Keyspace.run` runs a command of a script.
-/

namespace LeaseLock.Redis

/-- The value of a key, and the first millisecond at which it is gone. -/
structure Row where
  value : Token
  expires : Option Nat
  deriving DecidableEq

def Row.isLive (r : Row) (now : Nat) : Bool := r.expires.all (now < ·)

structure Keyspace where
  now : Nat
  rows : Table Row

/-- The commands that scripts run. -/
inductive Command
  | get (key : String)
  /-- Sets the value of a key, which goes away after some milliseconds. -/
  | set (key : String) (value : Token) (millis : Nat)
  /-- Lets a key go away after some milliseconds. -/
  | pexpire (key : String) (millis : Nat)
  | del (key : String)
  deriving DecidableEq

namespace Command

def words : Command → List String
  | get key => ["get", key]
  | set key value millis => ["set", key, value.text, "PX", toString millis]
  | pexpire key millis => ["pexpire", key, toString millis]
  | del key => ["del", key]

end Command

/-- What a command comes to for the script that runs it. -/
inductive Value
  | nothing
  | ok
  | value (token : Token)
  | number (n : Nat)
  deriving DecidableEq

/-- Why a command fails, and with it the script. -/
inductive Refusal
  /-- The time is more than a server can read. -/
  | outOfRange
  /-- The time leads nowhere: it is zero, or the server's clock ends before. -/
  | badTime (command : String)
  deriving DecidableEq

namespace Refusal

def reply : Refusal → Reply
  | outOfRange => .error "ERR" "value is not an integer or out of range"
  | badTime command => .error "ERR" s!"invalid expire time in '{command}' command"

end Refusal

namespace Keyspace

def start : Keyspace := ⟨0, .empty⟩

/-- The first number that the server has no room for. -/
abbrev limit : Nat := Width.bits63

/-- The value of a key that is there. -/
def live? (ks : Keyspace) (key : String) : Option Row :=
  (ks.rows.find? key).filter (·.isLive ks.now)

/-- The keys that are there, each with its value and the time left. -/
def data (ks : Keyspace) : List (String × Token × Option Nat) :=
  ks.rows.rows.filterMap fun (key, row) =>
    if row.isLive ks.now then some (key, row.value, row.expires.map (· - ks.now)) else none

def put (ks : Keyspace) (key : String) (row : Row) : Keyspace :=
  { ks with rows := ks.rows.put key row }

def advance (ks : Keyspace) (millis : Nat) : Keyspace := { ks with now := ks.now + millis }

/-- The millisecond that comes after so many. -/
def deadline (ks : Keyspace) (millis : Nat) (command : String) : Except Refusal Nat :=
  if limit ≤ millis then .error .outOfRange
  else if millis = 0 ∨ limit ≤ ks.now + millis then .error (.badTime command)
  else .ok (ks.now + millis)

/-- Runs a command; one that fails changes nothing. -/
def run (ks : Keyspace) : Command → Except Refusal Value × Keyspace
  | .get key => (.ok ((ks.live? key).elim .nothing fun row => .value row.value), ks)
  | .set key value millis =>
    match ks.deadline millis "set" with
    | .ok deadline => (.ok .ok, ks.put key ⟨value, some deadline⟩)
    | .error refusal => (.error refusal, ks)
  | .pexpire key millis =>
    match ks.deadline millis "pexpire", ks.live? key with
    | .error refusal, _ => (.error refusal, ks)
    | .ok _, none => (.ok (.number 0), ks)
    | .ok deadline, some row => (.ok (.number 1), ks.put key ⟨row.value, some deadline⟩)
  | .del key =>
    match ks.live? key with
    | some _ => (.ok (.number 1), { ks with rows := ks.rows.drop key })
    | none => (.ok (.number 0), ks)

end Keyspace
end LeaseLock.Redis
