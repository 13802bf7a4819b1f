import LeaseLock.Number.Width
import LeaseLock.Settings.Locking
import LeaseLock.Text.Number

/-!
# Settings from the Environment

An environment gives bytes to names. A variable whose bytes are no text in UTF-8 counts as
not given, and so does one that should be a number and is none.
-/

namespace LeaseLock

/-- The variables that are set. -/
structure Environment where
  entries : List (String × List UInt8)

namespace Environment

def text? (env : Environment) (name : String) : Option String := do
  String.fromUTF8? ⟨(← env.entries.lookup name).toArray⟩

/-- A variable that is a number below `limit`. -/
def number? (env : Environment) (limit : Nat) (name : String) : Option Nat := do
  Text.readUnsigned limit (← env.text? name).toList

/-- A variable that is a positive number of 64 bits. -/
def positive? (env : Environment) (name : String) : Option Nat :=
  (env.number? Width.bits64 name).filter (0 < ·)

end Environment

namespace LockSettings

/-- What an environment sets of a lock. -/
def settersOf (env : Environment) : List Setter :=
  [ (env.positive? "LEASEHOLD_TTL_SECS").map fun n => .ttl (.ofSecs n),
    (env.positive? "LEASEHOLD_ACQUIRE_TIMEOUT_MS").map fun n => .acquireTimeout (.ofMillis n),
    (env.positive? "LEASEHOLD_RETRY_INTERVAL_MS").map fun n => .retryInterval (.ofMillis n),
    (env.number? Width.bits32 "LEASEHOLD_MAX_RETRIES").map fun n => .maxRetries n.toUInt32,
    (env.positive? "LEASEHOLD_REFRESH_INTERVAL_MS").map fun n => .refreshInterval (.ofMillis n),
    (env.positive? "LEASEHOLD_REFRESH_TIMEOUT_MS").map fun n => .refreshTimeout (.ofMillis n)
  ].filterMap id

def ofEnvironment (env : Environment) : LockSettings := standard.setAll (settersOf env)

end LockSettings
end LeaseLock
