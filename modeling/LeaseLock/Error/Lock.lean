import LeaseLock.Error.Config
import LeaseLock.Error.Redis
import LeaseLock.Text.Quoted

/-!
# Failures of a Lock

How an operation on a lock fails. `isTimeout` tells the failures after which it is not known
whether the store carried the operation out, `isRetryable` those after which an acquisition
asks its retry strategy.
-/

namespace LeaseLock

inductive LockError
  /-- Another owner holds the key. -/
  | acquireFailed (key : String)
  /-- The retry strategy gave up after `attempts` attempts, the last of which failed so. -/
  | retriesExhausted (attempts : Nat) (last : LockError)
  /-- The store does not map the key to the token that was presented. -/
  | notHeld
  /-- The caller's signal fired. -/
  | cancelled
  /-- The store did not answer in time. -/
  | timeout
  | redis (cause : ClientError)
  | invalidConfig (cause : ConfigError)
  | store (text : String)
  deriving DecidableEq

namespace LockError

def message : LockError → String
  | acquireFailed key => s!"Failed to acquire lock: {key} is held by another owner"
  | retriesExhausted n last => s!"Retries exhausted after {n} attempts: {last.message}"
  | notHeld => "Lock not held"
  | cancelled => "Lock operation cancelled"
  | timeout => "Lock timeout"
  | redis e => s!"Redis error: {e.message}"
  | invalidConfig e => s!"Invalid configuration: {e.message}"
  | store text => s!"Store error: {text}"

def isTimeout : LockError → Bool
  | timeout => true
  | redis e => e.isTimeout
  | _ => false

def isNotHeld : LockError → Bool
  | notHeld => true
  | _ => false

def isRetryable : LockError → Bool
  | acquireFailed _ | timeout | redis _ | store _ => true
  | retriesExhausted .. | notHeld | cancelled | invalidConfig _ => false

/-- The texts of the failures behind this one, the nearest first. -/
def sources : LockError → List String
  | retriesExhausted _ last => last.message :: last.sources
  | invalidConfig e => [e.message]
  | _ => []

/-- What a failure of Redis is to a lock: a missed deadline stays one, the client's failures
keep their cause, and all others keep their text. -/
def ofRedis : RedisError → LockError
  | .client e => redis e
  | .timeout => timeout
  | e => store e.message

/-- What stands before the number of a task that broke down. -/
def breakdownMark : String := "in-flight acquisition aborted: task "

/-- What joining a task that broke down with this text comes to. Which task it was is not said:
the letter stands for its number. -/
def ofBreakdown (text : String) : LockError :=
  store s!"{breakdownMark}N panicked with message {Text.quoted text}"

/-- The text with the same letter for the number of a task that broke down, since numbers differ
from run to run; only the first place that could name a task counts. -/
def withoutTaskNumber (mark : List Char) : List Char → List Char
  | [] => []
  | c :: cs =>
    if mark.isPrefixOf (c :: cs) then
      let after := (c :: cs).drop mark.length
      let rest := after.dropWhile (·.isDigit)
      if rest.length < after.length then mark ++ 'N' :: rest else c :: cs
    else c :: withoutTaskNumber mark cs

/-- The message, the same in every run. -/
def stableMessage (e : LockError) : String :=
  String.ofList (withoutTaskNumber breakdownMark.toList e.message.toList)

end LockError
end LeaseLock
