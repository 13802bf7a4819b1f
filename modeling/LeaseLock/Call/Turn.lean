import LeaseLock.Error.Lock
import LeaseLock.Store.Request
import LeaseLock.Time.Instant

/-!
# Turns

A call is a machine that takes turns. At each turn it gets a `Glimpse` of the world, and
answers with what it does: nothing yet, go on, fire a signal, put a request to the store, or
end. While a request is under way the call waits for the response, and a call that goes on
or ends without it drops the request where it stands.
-/

namespace LeaseLock

/-- A signal that fires once and for all, by its number. -/
abbrev Signal := Nat

/-- A key that was granted. -/
structure Grant where
  key : String
  token : Token
  ttl : Span
  deriving DecidableEq

/-- A grant in the hands of a caller, with the signal that stops its renewals. Copies of a
lease share the signal. -/
structure Lease extends Grant where
  stop : Signal
  deriving DecidableEq

/-- How the store responds to a request. -/
inductive Response
  | granted (yes : Bool)
  | failed (e : LockError)
  /-- The store broke down with this text, and so does the call. -/
  | broken (text : String)
  deriving DecidableEq

/-- What a call sees of the world at its turn. -/
structure Glimpse where
  now : Nat
  /-- Whether the signal that the call listens to has fired. -/
  fired : Bool
  /-- The response to the request under way, once it is there. -/
  response : Option Response
  /-- A token that nobody has used. -/
  fresh : Token

/-- How a call ends. -/
inductive Outcome (α : Type)
  | ok (value : α)
  | failed (e : LockError)
  /-- The call broke down with this text. -/
  | broken (text : String)
  deriving DecidableEq

/-- What a call does at its turn. -/
inductive Turn (σ α : Type)
  | rest
  | go (s : σ)
  | fire (s : σ) (signal : Signal)
  | ask (s : σ) (r : Request)
  | fin (outcome : Outcome α)
  deriving DecidableEq

end LeaseLock
