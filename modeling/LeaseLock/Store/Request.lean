import LeaseLock.Time.Span

/-!
# Requests

What a lock asks of its store. A key has at most one owner at a time, who is known by a
token; a request succeeds or is refused, and only the owner's requests succeed while a key
is held.
-/

namespace LeaseLock

/-- The proof of ownership. Minted tokens are numbered in the order of minting, so that no two
are equal; whoever brings its own token goes by a name. -/
inductive Token
  | minted (n : Nat)
  | named (text : String)
  deriving DecidableEq

/-- How a token is written. -/
def Token.text : Token → String
  | minted n => s!"#{n}"
  | named text => text

inductive Request
  /-- Hold the key for `ttl`, unless another owner does. -/
  | acquire (key : String) (token : Token) (ttl : Span)
  /-- Hold the key, which is already held, for `ttl` from now on. -/
  | refresh (key : String) (token : Token) (ttl : Span)
  /-- Stop holding the key. -/
  | release (key : String) (token : Token)
  deriving DecidableEq

namespace Request

def key : Request → String
  | acquire k .. | refresh k .. | release k .. => k

def token : Request → Token
  | acquire _ t _ | refresh _ t _ | release _ t => t

def ttl? : Request → Option Span
  | acquire _ _ d | refresh _ _ d => some d
  | release .. => none

end Request

/-- What is done to a store with a clock, by owners and by others. -/
inductive Move
  | request (r : Request)
  /-- Drop the key, whoever holds it. -/
  | expire (key : String)
  | holder (key : String)
  | remaining (key : String)
  | advance (d : Span)
  deriving DecidableEq

/-- What a store with a clock answers to a move. -/
inductive Reply
  /-- The move has no answer. -/
  | done
  /-- Whether the request was granted. -/
  | granted (yes : Bool)
  /-- The request would have been granted until an instant that no clock can name. -/
  | overflow
  | holder (token : Option Token)
  | remaining (left : Option Span)
  deriving DecidableEq

end LeaseLock
