import LeaseLock.Store.Request

/-!
# Traces

What a store with a clock answers to moves that are made one after another, and where they
lead. The store is given by its step.
-/

namespace LeaseLock

/-- What a request writes if it is granted: the key, its owner and how long it lasts. -/
def Request.write? : Request → Option (String × Token × Span)
  | .acquire key token ttl | .refresh key token ttl => some (key, token, ttl)
  | .release .. => none

/-- The token that a request presents as a new one. -/
def Request.presents? : Request → Option Token
  | .acquire _ token _ => some token
  | .refresh .. | .release .. => none

/-- The key of which a move may change the owner. -/
def Move.target? : Move → Option String
  | .request r => some r.key
  | .expire key => some key
  | .holder _ | .remaining _ | .advance _ => none

/-- The key that a move is about. -/
def Move.key? : Move → Option String
  | .request r => some r.key
  | .expire key | .holder key | .remaining key => some key
  | .advance _ => none

/-- Whether a move is about one of the keys, or about none. -/
def Move.within (keys : String → Bool) (m : Move) : Bool := m.key?.all keys

/-- Whether a move does nothing but look. -/
def Move.isQuery : Move → Bool
  | .holder _ | .remaining _ => true
  | .request _ | .expire _ | .advance _ => false

namespace Trace

variable {σ : Type} (step : σ → Move → Reply × σ)

/-- The answers to moves, in order. -/
def answers : σ → List Move → List Reply
  | _, [] => []
  | s, m :: moves => (step s m).1 :: answers (step s m).2 moves

/-- Where moves lead. -/
def final (s : σ) (moves : List Move) : σ := moves.foldl (fun s m => (step s m).2) s

@[simp] theorem final_nil (s : σ) : final step s [] = s := rfl

@[simp] theorem final_cons (s : σ) (m : Move) (moves : List Move) :
    final step s (m :: moves) = final step (step s m).2 moves := rfl

end Trace
end LeaseLock
