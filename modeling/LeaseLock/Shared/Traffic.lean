import LeaseLock.Shared.Flights

/-!
# Flights Step by Step

What `Flights.enter` and `Flights.land` do in one go takes several moves, between which others
may move in any order. A caller draws its id before it looks at the table. A new flight has a
guard from then on, which goes when the work is over, however it ends, and takes the entry off
the table; only then does the outcome get out to those who wait for it.
-/

namespace LeaseLock

namespace Flights

variable {α : Type}

/-- The key and the id of a flight. -/
def name? (f : Flights α) (number : Nat) : Option (String × UInt64) :=
  (f.all[number]?).map fun flight => (flight.key, flight.id)

/-- Looks at the table with an id drawn before: joins the flight for `key`, or enters one. -/
def board (f : Flights α) (key : String) (id : UInt64) : (Nat × Bool) × Flights α :=
  match f.table.find? key with
  | some row => ((row.number, false), f)
  | none =>
    ((f.all.length, true), { f with
      table := f.table.put key ⟨id, f.all.length⟩
      all := f.all ++ [⟨key, id, .boarding⟩] })

/-- Takes the entry for the key of a flight off the table, if it has the flight's id. -/
def strike (f : Flights α) (number : Nat) : Flights α :=
  match f.name? number with
  | none => f
  | some (key, id) =>
    match f.table.find? key with
    | some row => if row.id = id then { f with table := f.table.drop key } else f
    | none => f

end Flights

/-- How far a flight is from its end. -/
structure Traffic.Log (α : Type) where
  /-- What its work came to, once that is over. -/
  work : Option α
  guarded : Bool
  /-- Whether those who wait know what to wait for. -/
  known : Bool
  deriving DecidableEq

structure Traffic (α : Type) where
  flights : Flights α
  /-- The callers that have drawn an id and have not looked at the table yet. -/
  callers : List (String × UInt64)
  /-- The log of each flight, by its number. -/
  log : Nat → Traffic.Log α
  /-- The flights of which somebody has received the outcome, the latest first. -/
  received : List (Nat × α)

inductive Traffic.Move (α : Type)
  | draw (key : String)
  /-- The caller at an index looks at the table. -/
  | look (i : Nat)
  | launch (number : Nat)
  /-- The work breaks down while it is made, and never gets under way. -/
  | balk (number : Nat) (outcome : α)
  /-- Those who wait learn what to wait for. -/
  | announce (number : Nat)
  /-- The work ends, by itself or not. -/
  | finish (number : Nat) (outcome : α)
  /-- The guard goes. -/
  | clear (number : Nat)
  | reveal (number : Nat)
  /-- Somebody who waits for a flight looks for its outcome. -/
  | poll (number : Nat)

namespace Traffic

variable {α : Type}

/-- The log of a flight that has just been entered. -/
def Log.fresh : Log α := ⟨none, true, false⟩

/-- No flights yet, and ids from anywhere on. -/
def start (firstId : UInt64) : Traffic α :=
  ⟨{ Flights.empty with nextId := firstId }, [], fun _ => .fresh, []⟩

def setLog (t : Traffic α) (number : Nat) (log : Log α) : Traffic α :=
  { t with log := fun k => if k = number then log else t.log k }

/-- The state after a move. A move that is not possible does nothing. -/
def step (t : Traffic α) : Move α → Traffic α
  | .draw key =>
    { t with
      flights := { t.flights with nextId := t.flights.nextId + 1 }
      callers := t.callers ++ [(key, t.flights.nextId)] }
  | .look i =>
    match t.callers[i]? with
    | some (key, id) =>
      { t with flights := (t.flights.board key id).2, callers := t.callers.eraseIdx i }
    | none => t
  | .launch n =>
    match t.flights.stage? n, (t.log n).work with
    | some .boarding, none => { t with flights := t.flights.launch n }
    | _, _ => t
  | .balk n outcome =>
    match t.flights.stage? n, (t.log n).work with
    | some .boarding, none => t.setLog n { t.log n with work := some outcome, known := true }
    | _, _ => t
  | .announce n =>
    match t.flights.stage? n with
    | some .flying => t.setLog n { t.log n with known := true }
    | _ => t
  | .finish n outcome =>
    match t.flights.stage? n, (t.log n).work with
    | some .flying, none => t.setLog n { t.log n with work := some outcome }
    | _, _ => t
  | .clear n =>
    match t.log n with
    | ⟨some outcome, true, known⟩ =>
      { t with flights := t.flights.strike n }.setLog n ⟨some outcome, false, known⟩
    | _ => t
  | .reveal n =>
    match t.log n with
    | ⟨some outcome, false, true⟩ =>
      { t with flights := t.flights.setStage n (.landed outcome) }
    | _ => t
  | .poll n =>
    match t.flights.outcome? n with
    | some outcome => { t with received := (n, outcome) :: t.received }
    | none => t

def run (t : Traffic α) (moves : List (Move α)) : Traffic α := moves.foldl step t

/-- Whether a flight for `key` still has its guard. -/
def Aloft (t : Traffic α) (key : String) (number : Nat) : Prop :=
  (∃ id, t.flights.name? number = some (key, id)) ∧ (t.log number).guarded = true

end Traffic
end LeaseLock
