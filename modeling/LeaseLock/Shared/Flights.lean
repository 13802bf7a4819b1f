import LeaseLock.Store.Table

/-!
# Flights

Concurrent calls for one key that share one piece of work. The first caller enters a new
flight for the key and then launches its work; whoever comes while the flight is entered
joins it. When the work ends, in whatever way, the flight is taken off the table before its
outcome can be seen, so that the next caller starts a new one. Entries carry an id, and a
flight that ends only ever removes the entry with its own; ids wrap around.
-/

namespace LeaseLock

/-- How far a flight has got. -/
inductive Flight.Stage (α : Type)
  /-- Entered on the table, its work not yet under way. -/
  | boarding
  | flying
  | landed (outcome : α)
  deriving DecidableEq

structure Flight (α : Type) where
  key : String
  id : UInt64
  stage : Flight.Stage α
  deriving DecidableEq

/-- What the table says of a key: the id of its entry and the number of the flight. -/
structure Flights.Row where
  id : UInt64
  number : Nat
  deriving DecidableEq

structure Flights (α : Type) where
  table : Table Flights.Row
  /-- Every flight there ever was, by its number. -/
  all : List (Flight α)
  nextId : UInt64

namespace Flights

variable {α : Type}

def empty : Flights α := ⟨.empty, [], 0⟩

instance : Inhabited (Flights α) := ⟨empty⟩

/-- The stage of a flight. -/
def stage? (f : Flights α) (number : Nat) : Option (Flight.Stage α) :=
  (f.all[number]?).map (·.stage)

/-- The outcome of a flight, once it has landed. -/
def outcome? (f : Flights α) (number : Nat) : Option α :=
  match f.stage? number with
  | some (.landed outcome) => some outcome
  | _ => none

def setStage (f : Flights α) (number : Nat) (stage : Flight.Stage α) : Flights α :=
  { f with all := f.all.modify number fun flight => { flight with stage } }

/-- Joins the flight on the table for `key`, or enters a new one: the number of the flight,
and whether it is new. Every caller uses up an id, also one that joins. -/
def enter (f : Flights α) (key : String) : (Nat × Bool) × Flights α :=
  let id := f.nextId
  let f := { f with nextId := f.nextId + 1 }
  match f.table.find? key with
  | some row => ((row.number, false), f)
  | none =>
    ((f.all.length, true), { f with
      table := f.table.put key ⟨id, f.all.length⟩
      all := f.all ++ [⟨key, id, .boarding⟩] })

/-- The work of a flight gets under way. -/
def launch (f : Flights α) (number : Nat) : Flights α := f.setStage number .flying

/-- The work of a flight ends, or fails to get under way, with an outcome. -/
def land (f : Flights α) (number : Nat) (outcome : α) : Flights α :=
  match f.all[number]? with
  | none => f
  | some flight =>
    let table :=
      match f.table.find? flight.key with
      | some row => if row.id = flight.id then f.table.drop flight.key else f.table
      | none => f.table
    { f with table }.setStage number (.landed outcome)

end Flights
end LeaseLock
