import Mathlib.Tactic.Common
import LeaseLock.Proofs.Shared.Flights
import LeaseLock.Shared.Traffic

/-!
What the table says of flights.

A table lists the open flights, whichever those are, if its rows are their keys, ids and numbers.
Then no two open flights have the same key, and a flight that is struck off finds its own row,
whatever ids there are.
-/

namespace LeaseLock.Flights

variable {α : Type} {f : Flights α} {number n : Nat} {key : String} {id : UInt64}

/-! ### Entering and landing in several moves -/

lemma enter_eq_board (f : Flights α) (key : String) :
    f.enter key = { f with nextId := f.nextId + 1 }.board key f.nextId := rfl

lemma land_eq_strike (f : Flights α) (number : Nat) (outcome : α) :
    f.land number outcome = (f.strike number).setStage number (.landed outcome) := by
  unfold land strike name?
  cases hf : f.all[number]? with
  | none =>
    have hlen : f.all.length ≤ number := List.getElem?_eq_none_iff.mp hf
    simp [setStage, List.modify_eq_self hlen]
  | some flight =>
    simp only [Option.map_some]
    cases f.table.find? flight.key with
    | none => rfl
    | some row =>
      dsimp only
      split <;> rfl

/-! ### Keys and ids -/

@[simp] lemma name?_setStage (f : Flights α) (number n : Nat) (stage : Flight.Stage α) :
    (f.setStage number stage).name? n = f.name? n := by
  unfold name? setStage
  rw [List.getElem?_modify]
  split <;> simp [Function.comp_def]

@[simp] lemma table_setStage (f : Flights α) (number : Nat) (stage : Flight.Stage α) :
    (f.setStage number stage).table = f.table := rfl

@[simp] lemma strike_all (f : Flights α) (number : Nat) : (f.strike number).all = f.all := by
  unfold strike
  split
  · rfl
  · split
    · split <;> rfl
    · rfl

@[simp] lemma name?_strike (f : Flights α) (number n : Nat) :
    (f.strike number).name? n = f.name? n := by
  unfold name?
  rw [strike_all]

@[simp] lemma name?_land (f : Flights α) (number n : Nat) (outcome : α) :
    (f.land number outcome).name? n = f.name? n := by
  rw [land_eq_strike, name?_setStage, name?_strike]

lemma lt_of_name? {name : String × UInt64} (h : f.name? n = some name) : n < f.all.length := by
  obtain ⟨flight, hf, -⟩ := Option.map_eq_some_iff.mp h
  exact (List.getElem?_eq_some_iff.mp hf).1

lemma board_joins {row : Row} (h : f.table.find? key = some row) :
    f.board key id = ((row.number, false), f) := by
  simp [board, h]

lemma board_enters (h : f.table.find? key = none) :
    f.board key id = ((f.all.length, true), { f with
      table := f.table.put key ⟨id, f.all.length⟩
      all := f.all ++ [⟨key, id, .boarding⟩] }) := by
  simp [board, h]

/-- A flight that is entered is boarding; the others are as far as they were. -/
lemma stage?_board (f : Flights α) (key : String) (id : UInt64) (n : Nat) :
    (f.board key id).2.stage? n =
      if f.table.find? key = none ∧ n = f.all.length then some .boarding else f.stage? n := by
  have henter := stage?_enter { f with nextId := id } n key
  rw [enter_eq_board] at henter
  cases hrow : f.table.find? key with
  | some row => simp [board_joins hrow]
  | none =>
    simp only [board, hrow] at henter ⊢
    exact henter

lemma name?_board (h : f.table.find? key = none) (id : UInt64) (n : Nat) :
    (f.board key id).2.name? n = if n = f.all.length then some (key, id) else f.name? n := by
  rw [board_enters h]
  unfold name?
  split
  · next hn => simp [hn]
  · next hn =>
    rcases Nat.lt_or_ge n f.all.length with hlt | hge
    · rw [List.getElem?_append_left hlt]
    · rw [List.getElem?_eq_none (by simp; omega), List.getElem?_eq_none hge]

/-- A flight keeps its key and its id when others come. -/
lemma name?_enter (h : n < f.all.length) (key : String) : (f.enter key).2.name? n = f.name? n := by
  rw [enter_eq_board]
  cases hrow : f.table.find? key with
  | some row => simp [board, hrow, name?]
  | none => simp [board, hrow, name?, List.getElem?_append_left h]

/-! ### The open flights -/

/-- The rows of the table are those of the open flights. -/
def Lists (f : Flights α) (isOpen : Nat → Prop) : Prop :=
  ∀ key row, f.table.find? key = some row ↔
    f.name? row.number = some (key, row.id) ∧ isOpen row.number

namespace Lists

variable {isOpen isOpen' : Nat → Prop}

lemma empty (nextId : UInt64) : Lists ({ (Flights.empty : Flights α) with nextId }) isOpen := by
  intro key row
  simp [Flights.empty, name?]

lemma find? (h : f.Lists isOpen) (hn : f.name? n = some (key, id)) (ho : isOpen n) :
    f.table.find? key = some ⟨id, n⟩ :=
  (h key ⟨id, n⟩).mpr ⟨hn, ho⟩

/-- **No two open flights have the same key.** -/
lemma unique (h : f.Lists isOpen) {m : Nat} {id' : UInt64} (hn : f.name? n = some (key, id))
    (hm : f.name? m = some (key, id')) (ho : isOpen n) (ho' : isOpen m) : n = m := by
  have := (h.find? hn ho).symm.trans (h.find? hm ho')
  exact congrArg Row.number (Option.some.inj this)

lemma congr (h : f.Lists isOpen) (ho : ∀ n, n < f.all.length → (isOpen' n ↔ isOpen n)) :
    f.Lists isOpen' := by
  intro key row
  rw [h key row]
  refine and_congr_right fun hn => (ho row.number ?_).symm
  exact lt_of_name? hn

lemma setStage (h : f.Lists isOpen) (number : Nat) (stage : Flight.Stage α) :
    (f.setStage number stage).Lists isOpen := by
  intro key row
  rw [name?_setStage, table_setStage]
  exact h key row

/-- A flight that is entered is open from then on. -/
lemma enters (h : f.Lists isOpen) (hfree : f.table.find? key = none) (id : UInt64)
    (ho : ∀ n, n < f.all.length → (isOpen' n ↔ isOpen n)) (hnew : isOpen' f.all.length) :
    (f.board key id).2.Lists isOpen' := by
  intro k row
  have htable : (f.board key id).2.table = f.table.put key ⟨id, f.all.length⟩ := by
    rw [board_enters hfree]
  rw [name?_board hfree, htable, Table.find?_put]
  by_cases hrow : row.number = f.all.length
  · -- the new row, since the others have smaller numbers
    rw [if_pos hrow]
    constructor
    · intro hk
      split at hk
      · next heq =>
        obtain rfl := Option.some.inj hk
        exact ⟨by rw [heq], hnew⟩
      · have := lt_of_name? ((h k row).mp hk).1
        omega
    · rintro ⟨hname, -⟩
      obtain ⟨rfl, hid⟩ := Prod.mk.inj (Option.some.inj hname)
      rw [if_pos rfl]
      obtain ⟨rid, rnumber⟩ := row
      simp_all
  · rw [if_neg hrow]
    by_cases hk : k = key
    · subst hk
      rw [if_pos rfl]
      constructor
      · intro heq
        obtain rfl := Option.some.inj heq
        exact absurd rfl hrow
      · rintro ⟨hname, hopen⟩
        have hlt := lt_of_name? hname
        rw [h.find? hname ((ho row.number hlt).mp hopen)] at hfree
        cases hfree
    · rw [if_neg hk, h k row]
      exact and_congr_right fun hname => (ho row.number (lt_of_name? hname)).symm

/-- An open flight that is struck off finds its own row. -/
lemma strike_table (h : f.Lists isOpen) (hn : f.name? number = some (key, id))
    (ho : isOpen number) : (f.strike number).table = f.table.drop key := by
  simp [Flights.strike, hn, h.find? hn ho]

lemma strike (h : f.Lists isOpen) (hn : f.name? number = some (key, id)) (ho : isOpen number)
    (hclosed : ∀ n, isOpen' n ↔ isOpen n ∧ n ≠ number) : (f.strike number).Lists isOpen' := by
  intro k row
  rw [name?_strike, h.strike_table hn ho, Table.find?_drop, hclosed]
  by_cases hk : k = key
  · subst hk
    rw [if_pos rfl]
    constructor
    · intro hnone
      cases hnone
    · rintro ⟨hname, hopen, hne⟩
      exact absurd (h.unique hname hn hopen ho) hne
  · rw [if_neg hk, h k row]
    refine and_congr_right fun hname => ⟨fun hopen => ⟨hopen, ?_⟩, fun ho => ho.1⟩
    rintro rfl
    exact hk (Prod.mk.inj (Option.some.inj (hname.symm.trans hn))).1

end Lists

/-! ### The flights that have not landed -/

/-- The rows of the table are those of the flights that have not landed. -/
def Listed (f : Flights α) : Prop := f.Lists fun n => f.outcome? n = none

namespace Listed

lemma enter (h : f.Listed) (key : String) : (f.enter key).2.Listed := by
  rw [enter_eq_board]
  generalize hf : { f with nextId := f.nextId + 1 } = f'
  have h' : f'.Listed := by
    subst hf
    exact h
  cases hrow : f'.table.find? key with
  | some row =>
    rw [board_joins hrow]
    exact h'
  | none =>
    refine Lists.enters h' hrow _ (fun n hn => ?_) ?_
    · rw [outcome?, stage?_board, if_neg (by omega)]
      rfl
    · rw [outcome?, stage?_board, if_pos ⟨hrow, rfl⟩]

lemma launch (h : f.Listed) (hs : f.stage? number = some .boarding) :
    (f.launch number).Listed := by
  refine (Lists.setStage h number .flying).congr fun n _ => ?_
  simp only [outcome?, Flights.launch, stage?_setStage]
  by_cases hn : n = number
  · simp [hn, hs]
  · simp [hn]

lemma land (h : f.Listed) {stage : Flight.Stage α} (hs : f.stage? number = some stage)
    (ho : f.outcome? number = none) (outcome : α) : (f.land number outcome).Listed := by
  obtain ⟨flight, hflight, -⟩ := Option.map_eq_some_iff.mp hs
  have hname : f.name? number = some (flight.key, flight.id) := by simp [name?, hflight]
  rw [land_eq_strike]
  refine (Lists.strike h hname ho fun n => ?_).setStage _ _
  rw [← land_eq_strike]
  exact outcome?_land_eq_none (by rw [hs]; rfl)

end Listed
end LeaseLock.Flights
