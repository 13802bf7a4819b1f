import Mathlib.Tactic.Common
import LeaseLock.Shared.Flights

/-!
How far flights have got, seen by their numbers.

Entering adds one flight, which boards; launching and landing change one flight each.
-/

namespace LeaseLock.Flights

variable {α : Type} (f : Flights α) (number k : Nat)

lemma stage?_setStage (stage : Flight.Stage α) : (f.setStage number stage).stage? k =
    if k = number then (f.stage? k).map fun _ => stage else f.stage? k := by
  unfold stage? setStage
  rw [List.getElem?_modify]
  by_cases hk : k = number
  · subst hk
    simp [Function.comp_def]
  · simp [hk, Ne.symm hk]

/-- Whoever enters finds the flight for the key, or boards a new one. -/
lemma stage?_enter (key : String) : (f.enter key).2.stage? k =
    if f.table.find? key = none ∧ k = f.all.length then some .boarding else f.stage? k := by
  unfold enter stage?
  cases hrow : f.table.find? key with
  | some row => simp [hrow]
  | none =>
    simp only [hrow, true_and]
    split
    · next hk => simp [hk]
    · next hk =>
      rcases Nat.lt_or_ge k f.all.length with hlt | hge
      · rw [List.getElem?_append_left hlt]
      · rw [List.getElem?_eq_none (by simp; omega), List.getElem?_eq_none hge]

lemma stage?_land (outcome : α) : (f.land number outcome).stage? k =
    if k = number then (f.stage? k).map fun _ => .landed outcome else f.stage? k := by
  unfold land
  split
  · next h =>
    split
    · next hk =>
      subst hk
      simp [stage?, h]
    · rfl
  · next flight h => exact stage?_setStage ..

variable {f number k} {outcome x : α}

lemma outcome?_eq_some : f.outcome? k = some x ↔ f.stage? k = some (.landed x) := by
  unfold outcome?
  split <;> simp_all

/-- Nobody sees an outcome earlier for entering. -/
lemma outcome?_of_enter {key : String} (h : (f.enter key).2.outcome? k = some x) :
    f.outcome? k = some x := by
  rw [outcome?_eq_some, stage?_enter] at h
  split at h
  · cases h
  · exact outcome?_eq_some.mpr h

lemma outcome?_of_launch (h : (f.launch number).outcome? k = some x) :
    f.outcome? k = some x := by
  rw [outcome?_eq_some, launch, stage?_setStage] at h
  split at h
  · obtain ⟨stage, -, hs⟩ := Option.map_eq_some_iff.mp h
    cases hs
  · exact outcome?_eq_some.mpr h

/-- A flight that lands brings its own outcome, and no other flight gets it. -/
lemma outcome?_of_land (h : (f.land number outcome).outcome? k = some x) :
    x = outcome ∨ f.outcome? k = some x := by
  rw [outcome?_eq_some, stage?_land] at h
  split at h
  · obtain ⟨stage, -, hs⟩ := Option.map_eq_some_iff.mp h
    cases hs
    exact .inl rfl
  · exact .inr (outcome?_eq_some.mpr h)

/-- The flights still open after one has landed. -/
lemma outcome?_land_eq_none (h : (f.stage? number).isSome) :
    (f.land number outcome).outcome? k = none ↔ f.outcome? k = none ∧ k ≠ number := by
  obtain ⟨stage, hs⟩ := Option.isSome_iff_exists.mp h
  simp only [outcome?, stage?_land]
  by_cases hk : k = number
  · simp [hk, hs]
  · simp [hk]

end LeaseLock.Flights
