import Mathlib.Tactic.Common
import LeaseLock.World.History

/-!
What the pieces of a step leave as it was, and the one event that each of them may add to the
history.
-/

namespace LeaseLock.World

variable (w : World) (i : Nat) (t : Task)

/-! ### Changes that add no event -/

@[simp] lemma setTask_tasks : (w.setTask i t).tasks = w.tasks.set i t := rfl
@[simp] lemma setTask_history : (w.setTask i t).history = w.history := rfl

@[simp] lemma setFlights_tasks (group : String) (f : Flights Shared) :
    (w.setFlights group f).tasks = w.tasks := rfl
@[simp] lemma setFlights_history (group : String) (f : Flights Shared) :
    (w.setFlights group f).history = w.history := rfl

@[simp] lemma setFlights_flightsOf (group g : String) (f : Flights Shared) :
    (w.setFlights group f).flightsOf g = if g = group then f else w.flightsOf g := by
  simp only [flightsOf, setFlights, Table.find?_put]
  split <;> rfl

@[simp] lemma spawn_fired (p : Process) (duty : Option Duty) :
    (w.spawn p duty).2.fired = w.fired := rfl
@[simp] lemma spawn_tasks (p : Process) (duty : Option Duty) :
    (w.spawn p duty).2.tasks = w.tasks ++ [⟨p, none, duty, none⟩] := rfl
@[simp] lemma spawn_history (p : Process) (duty : Option Duty) :
    (w.spawn p duty).2.history = w.history := rfl

/-! ### Changes that add an event -/

@[simp] lemma record_history (e : Event) : (w.record e).history = e :: w.history := rfl

@[simp] lemma fire_now (s : Signal) : (w.fire s).now = w.now := by
  unfold fire; split <;> rfl

@[simp] lemma fire_memory (s : Signal) : (w.fire s).memory = w.memory := by
  unfold fire; split <;> rfl

@[simp] lemma fire_minted (s : Signal) : (w.fire s).minted = w.minted := by
  unfold fire; split <;> rfl

@[simp] lemma fire_plans (s : Signal) : (w.fire s).plans = w.plans := by
  unfold fire; split <;> rfl

@[simp] lemma fire_tasks (s : Signal) : (w.fire s).tasks = w.tasks := by
  unfold fire; split <;> rfl

@[simp] lemma fire_flightsOf (s : Signal) (group : String) :
    (w.fire s).flightsOf group = w.flightsOf group := by
  unfold fire; split <;> rfl

/-- A signal that has fired fires no second time. -/
lemma fire_cases (s : Signal) : (s ∈ w.fired ∧ w.fire s = w) ∨
    ((w.fire s).fired = s :: w.fired ∧ (w.fire s).history = .fired w.now s :: w.history) := by
  unfold fire
  split
  · next h => exact .inl ⟨by simpa using h, rfl⟩
  · exact .inr ⟨rfl, rfl⟩

lemma mem_fire {s s' : Signal} (h : s' ∈ w.fired) : s' ∈ (w.fire s).fired := by
  rcases w.fire_cases s with ⟨-, he⟩ | ⟨he, -⟩
  · rw [he]; exact h
  · rw [he]; exact List.mem_cons_of_mem s h

lemma finish_eq (ending : Ending) : ∃ flights, w.finish i t ending =
    { (w.setTask i { t with underway := none, ending := some ending }).record
        (.ended w.now i ending) with flights } := by
  unfold finish
  split <;> exact ⟨_, rfl⟩

@[simp] lemma finish_now (ending : Ending) : (w.finish i t ending).now = w.now := by
  obtain ⟨flights, h⟩ := w.finish_eq i t ending
  rw [h]; rfl

@[simp] lemma finish_memory (ending : Ending) : (w.finish i t ending).memory = w.memory := by
  obtain ⟨flights, h⟩ := w.finish_eq i t ending
  rw [h]; rfl

@[simp] lemma finish_minted (ending : Ending) : (w.finish i t ending).minted = w.minted := by
  obtain ⟨flights, h⟩ := w.finish_eq i t ending
  rw [h]; rfl

@[simp] lemma finish_fired (ending : Ending) : (w.finish i t ending).fired = w.fired := by
  obtain ⟨flights, h⟩ := w.finish_eq i t ending
  rw [h]; rfl

@[simp] lemma finish_plans (ending : Ending) : (w.finish i t ending).plans = w.plans := by
  obtain ⟨flights, h⟩ := w.finish_eq i t ending
  rw [h]; rfl

@[simp] lemma finish_tasks (ending : Ending) : (w.finish i t ending).tasks =
    w.tasks.set i { t with underway := none, ending := some ending } := by
  obtain ⟨flights, h⟩ := w.finish_eq i t ending
  rw [h]; rfl

@[simp] lemma finish_history (ending : Ending) :
    (w.finish i t ending).history = .ended w.now i ending :: w.history := by
  obtain ⟨flights, h⟩ := w.finish_eq i t ending
  rw [h]; rfl

lemma ask_minted (r : Request) :
    (w.ask i t r).minted = w.minted + if r.presents?.isSome then 1 else 0 := by
  cases r <;> rfl

@[simp] lemma ask_history (r : Request) :
    (w.ask i t r).history = .asked w.now i r :: w.history := rfl

end LeaseLock.World
