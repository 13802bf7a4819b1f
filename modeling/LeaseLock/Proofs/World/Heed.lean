import Mathlib.Tactic.Common
import LeaseLock.Proofs.World.Calls

/-!
Runs that keep no task waiting.

A run heeds a task if the clock stands still while the task has something to do, and passes by no
instant that the task waits for. So it is where tasks are woken as soon as they can go on, and the
clock moves only when none can, to the next timer and not beyond it. A statement about when a task
does something asks for this, and says nothing about tasks that get their turn too late.
-/

namespace LeaseLock.World

variable {w w' : World} {j : Nat} {t t' : Task} {a : Act} {s : Signal}

/-! ### What stays as it is -/

/-- What has fired has fired for good. -/
lemma mem_fired_act (w : World) (a : Act) (h : s ∈ w.fired) : s ∈ (w.act a).fired := by
  cases a with
  | step i =>
    rcases w.act_step i with hs | ⟨t, -, -, hm | htu⟩
    · rwa [hs]
    · generalize w.act (.step i) = v at hm ⊢
      cases hm <;> exact h
    · generalize w.act (.step i) = v at htu ⊢
      cases htu with
      | fired p signal turn => exact w.mem_fire h
      | went | asked | joined | entered | launched => exact h
      | leased | done | failed | broke | refused | cancelled | told | toldFailure =>
        rw [finish_fired]
        exact h
  | abort i =>
    rcases w.act_abort i with hs | ⟨t, -, -, hs⟩
    · rwa [hs]
    · rwa [hs, finish_fired]
  | fire s' => exact w.mem_fire h
  | intrude r =>
    simp only [World.act]
    split <;> exact h
  | advance | newSignal | expire | plan | spawn => exact h

/-- A task that has ended takes no step. -/
lemma step_of_ended {ending : Ending} (ht : w.tasks[j]? = some t) (hend : t.ending = some ending) :
    w.act (.step j) = w := by
  rcases w.act_step j with h | ⟨t', ht', hrunning, -⟩
  · exact h
  · cases ht.symm.trans ht'
    cases hend.symm.trans hrunning

/-- A task that has ended is not touched any more. -/
lemma ended_act (w : World) (a : Act) (ht : w.tasks[j]? = some t) {ending : Ending}
    (hend : t.ending = some ending) : (w.act a).tasks[j]? = some t := by
  by_cases hstep : a = .step j
  · subst hstep
    rwa [step_of_ended ht hend]
  by_cases habort : a = .abort j
  · subst habort
    rcases w.act_abort j with h | ⟨t', ht', hrunning, -⟩
    · rwa [h]
    · cases ht.symm.trans ht'
      cases hend.symm.trans hrunning
  · exact other_act ht hstep habort

lemma running_of_act (ht : w.tasks[j]? = some t) (ht' : (w.act a).tasks[j]? = some t')
    (hend' : t'.ending = none) : t.ending = none := by
  cases hending : t.ending with
  | none => rfl
  | some ending =>
    cases ht'.symm.trans (w.ended_act a ht hending)
    exact hending.symm.trans hend'

lemma now_le_act (w : World) (a : Act) : w.now ≤ (w.act a).now := by
  by_cases hadvance : ∃ x, a = .advance x
  · obtain ⟨x, rfl⟩ := hadvance
    exact Nat.le_add_right _ _
  · exact Nat.le_of_eq (w.act_now fun x hx => hadvance ⟨x, hx⟩).symm

lemma mem_fired_run {acts : List Act} (h : s ∈ w.fired) : s ∈ (w.run acts).fired :=
  run_induction (P := fun v => s ∈ v.fired) h fun v a _ hv => v.mem_fired_act a hv

lemma hasFired_run {signal : Option Signal} {acts : List Act} (h : w.hasFired signal = true) :
    (w.run acts).hasFired signal = true := by
  cases signal with
  | none => cases h
  | some s =>
    have hmem : s ∈ (w.run acts).fired := mem_fired_run (by simpa [hasFired] using h)
    simpa [hasFired] using hmem

lemma now_le_run (w : World) (acts : List Act) : w.now ≤ (w.run acts).now :=
  run_induction (P := fun v => w.now ≤ v.now) (Nat.le_refl _)
    fun v a _ h => Nat.le_trans h (v.now_le_act a)

/-! ### Tasks that are not kept waiting -/

/-- Whether the clock moves, if it does, when task `j` has nothing left to do, and not past an
instant that task `j` waits for. -/
def Heeds (w : World) (j : Nat) : Act → Prop
  | .advance x => w.step j = none ∧ ∀ t ∈ w.tasks[j]?, ∀ wake ∈ wakes t, w.now + x ≤ wake
  | _ => True

/-- Whether a run never keeps task `j` waiting. -/
def Heeded (w : World) (j : Nat) : List Act → Prop
  | [] => True
  | a :: acts => w.Heeds j a ∧ (w.act a).Heeded j acts

instance : Decidable (w.Heeds j a) :=
  match a with
  | .advance x => inferInstanceAs (Decidable (w.step j = none ∧
      ∀ t ∈ w.tasks[j]?, ∀ wake ∈ wakes t, w.now + x ≤ wake))
  | .step _ | .spawn _ | .abort _ | .fire _ | .newSignal | .expire _ | .intrude _ | .plan _ =>
    .isTrue trivial

instance Heeded.decidable : (w : World) → (acts : List Act) → Decidable (w.Heeded j acts)
  | _, [] => .isTrue trivial
  | w, a :: acts =>
    have := Heeded.decidable (w.act a) acts
    inferInstanceAs (Decidable (w.Heeds j a ∧ (w.act a).Heeded j acts))

lemma heeded_append {first rest : List Act} :
    w.Heeded j (first ++ rest) ↔ w.Heeded j first ∧ (w.run first).Heeded j rest := by
  induction first generalizing w with
  | nil => exact by simp [Heeded]
  | cons a first ih => simp only [List.cons_append, Heeded, run_cons, ih, and_assoc]

end LeaseLock.World
