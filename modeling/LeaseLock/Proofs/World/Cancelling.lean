import Mathlib.Tactic.Common
import LeaseLock.Proofs.World.Signals
import LeaseLock.Proofs.World.Trials

/-!
Cancelling an acquisition.

From the moment at which its signal fires, an acquisition can do nothing but end. Whatever it waits
for, also if that comes about at the same instant, its next step cancels it; and if it is not kept
waiting, this step comes before the clock goes on.
-/

namespace LeaseLock

/-! ### Turns that ask the strategy -/

namespace Acquisition

/-- Whether a turn asks the strategy if there is to be another attempt. -/
def Consults (a : Acquisition) (g : Glimpse) : Prop :=
  g.fired = false ∧ ∃ token deadline e, a.stage = .asking token deadline ∧
    g.Fails (.acquireFailed a.key) deadline e ∧ e.isRetryable = true

end Acquisition

namespace World

variable {v w : World} {i : Nat} {t : Task} {a : Acquisition} {acts : List Act} {b : Act}
  {s : Signal}

/-- Whether task `i` is an acquisition that asks its strategy if it has a turn now. -/
def Consults (w : World) (i : Nat) : Prop :=
  ∃ t a, w.tasks[i]? = some t ∧ t.ending = none ∧ t.process = .acquisition a ∧
    a.Consults (w.glimpse t a.signal)

/-! ### Before the next step -/

/-- The clock stands still until an acquisition whose signal has fired takes its step. -/
lemma now_run_of_fired (ht : w.tasks[i]? = some t) (hend : t.ending = none)
    (hp : t.process = .acquisition a) (hf : w.hasFired a.signal = true) (hheeded : w.Heeded i acts)
    (hstep : .step i ∉ acts) (habort : .abort i ∉ acts) : (w.run acts).now = w.now := by
  induction acts generalizing w with
  | nil => rfl
  | cons b acts ih =>
    obtain ⟨hheeds, hrest⟩ := hheeded
    obtain ⟨hb, hstep⟩ := not_or.mp (mt List.mem_cons.mpr hstep)
    obtain ⟨hb', habort⟩ := not_or.mp (mt List.mem_cons.mpr habort)
    -- the task could take a step, so a clock that heeds it does not move
    have hadvance (d : Nat) : b ≠ .advance d := by
      rintro rfl
      cases (step_of_fired ht hend hp hf).symm.trans hheeds.1
    have hfired : (w.run [b]).hasFired a.signal = true := hasFired_run hf
    rw [run_cons, ih (other_act ht (Ne.symm hb) (Ne.symm hb')) hfired hrest hstep habort,
      act_now w hadvance]

/-! ### From the signal to the end -/

/-- What becomes of task `i` in a run from `v`, the signal of which has fired by then: it does
nothing until its first step, and this one cancels it, at the same instant if it is not kept
waiting. -/
structure Cancels (v : World) (i : Nat) (acts : List Act) : Prop where
  asksNothing : requestsOf i (v.run acts).history = requestsOf i v.history
  consultsNobody : ¬ (v.run acts).Consults i
  waits : .step i ∉ acts → (v.run acts).tasks[i]? = v.tasks[i]? ∧
    (v.Heeded i acts → (v.run acts).now = v.now)
  ends : .step i ∈ acts → (v.run acts).ending? i = some (.failed .cancelled) ∧
    (v.Heeded i acts → .ended v.now i (.failed .cancelled) ∈ (v.run acts).history)

lemma not_consults_of_fired (ht : v.tasks[i]? = some t) (hp : t.process = .acquisition a)
    (hf : v.hasFired a.signal = true) (acts : List Act) : ¬ (v.run acts).Consults i := by
  rintro ⟨t', a', ht', -, hp', hunfired, -⟩
  obtain ⟨x, hx, -, hsignal, -⟩ := stays_run ht acts
  cases ht'.symm.trans hx
  rw [hp, hp'] at hsignal
  have hfired : (v.run acts).hasFired a.signal = true := hasFired_run hf
  rw [← show a'.signal = a.signal from hsignal] at hfired
  cases hfired.symm.trans hunfired

/-- **An acquisition whose signal has fired is cancelled by its next step.** -/
theorem cancels_of_fired (ht : v.tasks[i]? = some t) (hend : t.ending = none)
    (hp : t.process = .acquisition a) (hf : v.hasFired a.signal = true)
    (habort : .abort i ∉ acts) : v.Cancels i acts := by
  have hconsults := not_consults_of_fired ht hp hf acts
  by_cases hstep : .step i ∈ acts
  · -- nothing happens to the task before its first step, nor after it, since it ends then
    obtain ⟨mid, rest, rfl, hmid⟩ := List.eq_append_cons_of_mem hstep
    have hquiet : .abort i ∉ mid := fun h => habort (List.mem_append_left _ h)
    have htask := other_run ht hmid hquiet
    have hfired : (v.run mid).hasFired a.signal = true := hasFired_run hf
    have hlast : (v.run mid).act (.step i) = (v.run mid).finish i t (.failed .cancelled) := by
      simp [World.act, step_of_fired htask hend hp hfired]
    have hlt := (List.getElem?_eq_some_iff.mp htask).1
    have hended : ((v.run mid).act (.step i)).tasks[i]? =
        some { t with underway := none, ending := some (.failed .cancelled) } := by
      rw [hlast, finish_tasks, List.getElem?_set_self hlt]
    have hrun : v.run (mid ++ .step i :: rest) = ((v.run mid).act (.step i)).run rest :=
      run_append ..
    refine ⟨?_, hconsults, absurd hstep, fun _ => ⟨?_, fun hheeded => ?_⟩⟩
    · rw [hrun, requestsOf_run_of_ended hended rfl, hlast,
        requestsOf_other rfl (finish_history ..), requestsOf_run_of_ne hmid]
    · rw [hrun, ending?, ended_run hended rfl]
      rfl
    · rw [hrun]
      refine mem_history_run _ _ ?_
      rw [hlast, finish_history,
        now_run_of_fired ht hend hp hf (heeded_append.mp hheeded).1 hmid hquiet]
      exact List.mem_cons_self
  · exact ⟨requestsOf_run_of_ne hstep, hconsults,
      fun _ => ⟨(other_run ht hstep habort).trans ht.symm, fun hheeded =>
        now_run_of_fired ht hend hp hf hheeded hstep habort⟩, fun h => absurd h hstep⟩

/-! ### From the firing of the signal -/

/-- The clock stands still when a signal fires. -/
lemma now_of_fires (hnew : s ∉ v.fired) (hfires : s ∈ (v.act b).fired) :
    (v.act b).now = v.now := by
  refine act_now v fun d hb => hnew ?_
  rw [hb] at hfires
  exact hfires

/-- **The signal of an acquisition ends it at once and for good.** If it fires while the acquisition
has not ended, whatever that waits for, then the acquisition asks neither the store nor its strategy
for anything from then on, and its next step cancels it, at the instant at which the signal fired if
it is not kept waiting. If the signal has fired before the first step of an acquisition, nothing is
ever put to the store for it. -/
theorem signal_cancels_acquisition :
    (∀ (v : World) (b : Act) (i : Nat) (t : Task) (a : Acquisition) (s : Signal) (acts : List Act),
      s ∉ v.fired → s ∈ (v.act b).fired → (v.act b).tasks[i]? = some t → t.ending = none →
      t.process = .acquisition a → a.signal = some s → .abort i ∉ acts →
      (v.act b).now = v.now ∧ (v.act b).Cancels i acts) ∧
    ∀ (plans : Plans) (before mid acts : List Act) (key : String) (ttl timeout : Span)
      (strategy : Retry.Strategy) (s : Signal),
      let v := (start plans).run before
      let i := v.tasks.length
      let u := (v.act (.spawn (.acquisition (.start key ttl timeout strategy (some s))))).run mid
      .step i ∉ mid → .abort i ∉ mid → s ∈ u.fired → .abort i ∉ acts →
      requestsOf i (u.run acts).history = [] ∧ u.Cancels i acts := by
  refine ⟨?_, ?_⟩
  · intro v b i t a s acts hnew hfires ht hend hp hs habort
    refine ⟨now_of_fires hnew hfires, cancels_of_fired ht hend hp ?_ habort⟩
    simpa [hs, hasFired] using hfires
  · intro plans before mid acts key ttl timeout strategy s v i u hstep hquiet hfired habort
    have ht : u.tasks[i]? =
        some ⟨.acquisition (.start key ttl timeout strategy (some s)), none, none, none⟩ :=
      other_run List.getElem?_concat_length hstep hquiet
    have hcancels : u.Cancels i acts :=
      cancels_of_fired ht rfl rfl (by simpa [Acquisition.start, hasFired] using hfired) habort
    refine ⟨?_, hcancels⟩
    rw [hcancels.asksNothing, requestsOf_run_of_ne hstep]
    exact (asked_run plans before).beyond (Nat.le_refl _)

/-- The signal of one acquisition fires when the wait between two attempts is over; the signal of
another has fired before the acquisition is begun. -/
theorem signal_cancels_acquisition_between_attempts :
    let plans : Plans := ⟨[⟨none, .answer false, none⟩], [], []⟩
    let work : Acquisition :=
      .start "k" (.ofSecs 9) (.ofSecs 1) (.ofList [.ofMillis 10] .stop) (some 7)
    let before := [.spawn (.acquisition work), .step 0, .step 0, .step 0, .advance 10000000]
    let v := (start plans).run before
    let w := (v.act (.fire 7)).run [.step 0]
    let u := ((start plans).run [.fire 7]).act (.spawn (.acquisition work))
    ((v.step 0).isSome ∧ v.ending? 0 = none ∧ 7 ∉ v.fired ∧ 7 ∈ (v.act (.fire 7)).fired) ∧
    (requestsOf 0 w.history).length = 1 ∧ .ended 10000000 0 (.failed .cancelled) ∈ w.history ∧
    requestsOf 0 (u.run [.step 0]).history = [] ∧
      (u.run [.step 0]).ending? 0 = some (.failed .cancelled) := by
  intro plans work before v w u
  have ht : (v.act (.fire 7)).tasks[0]? = some ⟨.acquisition { work with
      strategy := work.strategy.next.2, attempts := 1, stage := .resting 10000000 },
      none, none, none⟩ := by
    subst v before work plans
    rfl
  obtain ⟨-, hcancels⟩ := signal_cancels_acquisition.1 v (.fire 7) 0 _ _ 7 [.step 0] (by decide)
    (by decide) ht rfl rfl rfl (by simp)
  obtain ⟨hsilent, hearly⟩ := signal_cancels_acquisition.2 plans [.fire 7] [] [.step 0] "k"
    (.ofSecs 9) (.ofSecs 1) (.ofList [.ofMillis 10] .stop) 7 (by simp) (by simp) (by decide)
    (by simp)
  have hasks : (requestsOf 0 w.history).length = 1 := by
    rw [show w = (v.act (.fire 7)).run [.step 0] from rfl, hcancels.asksNothing]
    decide
  have hnow : (v.act (.fire 7)).now = 10000000 := by decide
  have hended := (hcancels.ends List.mem_cons_self).2 (by decide)
  rw [hnow] at hended
  exact ⟨by decide, hasks, hended, hsilent, (hearly.ends List.mem_cons_self).1⟩

end World
end LeaseLock
