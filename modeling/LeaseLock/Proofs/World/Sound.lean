import Mathlib.Tactic.Common
import LeaseLock.Proofs.World.Supply
import LeaseLock.Proofs.World.Tasks

/-!
Every task of a run agrees with the history.

`World.Sound` collects `Task.Sound` over all tasks. It holds of every world of a run in which
only the store answers requests, whatever calls are spawned and however they interleave.
-/

namespace LeaseLock

lemma Plans.Honest.take {plans : Plans} (h : plans.Honest) (r : Request) :
    (plans.take r).1.Honest ∧ (plans.take r).2.Honest :=
  Plans.All.take (P := Plan.Honest) (fun _ => Deed.noConfusion) h r

namespace World

variable {w w' : World} {i : Nat} {t : Task}

/-- How a world agrees with its history. -/
structure Sound (w : World) : Prop where
  tasks : ∀ (i : Nat) (t : Task), w.tasks[i]? = some t → t.Sound w.fired (latest? i w.history)
  /-- The history has no requests of tasks that are still to come. -/
  beyond : ∀ i, w.tasks.length ≤ i → latest? i w.history = none
  plans : w.plans.Honest

lemma sound_start {plans : Plans} (h : plans.Honest) : (start plans).Sound where
  tasks i t ht := by cases ht
  beyond i hi := rfl
  plans := h

namespace Sound

/-- A world that changes nothing but task `i`, and adds nothing of the others. -/
lemma update (hw : w.Sound) (ht : w.tasks[i]? = some t) {t' : Task}
    (htasks : w'.tasks = w.tasks.set i t') (hfired : ∀ s ∈ w.fired, s ∈ w'.fired)
    (hothers : ∀ j, j ≠ i → latest? j w'.history = latest? j w.history)
    (ht' : t'.Sound w'.fired (latest? i w'.history)) (hplans : w'.plans.Honest) :
    w'.Sound where
  tasks j x hx := by
    rw [htasks] at hx
    by_cases hj : j = i
    · subst hj
      rw [List.getElem?_set_self (List.getElem?_eq_some_iff.mp ht).1] at hx
      cases hx
      exact ht'
    · rw [List.getElem?_set_ne (Ne.symm hj)] at hx
      rw [hothers j hj]
      exact (hw.tasks j x hx).mono hfired
  beyond j hj := by
    rw [htasks, List.length_set] at hj
    have hlt := (List.getElem?_eq_some_iff.mp ht).1
    rw [hothers j (by omega)]
    exact hw.beyond j hj
  plans := hplans

lemma spawn (hw : w.Sound) (p : Process) (duty : Option Duty) : (w.spawn p duty).2.Sound where
  tasks j x hx := by
    simp only [spawn_tasks, spawn_fired, spawn_history] at hx ⊢
    by_cases hj : j < w.tasks.length
    · rw [List.getElem?_append_left hj] at hx
      exact hw.tasks j x hx
    · rw [List.getElem?_append_right (by omega)] at hx
      obtain rfl := List.mem_singleton.mp (List.mem_of_getElem? hx)
      rw [hw.beyond j (by omega)]
      exact Task.Sound.of_fresh p duty
  beyond j hj := by
    simp only [spawn_tasks, spawn_history, List.length_append] at hj ⊢
    exact hw.beyond j (by omega)
  plans := hw.plans

/-- A request that moves on stays the one that the call awaits. -/
lemma move (hw : w.Sound) (ht : w.tasks[i]? = some t) (hend : t.ending = none)
    {u u' : Underway} (hu : t.underway = some u)
    (htasks : w'.tasks = w.tasks.set i { t with underway := some u' })
    (hr : u'.request = u.request) (hp : u'.plan = u.plan)
    (hfired : w'.fired = w.fired) (hplans : w'.plans = w.plans)
    (hothers : ∀ j, j ≠ i → latest? j w'.history = latest? j w.history)
    (hlatest : latest? i w'.history = some (u.request, u'.stage.answer?)) : w'.Sound := by
  have hs := hw.tasks i t ht
  refine hw.update ht htasks (fun s hs => hfired ▸ hs) hothers ?_ (hplans ▸ hw.plans)
  rw [hlatest, ← hr]
  exact Task.Sound.of_underway hend rfl (hr ▸ hs.awaits u hu) (hp ▸ hs.honest u hu)

end Sound

lemma Moved.sound (hw : w.Sound) (ht : w.tasks[i]? = some t) (hend : t.ending = none)
    (h : Moved w i t w') : w'.Sound := by
  have hs := hw.tasks i t ht
  cases h with
  | arrived u due underway stage hdue =>
    refine hw.move ht hend underway rfl rfl rfl rfl rfl (fun _ _ => rfl) ?_
    rw [setTask_history, hs.told u underway, stage]
    rfl
  | served u yes m underway stage deed serve =>
    refine hw.move ht hend underway rfl rfl rfl rfl rfl (fun j hj => ?_) ?_
    · exact latest?_of_none (by simp [Event.request?, Ne.symm hj]) _
    · simp [latest?_cons, Event.request?, Response.answer?]
  | overflowed u underway stage deed serve =>
    refine hw.move ht hend underway rfl rfl rfl rfl rfl (fun _ _ => rfl) ?_
    rw [setTask_history, hs.told u underway, stage]
    rfl
  | answered u yes underway stage deed => exact absurd deed (hs.honest u underway yes)
  | failed u e underway stage deed =>
    refine hw.move ht hend underway rfl rfl rfl rfl rfl (fun _ _ => rfl) ?_
    rw [setTask_history, hs.told u underway, stage, Underway.respond_answer?]
    rfl
  | broke u underway stage deed =>
    refine hw.move ht hend underway rfl rfl rfl rfl rfl (fun _ _ => rfl) ?_
    rw [setTask_history, hs.told u underway, stage]
    rfl
  | returned u due response underway stage hdue =>
    refine hw.move ht hend underway rfl rfl rfl rfl rfl (fun _ _ => rfl) ?_
    rw [setTask_history, hs.told u underway, stage]
    rfl

lemma latest?_fire (w : World) (s : Signal) (j : Nat) :
    latest? j (w.fire s).history = latest? j w.history := by
  rcases w.fire_cases s with ⟨-, h⟩ | ⟨-, h⟩
  · rw [h]
  · rw [h]
    exact latest?_of_none rfl _

namespace Sound

/-- A task whose call awaits nothing has no request under way. -/
lemma underway_eq_none (hw : w.Sound) (ht : w.tasks[i]? = some t)
    (h : ∀ r, ¬ t.process.Awaits r) : t.underway = none := by
  cases hu : t.underway with
  | none => rfl
  | some u => exact absurd ((hw.tasks i t ht).awaits u hu) (h u.request)

/-- A call that goes on without a request. -/
lemma go (hw : w.Sound) (ht : w.tasks[i]? = some t) (hend : t.ending = none) {p : Process}
    (hp : p.Puts = t.process.Puts ∧ ¬ p.Unbegun)
    (htasks : w'.tasks = w.tasks.set i { t with process := p, underway := none })
    (hfired : ∀ s ∈ w.fired, s ∈ w'.fired) (hplans : w'.plans = w.plans)
    (hlatest : ∀ j, latest? j w'.history = latest? j w.history) : w'.Sound := by
  refine hw.update ht htasks hfired (fun j _ => hlatest j) ?_ (hplans ▸ hw.plans)
  rw [hlatest]
  exact ((hw.tasks i t ht).go hend hp).mono hfired

lemma finish (hw : w.Sound) (ht : w.tasks[i]? = some t) {ending : Ending}
    (he : t.process.Settled w.fired (latest? i w.history) ending) :
    (w.finish i t ending).Sound := by
  have hlatest (j : Nat) : latest? j (w.finish i t ending).history = latest? j w.history := by
    rw [finish_history]
    exact latest?_of_none rfl _
  refine hw.update ht (finish_tasks ..) (fun s hs => by rwa [finish_fired])
    (fun j _ => hlatest j) ?_ (by rw [finish_plans]; exact hw.plans)
  rw [hlatest, finish_fired]
  exact (hw.tasks i t ht).finish he

lemma fire (hw : w.Sound) (s : Signal) : (w.fire s).Sound where
  tasks i t ht := by
    rw [fire_tasks] at ht
    rw [latest?_fire]
    exact (hw.tasks i t ht).mono fun _ => w.mem_fire
  beyond i hi := by
    rw [fire_tasks] at hi
    rw [latest?_fire]
    exact hw.beyond i hi
  plans := by
    rw [fire_plans]
    exact hw.plans

lemma ask (hw : w.Sound) (ht : w.tasks[i]? = some t) (hend : t.ending = none) {p : Process}
    {r : Request} (hp : p.Awaits r) : (w.ask i { t with process := p } r).Sound := by
  have hplans := hw.plans.take r
  refine hw.update ht rfl (fun s hs => hs) (fun j hj => ?_) ?_ hplans.2
  · rw [ask_history]
    exact latest?_of_none (by simp [Event.request?, Ne.symm hj]) _
  · let u := Underway.start r (w.plans.take r).1 w.now
    have hlatest : latest? i (w.ask i { t with process := p } r).history =
        some (u.request, u.stage.answer?) := by
      rw [ask_history, latest?_cons, Underway.start_answer?]
      simp only [Event.request?, if_true, Option.some_or]
      rfl
    rw [hlatest]
    exact .of_underway hend rfl hp hplans.1

end Sound

lemma Turned.sound (hw : w.Sound) (ht : w.tasks[i]? = some t) (hend : t.ending = none)
    (h : Turned w i t w') : w'.Sound := by
  have hs := hw.tasks i t ht
  -- A caller puts nothing to the store, and so has no request to drop.
  have idle {c : Caller} (hp : t.process = .caller c) : t.underway = none ∧
      ∀ ending, t.process.Settled w.fired (latest? i w.history) ending :=
    ⟨hw.underway_eq_none ht fun r hr => by rw [hp] at hr; exact hr,
      fun ending => hs.settled_of_idle fun r hr => by rw [hp] at hr; exact hr⟩
  cases h with
  | went p turn =>
    exact hw.go ht hend ((Task.took_of_turn? turn).next rfl) rfl (fun _ => id) rfl fun _ => rfl
  | fired p signal turn =>
    have htook := Task.took_of_turn? turn
    have hu := hw.underway_eq_none ht fun r => htook.fire
    exact hw.go ht hend (htook.next rfl) (by simp [hu]) (fun _ => w.mem_fire)
      (w.fire_plans signal) fun j => latest?_fire w signal j
  | asked p r turn => exact hw.ask ht hend (Task.took_of_turn? turn).ask.1
  | leased grant turn =>
    have hsignal : w.newSignal.2.Sound := ⟨hw.tasks, hw.beyond, hw.plans⟩
    exact hsignal.finish ht ((Task.took_of_turn? turn).settled hs (.leased grant w.signals))
  | done turn => exact hw.finish ht ((Task.took_of_turn? turn).settled hs .done)
  | failed e turn => exact hw.finish ht ((Task.took_of_turn? turn).settled hs (.failed e))
  | broke text turn => exact hw.finish ht ((Task.took_of_turn? turn).settled hs (.broke text))
  | refused e process =>
    exact hw.finish ht (hs.settled_of_idle fun r hr => by rw [process] at hr; exact hr)
  | joined c work row process stage row? =>
    exact hw.go ht hend (p := .caller { c with stage := .waiting row.number })
      (by rw [process]; exact ⟨rfl, id⟩) (by simp [(idle process).1]) (fun _ => id) rfl
      fun _ => rfl
  | entered c work process stage row? =>
    exact hw.go ht hend
      (p := .caller { c with stage := .launching (w.flightsOf c.group).all.length work })
      (by rw [process]; exact ⟨rfl, id⟩) (by simp [(idle process).1]) (fun _ => id) rfl
      fun _ => rfl
  | launched c number work process stage =>
    refine Sound.spawn ?_ _ _
    exact hw.go ht hend (p := .caller { c with stage := .waiting number })
      (by rw [process]; exact ⟨rfl, id⟩) (by simp [(idle process).1]) (fun _ => id) rfl
      fun _ => rfl
  | cancelled c number process stage hfired => exact hw.finish ht ((idle process).2 _)
  | told c number lease process stage hfired outcome? =>
    exact hw.finish ht ((idle process).2 _)
  | toldFailure c number e process stage hfired outcome? =>
    exact hw.finish ht ((idle process).2 _)

/-- **Tasks go on agreeing with the history, whatever happens next.** -/
theorem Sound.act (hw : w.Sound) {a : Act} (ha : a.Lawful) : (w.act a).Sound := by
  cases a with
  | step i =>
    rcases w.act_step i with h | ⟨t, ht, hend, hm | htu⟩
    · rwa [h]
    · exact hm.sound hw ht hend
    · exact htu.sound hw ht hend
  | advance d => exact ⟨hw.tasks, hw.beyond, hw.plans⟩
  | spawn process => exact hw.spawn process none
  | abort i =>
    rcases w.act_abort i with h | ⟨t, ht, -, h⟩
    · rwa [h]
    · rw [h]
      exact hw.finish ht (t.process.settled_aborted w.fired)
  | fire s => exact hw.fire s
  | newSignal => exact ⟨hw.tasks, hw.beyond, hw.plans⟩
  | expire key => exact ⟨hw.tasks, hw.beyond, hw.plans⟩
  | intrude r =>
    simp only [World.act]
    split <;> exact ⟨hw.tasks, hw.beyond, hw.plans⟩
  | plan plans => exact ⟨hw.tasks, hw.beyond, ha⟩

end World
end LeaseLock
