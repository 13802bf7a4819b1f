import Mathlib.Tactic.Common
import LeaseLock.Proofs.World.Effect

/-!
What the plans of a run bring.

A run may take for granted that all plans for requests have some property. `Supplied` carries it to
every request under way, and `Candid` says that no such request fails but as planned.
-/

namespace LeaseLock

/-! ### Plans -/

/-- Whether a request takes no time and is served. -/
def Plan.Immediate (p : Plan) : Prop := p = .plain

/-- Whether the store does not break down over a request. -/
def Plan.Sturdy (p : Plan) : Prop := p.deed ≠ .breakDown

/-- Whether all plans for requests to come have a property. -/
def Plans.All (P : Plan → Prop) (p : Plans) : Prop :=
  ∀ plan, plan ∈ p.acquire ∨ plan ∈ p.refresh ∨ plan ∈ p.release → P plan

section plans

variable {P : Plan → Prop} {plans : Plans}

/-- The plan that a request gets, and those that stay, are among the plans there were. -/
lemma Plans.All.take (hplain : P Plan.plain) (h : plans.All P) (r : Request) :
    P (plans.take r).1 ∧ (plans.take r).2.All P := by
  have head {l : List Plan} (hl : ∀ plan ∈ l, P plan) : P (l.headD .plain) := by
    cases l with
    | nil => exact hplain
    | cons plan l => exact hl plan List.mem_cons_self
  cases r with
  | acquire key token ttl =>
    exact ⟨head fun plan hp => h plan (.inl hp),
      fun plan hp => h plan (hp.imp_left List.mem_of_mem_tail)⟩
  | refresh key token ttl =>
    exact ⟨head fun plan hp => h plan (.inr (.inl hp)),
      fun plan hp => h plan (hp.imp_right fun hp => hp.imp_left List.mem_of_mem_tail)⟩
  | release key token =>
    exact ⟨head fun plan hp => h plan (.inr (.inr hp)),
      fun plan hp => h plan (hp.imp_right fun hp => hp.imp_right List.mem_of_mem_tail)⟩

lemma Plans.All.honest (h : plans.All Plan.Immediate) : plans.Honest := by
  intro plan hp yes
  rw [h plan hp]
  exact Deed.noConfusion

end plans

/-! ### Failures that were planned -/

namespace Underway

variable {u : Underway} {now : Nat}

/-- Whether a failure that a request brings home is the one that was planned. -/
def Candid (u : Underway) : Prop :=
  ∀ e, (∃ due, u.stage = .homeward due (.failed e)) ∨ u.stage = .back (.failed e) →
    u.plan.deed = .fail e

lemma Candid.start (r : Request) (plan : Plan) (now : Nat) : (start r plan now).Candid := by
  intro e h
  unfold Underway.start at h
  cases hb : plan.before <;> simp [hb] at h

lemma Candid.respond {response : Response} (h : ∀ e, response = .failed e → u.plan.deed = .fail e) :
    (u.respond now response).Candid := by
  intro e he
  refine h e ?_
  unfold Underway.respond at he
  cases ha : u.plan.after <;> simpa [ha] using he

end Underway

namespace World

variable {w w' : World} {i : Nat} {t : Task} {a : Act} {P : Plan → Prop}

/-- Whether the act, if it brings new plans, brings such with a property. -/
def Act.Supplies (P : Plan → Prop) : Act → Prop
  | .plan plans => plans.All P
  | _ => True

/-- All plans have a property, also those of the requests under way. -/
structure Supplied (P : Plan → Prop) (w : World) : Prop where
  plans : w.plans.All P
  underway : ∀ t ∈ w.tasks, ∀ u, t.underway = some u → P u.plan

lemma supplied_start {plans : Plans} (h : plans.All P) : (start plans).Supplied P :=
  ⟨h, fun t ht => by cases ht⟩

namespace Supplied

/-- A change to one task. -/
lemma set (hw : w.Supplied P) (hplans : w'.plans = w.plans) {t' : Task}
    (htasks : w'.tasks = w.tasks.set i t') (h : ∀ u, t'.underway = some u → P u.plan) :
    w'.Supplied P := by
  refine ⟨hplans ▸ hw.plans, fun x hx u hu => ?_⟩
  rw [htasks] at hx
  rcases List.mem_or_eq_of_mem_set hx with hx | rfl
  · exact hw.underway x hx u hu
  · exact h u hu

lemma finish (hw : w.Supplied P) (ending : Ending) : (w.finish i t ending).Supplied P :=
  hw.set (w.finish_plans i t ending) (w.finish_tasks i t ending) fun u hu => by cases hu

lemma spawn (hw : w.Supplied P) (p : Process) (duty : Option Duty) :
    (w.spawn p duty).2.Supplied P := by
  refine ⟨hw.plans, fun x hx u hu => ?_⟩
  rcases List.mem_append.mp hx with hx | hx
  · exact hw.underway x hx u hu
  · obtain rfl := List.mem_singleton.mp hx
    cases hu

end Supplied

lemma Moved.supplied (hw : w.Supplied P) (ht : w.tasks[i]? = some t) (h : Moved w i t w') :
    w'.Supplied P := by
  have plan {u : Underway} (hu : t.underway = some u) : P u.plan :=
    hw.underway t (List.mem_of_getElem? ht) u hu
  cases h with
  | arrived u _ underway | served u _ _ underway | overflowed u underway | answered u _ underway
  | failed u _ underway | broke u underway | returned u _ _ underway =>
    have hplan := plan underway
    exact hw.set rfl rfl fun u' hu' => by cases hu'; exact hplan

lemma Turned.supplied (hplain : P Plan.plain) (hw : w.Supplied P) (ht : w.tasks[i]? = some t)
    (h : Turned w i t w') : w'.Supplied P := by
  have own {p : Process} (u : Underway) (hu : { t with process := p }.underway = some u) :
      P u.plan := hw.underway t (List.mem_of_getElem? ht) u hu
  cases h with
  | went p turn => exact hw.set rfl rfl fun u hu => by cases hu
  | fired p signal turn =>
    have hfire : (w.fire signal).Supplied P :=
      ⟨(w.fire_plans signal).symm ▸ hw.plans, fun x hx => hw.underway x (w.fire_tasks signal ▸ hx)⟩
    exact hfire.set rfl rfl own
  | asked p r turn =>
    obtain ⟨hplan, hplans⟩ := hw.plans.take hplain r
    have hleft : Supplied P { w with plans := (w.plans.take r).2 } := ⟨hplans, hw.underway⟩
    exact hleft.set rfl rfl fun u hu => by cases hu; exact hplan
  | leased grant turn =>
    have hsignal : w.newSignal.2.Supplied P := ⟨hw.plans, hw.underway⟩
    exact hsignal.finish _
  | joined | entered => exact hw.set rfl rfl own
  | launched c number work process stage =>
    have hset : ((w.setFlights c.group ((w.flightsOf c.group).launch number)).setTask i
        { t with process := .caller { c with stage := .waiting number } }).Supplied P :=
      hw.set rfl rfl own
    exact hset.spawn _ _
  | done | failed | broke | refused | cancelled | told | toldFailure => exact hw.finish _

lemma Supplied.act (hplain : P Plan.plain) (hw : w.Supplied P) (ha : a.Supplies P) :
    (w.act a).Supplied P := by
  cases a with
  | step i =>
    rcases w.act_step i with h | ⟨t, ht, -, hm | htu⟩
    · rwa [h]
    · exact hm.supplied hw ht
    · exact htu.supplied hplain hw ht
  | abort i =>
    rcases w.act_abort i with h | ⟨t, ht, -, h⟩
    · rwa [h]
    · rw [h]
      exact hw.finish _
  | spawn p => exact hw.spawn p none
  | fire s =>
    exact ⟨(w.fire_plans s).symm ▸ hw.plans, fun x hx => hw.underway x (w.fire_tasks s ▸ hx)⟩
  | intrude r =>
    simp only [World.act]
    split <;> exact ⟨hw.plans, hw.underway⟩
  | plan plans => exact ⟨ha, hw.underway⟩
  | advance | newSignal | expire => exact ⟨hw.plans, hw.underway⟩

lemma Supplied.run (hplain : P Plan.plain) (hw : w.Supplied P) {acts : List Act}
    (ha : ∀ a ∈ acts, a.Supplies P) : (w.run acts).Supplied P :=
  run_induction hw fun _ a hmem hv => hv.act hplain (ha a hmem)

/-! ### Failures under way -/

/-- Whether the failures under way are those that were planned. -/
def Candid (w : World) : Prop := ∀ t ∈ w.tasks, ∀ u, t.underway = some u → u.Candid

namespace Candid

lemma set (hw : w.Candid) (htasks : w'.tasks = w.tasks.set i t')
    (h : ∀ u, t'.underway = some u → u.Candid) : w'.Candid := by
  intro x hx u hu
  rw [htasks] at hx
  rcases List.mem_or_eq_of_mem_set hx with hx | rfl
  · exact hw x hx u hu
  · exact h u hu

lemma push (hw : w.Candid) {p : Process} {duty : Option Duty}
    (htasks : w'.tasks = w.tasks ++ [⟨p, none, duty, none⟩]) : w'.Candid := by
  intro x hx u hu
  rw [htasks] at hx
  rcases List.mem_append.mp hx with hx | hx
  · exact hw x hx u hu
  · obtain rfl := List.mem_singleton.mp hx
    cases hu

lemma finish (hw : w.Candid) (ending : Ending) : (w.finish i t ending).Candid :=
  hw.set (w.finish_tasks i t ending) fun u hu => by cases hu

end Candid

lemma Moved.candid (hw : w.Candid) (ht : w.tasks[i]? = some t) (h : Moved w i t w') :
    w'.Candid := by
  have set {u' : Underway} (htasks : w'.tasks = w.tasks.set i { t with underway := some u' })
      (hu' : u'.Candid) : w'.Candid := hw.set htasks fun u hu => by cases hu; exact hu'
  cases h with
  | arrived u due underway stage hdue => exact set rfl fun e he => by simp at he
  | served u yes m underway stage deed serve =>
    exact set rfl (.respond fun e he => by cases he)
  | overflowed u underway stage deed serve => exact set rfl fun e he => by simp at he
  | answered u yes underway stage deed => exact set rfl (.respond fun e he => by cases he)
  | failed u e underway stage deed =>
    exact set rfl (.respond fun e' he => by cases he; exact deed)
  | broke u underway stage deed => exact set rfl fun e he => by simp at he
  | returned u due response underway stage hdue =>
    refine set rfl fun e he => hw t (List.mem_of_getElem? ht) u underway e ?_
    simp only [Underway.Stage.back.injEq, reduceCtorEq, exists_false, false_or] at he
    exact .inl ⟨due, by rw [stage, he]⟩

lemma Turned.candid (hw : w.Candid) (ht : w.tasks[i]? = some t) (h : Turned w i t w') :
    w'.Candid := by
  have own {p : Process} (u : Underway) (hu : { t with process := p }.underway = some u) :
      u.Candid := hw t (List.mem_of_getElem? ht) u hu
  cases h with
  | went p turn => exact hw.set rfl fun u hu => by cases hu
  | fired p signal turn =>
    have hfire : (w.fire signal).Candid := fun x hx => hw x (w.fire_tasks signal ▸ hx)
    exact hfire.set rfl own
  | asked p r turn => exact hw.set rfl fun u hu => by cases hu; exact .start r _ _
  | leased grant turn =>
    have hsignal : w.newSignal.2.Candid := hw
    exact hsignal.finish _
  | joined | entered => exact hw.set rfl own
  | launched c number work process stage =>
    have hset : ((w.setFlights c.group ((w.flightsOf c.group).launch number)).setTask i
        { t with process := .caller { c with stage := .waiting number } }).Candid :=
      hw.set rfl own
    exact hset.push rfl
  | done | failed | broke | refused | cancelled | told | toldFailure => exact hw.finish _

lemma Candid.act (hw : w.Candid) (a : Act) : (w.act a).Candid := by
  cases a with
  | step i =>
    rcases w.act_step i with h | ⟨t, ht, -, hm | htu⟩
    · rwa [h]
    · exact hm.candid hw ht
    · exact htu.candid hw ht
  | abort i =>
    rcases w.act_abort i with h | ⟨t, ht, -, h⟩
    · rwa [h]
    · rw [h]
      exact hw.finish _
  | spawn p => exact hw.push rfl
  | fire s => exact fun x hx => hw x (w.fire_tasks s ▸ hx)
  | intrude r =>
    simp only [World.act]
    split <;> exact hw
  | plan | advance | newSignal | expire => exact hw

lemma candid_run (plans : Plans) (acts : List Act) : ((start plans).run acts).Candid :=
  run_induction (P := Candid) (fun t ht => by cases ht) fun _ a _ hv => hv.act a

end World
end LeaseLock
