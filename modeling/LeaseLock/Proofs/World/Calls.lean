import Mathlib.Tactic.Common
import LeaseLock.Proofs.World.Effect
import LeaseLock.Proofs.World.Tasks

/-!
What becomes of a call, and what it has put to the store.

A task stays for good and keeps the kind of its call. `Follows` lists every way in which a call
goes on by an act; with it, whatever a task has put to the store is what its call may put.
-/

namespace LeaseLock

/-! ### The requests of a task -/

/-- The request that the event has task `i` put to the store. -/
def Event.asked? (i : Nat) : Event → Option Request
  | .asked _ j r => if j = i then some r else none
  | _ => none

/-- What task `i` has put to the store, the first request first. -/
def requestsOf (i : Nat) (history : List Event) : List Request :=
  (history.filterMap (·.asked? i)).reverse

@[simp] lemma requestsOf_cons (i : Nat) (e : Event) (history : List Event) :
    requestsOf i (e :: history) = requestsOf i history ++ (e.asked? i).toList := by
  cases h : e.asked? i <;> simp [requestsOf, h]

/-- An event that is no request of the task. -/
lemma requestsOf_other {i : Nat} {e : Event} {older newer : List Event} (he : e.asked? i = none)
    (h : newer = e :: older) : requestsOf i newer = requestsOf i older := by
  rw [h, requestsOf_cons, he]
  exact List.append_nil _

/-! ### The times of the requests -/

/-- The request that the event has task `i` put to the store, and when. -/
def Event.asks? (i : Nat) : Event → Option (Nat × Request)
  | .asked time j r => if j = i then some (time, r) else none
  | _ => none

/-- What task `i` has put to the store, and when, the first request first. -/
def asksOf (i : Nat) (history : List Event) : List (Nat × Request) :=
  (history.filterMap (·.asks? i)).reverse

lemma Event.asked?_eq (i : Nat) (e : Event) : e.asked? i = (e.asks? i).map (·.2) := by
  cases e with
  | asked time j r =>
    simp only [asked?, asks?]
    split <;> rfl
  | served | intruded | expired | fired | ended => rfl

lemma requestsOf_eq_asksOf (i : Nat) (history : List Event) :
    requestsOf i history = (asksOf i history).map (·.2) := by
  simp only [requestsOf, asksOf, Event.asked?_eq, List.map_reverse, List.map_filterMap]

@[simp] lemma asksOf_cons (i : Nat) (e : Event) (history : List Event) :
    asksOf i (e :: history) = asksOf i history ++ (e.asks? i).toList := by
  cases h : e.asks? i <;> simp [asksOf, h]

/-- An event that is no request of the task. -/
lemma asksOf_other {i : Nat} {e : Event} {older newer : List Event} (he : e.asks? i = none)
    (h : newer = e :: older) : asksOf i newer = asksOf i older := by
  rw [h, asksOf_cons, he]
  exact List.append_nil _

/-- An event that changes nothing about the requests of a task changes nothing about their times. -/
lemma asksOf_of_requestsOf {i : Nat} {older newer : List Event}
    (h : newer = older ∨ ∃ e, newer = e :: older)
    (hrequests : requestsOf i newer = requestsOf i older) : asksOf i newer = asksOf i older := by
  obtain rfl | ⟨e, rfl⟩ := h
  · rfl
  · have hnone : e.asked? i = none := by simpa using hrequests
    rw [Event.asked?_eq] at hnone
    exact asksOf_other (Option.map_eq_none_iff.mp hnone) rfl

namespace World

variable {w w' : World} {i j n : Nat} {t : Task} {work : Acquisition}

/-! ### What becomes of a call -/

/-- Every way in which the call of a task can go on by an act. -/
inductive Follows (w : World) (t : Task) : Process → Prop
  | same : Follows w t t.process
  | next (turn : Turn Process (Option Grant)) (p : Process) (turns : t.turn? w = some turn)
      (next : turn.next? = some p) : Follows w t p
  | joined (c : Caller) (work : Acquisition) (number : Nat) (process : t.process = .caller c)
      (stage : c.stage = .entering work) : Follows w t (.caller { c with stage := .waiting number })
  | entered (c : Caller) (work : Acquisition) (number : Nat) (process : t.process = .caller c)
      (stage : c.stage = .entering work) :
      Follows w t (.caller { c with stage := .launching number work })
  | launched (c : Caller) (work : Acquisition) (number : Nat) (process : t.process = .caller c)
      (stage : c.stage = .launching number work) :
      Follows w t (.caller { c with stage := .waiting number })

/-- A step changes one task, and at most adds acquisitions. -/
lemma tasks_of_step (h : Moved w i t w' ∨ Turned w i t w') :
    ∃ t' new, w'.tasks = w.tasks.set i t' ++ new ∧ w.Follows t t'.process ∧
      ∀ x ∈ new, ∃ a, x.process = .acquisition a := by
  have set {t' : Task} (htasks : w'.tasks = w.tasks.set i t') (hp : w.Follows t t'.process) :
      ∃ t' new, w'.tasks = w.tasks.set i t' ++ new ∧ w.Follows t t'.process ∧
        ∀ x ∈ new, ∃ a, x.process = .acquisition a :=
    ⟨t', [], by rw [htasks, List.append_nil], hp, fun x hx => by cases hx⟩
  rcases h with h | h
  · cases h with
    | arrived | served | overflowed | answered | failed | broke | returned => exact set rfl .same
  · cases h with
    | went p turn => exact set rfl (.next _ p turn rfl)
    | fired p signal turn =>
      have htasks : ((w.fire signal).setTask i { t with process := p }).tasks =
          w.tasks.set i { t with process := p } := by simp
      exact set htasks (.next _ p turn rfl)
    | asked p r turn => exact set rfl (.next _ p turn rfl)
    | joined c work row process stage => exact set rfl (.joined c work _ process stage)
    | entered c work process stage => exact set rfl (.entered c work _ process stage)
    | launched c number work process stage =>
      refine ⟨_, _, rfl, .launched c work number process stage, fun x hx => ?_⟩
      obtain rfl := List.mem_singleton.mp hx
      exact ⟨work, rfl⟩
    | leased grant turn => exact set (w.newSignal.2.finish_tasks i t _) .same
    | done | failed | broke | refused | cancelled | told | toldFailure =>
      exact set (w.finish_tasks i t _) .same

/-- Every way in which an act can change the tasks. -/
inductive Staffed (w : World) (a : Act) : Prop
  | same (tasks : (w.act a).tasks = w.tasks)
  /-- One task goes on or ends, and at most acquisitions are added. -/
  | changed (i : Nat) (x x' : Task) (new : List Task) (act : a = .step i ∨ a = .abort i)
      (task : w.tasks[i]? = some x) (tasks : (w.act a).tasks = w.tasks.set i x' ++ new)
      (follows : w.Follows x x'.process) (added : ∀ y ∈ new, ∃ b, y.process = .acquisition b)
  | spawned (p : Process) (act : a = .spawn p)
      (tasks : (w.act a).tasks = w.tasks ++ [⟨p, none, none, none⟩])

lemma staffed_act (w : World) (a : Act) : w.Staffed a := by
  cases a with
  | step i =>
    rcases w.act_step i with h | ⟨x, hx, -, h⟩
    · exact .same (by rw [h])
    · obtain ⟨x', new, htasks, hfollows, hnew⟩ := tasks_of_step h
      exact .changed i x x' new (.inl rfl) hx htasks hfollows hnew
  | spawn p => exact .spawned p rfl rfl
  | abort i =>
    rcases w.act_abort i with h | ⟨x, hx, -, h⟩
    · exact .same (by rw [h])
    · have htasks : (w.act (.abort i)).tasks =
          w.tasks.set i { x with underway := none, ending := some .aborted } ++ [] := by
        rw [h, finish_tasks, List.append_nil]
      exact .changed i x _ [] (.inr rfl) hx htasks .same fun y hy => by cases hy
  | fire s => exact .same (w.fire_tasks s)
  | intrude r =>
    refine .same ?_
    simp only [World.act]
    split <;> rfl
  | advance | newSignal | expire | plan => exact .same rfl

/-- **A task stays, and its call goes on in one of the ways of `Follows`.** -/
theorem follows_act (w : World) (a : Act) (ht : w.tasks[j]? = some t) :
    ∃ t', (w.act a).tasks[j]? = some t' ∧ w.Follows t t'.process := by
  have hlt := (List.getElem?_eq_some_iff.mp ht).1
  cases w.staffed_act a with
  | same tasks => exact ⟨t, by rw [tasks, ht], .same⟩
  | changed i x x' new act task tasks follows added =>
    rw [tasks, List.getElem?_append_left (by simpa using hlt), List.getElem?_set]
    split
    · next hij =>
      subst hij
      cases ht.symm.trans task
      exact ⟨x', by rw [if_pos hlt], follows⟩
    · exact ⟨t, ht, .same⟩
  | spawned p act tasks => exact ⟨t, by rw [tasks, List.getElem?_append_left hlt, ht], .same⟩

/-- A task was there before an act, or is new with it. -/
lemma task_cases (w : World) (a : Act) {t' : Task} (h : (w.act a).tasks[j]? = some t') :
    (∃ t, w.tasks[j]? = some t ∧ w.Follows t t'.process) ∨
      a = .spawn t'.process ∨ ∃ b, t'.process = .acquisition b := by
  cases ht : w.tasks[j]? with
  | some t =>
    obtain ⟨x, hx, hfollows⟩ := w.follows_act a ht
    cases h.symm.trans hx
    exact .inl ⟨t, rfl, hfollows⟩
  | none =>
    right
    have hlen : w.tasks.length ≤ j := List.getElem?_eq_none_iff.mp ht
    cases w.staffed_act a with
    | same tasks =>
      rw [tasks, ht] at h
      cases h
    | changed i x x' new act task tasks follows added =>
      rw [tasks, List.getElem?_append_right (by simpa using hlen)] at h
      exact .inr (added t' (List.mem_of_getElem? h))
    | spawned p act tasks =>
      rw [tasks, List.getElem?_append_right hlen] at h
      obtain rfl := List.mem_singleton.mp (List.mem_of_getElem? h)
      exact .inl act

/-- Only its own steps, and being aborted, change a task. -/
lemma other_act (ht : w.tasks[j]? = some t) {a : Act} (hstep : a ≠ .step j)
    (habort : a ≠ .abort j) : (w.act a).tasks[j]? = some t := by
  have hlt := (List.getElem?_eq_some_iff.mp ht).1
  cases w.staffed_act a with
  | same tasks => rw [tasks, ht]
  | changed i x x' new act task tasks follows added =>
    have hij : i ≠ j := by
      rintro rfl
      exact act.elim hstep habort
    rw [tasks, List.getElem?_append_left (by simpa using hlt), List.getElem?_set_ne hij, ht]
  | spawned p act tasks => rw [tasks, List.getElem?_append_left hlt, ht]

/-- A task is as it was until it takes a step or is aborted. -/
lemma other_run (ht : w.tasks[j]? = some t) {acts : List Act} (hstep : .step j ∉ acts)
    (habort : .abort j ∉ acts) : (w.run acts).tasks[j]? = some t :=
  run_induction (P := fun v => v.tasks[j]? = some t) ht fun _ _ ha hv =>
    other_act hv (fun h => hstep (h ▸ ha)) fun h => habort (h ▸ ha)

namespace Follows

variable {p : Process} {c : Caller}

/-- What a call may put to the store it may put later as well. -/
lemma puts (h : w.Follows t p) : p.Puts = t.process.Puts := by
  cases h with
  | same => rfl
  | next turn p turns next => exact ((Task.took_of_turn? turns).next next).1
  | joined c work number process | entered c work number process
  | launched c work number process =>
    rw [process]
    rfl

/-- Who waits for a flight waits for it until the end. -/
lemma waiting (h : w.Follows t p) (hp : t.process = .caller c) (hs : c.stage = .waiting n) :
    p = .caller c := by
  cases h with
  | same => exact hp
  | next turn p turns next =>
    rw [Task.turn?, hp] at turns
    cases turns
  | joined c' work number process stage | entered c' work number process stage
  | launched c' work number process stage =>
    rw [hp] at process
    cases process
    rw [hs] at stage
    cases stage

/-- Who is to launch a flight waits for it next. -/
lemma launching (h : w.Follows t p) (hp : t.process = .caller c)
    (hs : c.stage = .launching n work) :
    p = .caller c ∨ p = .caller { c with stage := .waiting n } := by
  cases h with
  | same => exact .inl hp
  | next turn p turns next =>
    rw [Task.turn?, hp] at turns
    cases turns
  | joined c' work number process stage | entered c' work number process stage =>
    rw [hp] at process
    cases process
    rw [hs] at stage
    cases stage
  | launched c' work number process stage =>
    rw [hp] at process
    cases process
    rw [hs] at stage
    cases stage
    exact .inr rfl

end Follows

/-! ### What tasks have put to the store -/

/-- Whatever a task has put to the store is what its call may put. -/
def Asked (w : World) : Prop :=
  ∀ j r, r ∈ requestsOf j w.history → ∃ t, w.tasks[j]? = some t ∧ t.process.Puts r

lemma asked_start (plans : Plans) : (start plans).Asked := by
  intro j r h
  cases h

lemma Asked.act (hw : w.Asked) (a : Act) : (w.act a).Asked := by
  have older {j : Nat} {r : Request} (hr : r ∈ requestsOf j w.history) :
      ∃ t, (w.act a).tasks[j]? = some t ∧ t.process.Puts r := by
    obtain ⟨t, ht, hputs⟩ := hw j r hr
    obtain ⟨t', ht', hp⟩ := w.follows_act a ht
    exact ⟨t', ht', hp.puts ▸ hputs⟩
  have other {e : Event} (he : ∀ j, e.asked? j = none)
      (h : (w.act a).history = e :: w.history) : (w.act a).Asked := by
    intro j r hr
    rw [h, requestsOf_cons, he] at hr
    exact older (by simpa using hr)
  cases w.act_effect a with
  | still memory history =>
    intro j r hr
    rw [history] at hr
    exact older hr
  | noted e quiet memory history =>
    exact other (fun j => by cases e <;> first | rfl | exact quiet.elim) history
  | asked i t p q act task turn memory history =>
    intro j r hr
    rw [history, requestsOf_cons, List.mem_append] at hr
    rcases hr with hr | hr
    · exact older hr
    · simp only [Event.asked?, Option.mem_toList, Option.ite_none_right_eq_some,
        Option.some.injEq] at hr
      obtain ⟨rfl, rfl⟩ := hr
      obtain ⟨t', ht', hp⟩ := w.follows_act a task
      have htook := Task.took_of_turn? turn
      exact ⟨t', ht', by rw [hp.puts, ← (htook.next rfl).1]; exact htook.ask.1.puts⟩
  | served i t u yes act task underway stage serve history => exact other (fun _ => rfl) history
  | intruded r yes act serve history => exact other (fun _ => rfl) history
  | expired key memory history => exact other (fun _ => rfl) history

lemma asked_run (plans : Plans) (acts : List Act) : ((start plans).run acts).Asked :=
  run_induction (asked_start plans) fun _ a _ hw => hw.act a

/-- A task that is still to come has put nothing to the store. -/
lemma Asked.beyond (hw : w.Asked) (hj : w.tasks.length ≤ j) : requestsOf j w.history = [] := by
  rw [List.eq_nil_iff_forall_not_mem]
  intro r hr
  obtain ⟨t, ht, -⟩ := hw j r hr
  have := (List.getElem?_eq_some_iff.mp ht).1
  omega

lemma Asked.silent (hw : w.Asked) (ht : w.tasks[j]? = some t) {c : Caller}
    (hp : t.process = .caller c) : requestsOf j w.history = [] := by
  rw [List.eq_nil_iff_forall_not_mem]
  intro r hr
  obtain ⟨t', ht', hputs⟩ := hw j r hr
  rw [ht] at ht'
  cases ht'
  rw [hp] at hputs
  exact hputs

end World
end LeaseLock
