import Mathlib.Tactic.Common
import LeaseLock.Proofs.World.Attempts
import LeaseLock.Proofs.World.Ticks

/-!
The steps of an acquisition whose signal does not fire, and the way of its requests.

`Tried` lists every way in which a step can take an acquisition on. `Course` says where a request
is that was put to the store at some instant, and what response it brings home; if its task is never
kept waiting, also when: the plan for a request tells when it `arrives` and when it `returns`.
-/

namespace LeaseLock

/-! ### Instants of a plan -/

namespace Plan

/-- When a request that is put to the store at `t` gets there. -/
def arrives (p : Plan) (t : Nat) : Nat := p.before.elim t (Instant.timer t)

/-- When the response to it is back, if it is to come and the store does not break down. -/
def returns (p : Plan) (t : Nat) : Nat := p.after.elim (p.arrives t) (Instant.timer (p.arrives t))

variable (p : Plan) (t : Nat)

lemma arrives_le_returns : p.arrives t ≤ p.returns t := by
  unfold returns
  cases p.after with
  | none => exact Nat.le_of_eq (Option.elim_none ..).symm
  | some d =>
    rw [Option.elim_some]
    exact Instant.le_timer ..

end Plan

/-- When a response is back: a store that breaks down is seen to at once. -/
def Response.home (response : Response) (p : Plan) (t : Nat) : Nat :=
  match response with
  | .granted _ | .failed _ => p.returns t
  | .broken _ => p.arrives t

lemma Response.home_of_unbroken {response : Response} (h : ∀ text, response ≠ .broken text)
    (p : Plan) (t : Nat) : response.home p t = p.returns t := by
  cases response with
  | granted | failed => rfl
  | broken text => exact absurd rfl (h text)

namespace Underway

variable {u : Underway} {now : Nat}

@[simp] lemma start_plan (r : Request) (p : Plan) : (start r p now).plan = p := rfl

@[simp] lemma respond_plan (response : Response) : (u.respond now response).plan = u.plan := rfl

end Underway

namespace World

variable {w w' : World} {i began : Nat} {t : Task} {a : Acquisition} {u u' : Underway}
  {prompt prompt' : Prop} {r : Request} {p : Plan} {response : Response}

/-! ### The way of a request -/

/-- Every response that a request can get which task `i` put to the store at `began`: what the store
answered, or what was planned in place of that. -/
inductive Said (w : World) (i : Nat) (prompt : Prop) (began : Nat) (r : Request) (p : Plan) :
    Response → Prop
  | served (time : Nat) (yes : Bool) (deed : p.deed = .serve)
      (event : .served time i r yes ∈ w.history) (exact : prompt → time = p.arrives began) :
      Said w i prompt began r p (.granted yes)
  | answered (yes : Bool) (deed : p.deed = .answer yes) : Said w i prompt began r p (.granted yes)
  | failed (e : LockError) (deed : p.deed = .fail e) : Said w i prompt began r p (.failed e)
  | overflowed (deed : p.deed = .serve) :
      Said w i prompt began r p (.broken Instant.overflowText)
  | broke (deed : p.deed = .breakDown) :
      Said w i prompt began r p (.broken Underway.breakdownText)

lemma Said.mono (h : w.Said i prompt began r p response)
    (hhistory : ∀ e ∈ w.history, e ∈ w'.history) (hprompt : prompt' → prompt) :
    w'.Said i prompt' began r p response := by
  cases h with
  | served time yes deed event exact =>
    exact .served time yes deed (hhistory _ event) fun h => exact (hprompt h)
  | answered yes deed => exact .answered yes deed
  | failed e deed => exact .failed e deed
  | overflowed deed => exact .overflowed deed
  | broke deed => exact .broke deed

/-- Where a request is that task `i` put to the store at `began`. -/
inductive Course (w : World) (i : Nat) (prompt : Prop) (began : Nat) (u : Underway) : Prop
  | outward (stage : u.stage = .outward (u.plan.arrives began))
      (early : prompt → w.now ≤ u.plan.arrives began)
  | arrived (stage : u.stage = .arrived)
      (exact : prompt → u.plan.deed ≠ .hang → w.now = u.plan.arrives began)
  | homeward (due : Nat) (response : Response) (stage : u.stage = .homeward due response)
      (said : w.Said i prompt began u.request u.plan response)
      (unbroken : ∀ text, response ≠ .broken text)
      (exact : prompt → due = u.plan.returns began ∧ w.now ≤ due)
  | back (response : Response) (stage : u.stage = .back response)
      (said : w.Said i prompt began u.request u.plan response)
      (exact : prompt → w.now = response.home u.plan began)

namespace Course

lemma start (w : World) (i : Nat) (prompt : Prop) (r : Request) (p : Plan) :
    w.Course i prompt w.now (.start r p w.now) := by
  cases hbefore : p.before with
  | none =>
    have harrives : p.arrives w.now = w.now := by rw [Plan.arrives, hbefore, Option.elim_none]
    exact .arrived (by simp [Underway.start, hbefore]) fun _ _ => harrives.symm
  | some d =>
    have harrives : p.arrives w.now = Instant.timer w.now d := by
      rw [Plan.arrives, hbefore, Option.elim_some]
    refine .outward ?_ fun _ => ?_
    · rw [Underway.start_plan, harrives, Underway.start, hbefore, Option.elim_some]
    · rw [Underway.start_plan, harrives]
      exact Instant.le_timer ..

/-- What happens elsewhere does not touch a request. -/
lemma mono (h : w.Course i prompt began u) (hnow : w'.now = w.now)
    (hhistory : ∀ e ∈ w.history, e ∈ w'.history) (hprompt : prompt' → prompt) :
    w'.Course i prompt' began u := by
  cases h with
  | outward stage early => exact .outward stage fun h => hnow ▸ early (hprompt h)
  | arrived stage exact => exact .arrived stage fun h => hnow ▸ exact (hprompt h)
  | homeward due response stage said unbroken exact =>
    exact .homeward due response stage (said.mono hhistory hprompt) unbroken
      fun h => hnow ▸ exact (hprompt h)
  | back response stage said exact =>
    exact .back response stage (said.mono hhistory hprompt) fun h => hnow ▸ exact (hprompt h)

/-- The clock does not pass by what a request waits for. -/
lemma advance (h : w.Course i prompt began u) {d : Nat} (hprompt : prompt' → prompt)
    (hrest : prompt' → u.step w.now w.memory = none ∧ u.response? = none ∧
      ∀ wake ∈ u.wake?, w.now + d ≤ wake) :
    (w.act (.advance d)).Course i prompt' began u := by
  cases h with
  | outward stage early =>
    refine .outward stage fun h => ?_
    obtain ⟨-, -, hwake⟩ := hrest h
    exact hwake _ (by simp [Underway.wake?, stage])
  | arrived stage exact =>
    refine .arrived stage fun h hdeed => ?_
    obtain ⟨hstep, -, -⟩ := hrest h
    exact absurd (Underway.hangs_of_rest stage hstep) hdeed
  | homeward due response stage said unbroken exact =>
    refine .homeward due response stage (said.mono (fun _ he => he) hprompt) unbroken fun h => ?_
    obtain ⟨-, -, hwake⟩ := hrest h
    exact ⟨(exact (hprompt h)).1, hwake due (by simp [Underway.wake?, stage])⟩
  | back response stage said exact =>
    refine .back response stage (said.mono (fun _ he => he) hprompt) fun h => ?_
    obtain ⟨-, hresponse, -⟩ := hrest h
    simp [Underway.response?, stage] at hresponse

/-- A request that has come to the store gets its response. -/
lemma responded (hstage : u.stage = .arrived) (h : w.Course i prompt began u)
    (hdeed : u.plan.deed ≠ .hang) (hnow : w'.now = w.now)
    (hsaid : w'.Said i prompt began u.request u.plan response)
    (hunbroken : ∀ text, response ≠ .broken text) :
    w'.Course i prompt began (u.respond w.now response) := by
  have hexact : prompt → w.now = u.plan.arrives began := by
    cases h with
    | arrived stage exact => exact fun h => exact h hdeed
    | outward stage | homeward _ _ stage | back _ stage => cases hstage.symm.trans stage
  cases hafter : u.plan.after with
  | none =>
    refine .back response (by simp [Underway.respond, hafter]) hsaid fun h => ?_
    rw [hnow, hexact h, Response.home_of_unbroken hunbroken, Underway.respond_plan,
      Plan.returns, hafter, Option.elim_none]
  | some d =>
    refine .homeward (Instant.timer w.now d) response (by simp [Underway.respond, hafter]) hsaid
      hunbroken fun h => ⟨?_, Nat.le_trans (Nat.le_of_eq hnow) (Instant.le_timer ..)⟩
    rw [Underway.respond_plan, Plan.returns, hafter, Option.elim_some, hexact h]

/-- A store that breaks down has its response home at once. -/
lemma broken (hstage : u.stage = .arrived) (h : w.Course i prompt began u)
    (hdeed : u.plan.deed ≠ .hang) {text : String}
    (hsaid : w.Said i prompt began u.request u.plan (.broken text)) :
    w.Course i prompt began { u with stage := .back (.broken text) } := by
  refine .back (.broken text) rfl hsaid fun hp => ?_
  cases h with
  | arrived stage exact => exact exact hp hdeed
  | outward stage | homeward _ _ stage | back _ stage => cases hstage.symm.trans stage

/-- A request that moves on stays the one that was put to the store. -/
lemma moved (h : w.Course i prompt began u) (hu : t.underway = some u) (hm : Moved w i t w') :
    ∃ u', w'.tasks = w.tasks.set i { t with underway := some u' } ∧ u'.request = u.request ∧
      u'.plan = u.plan ∧ w'.Course i prompt began u' := by
  have hang {d : Deed} (hd : u.plan.deed = d) (hne : d ≠ .hang) : u.plan.deed ≠ .hang := hd ▸ hne
  cases hm with
  | arrived v due underway stage hdue =>
    cases hu.symm.trans underway
    refine ⟨_, rfl, rfl, rfl, .arrived rfl fun hp _ => ?_⟩
    cases h with
    | outward stage' early =>
      cases stage.symm.trans stage'
      exact Nat.le_antisymm (early hp) hdue
    | arrived stage' | homeward _ _ stage' | back _ stage' => cases stage.symm.trans stage'
  | served v yes m underway stage deed serve =>
    cases hu.symm.trans underway
    have hexact : prompt → w.now = u.plan.arrives began := by
      cases h with
      | arrived stage' exact => exact fun hp => exact hp (hang deed Deed.noConfusion)
      | outward stage' | homeward _ _ stage' | back _ stage' => cases stage.symm.trans stage'
    refine ⟨_, rfl, rfl, rfl, ?_⟩
    exact h.responded stage (hang deed Deed.noConfusion) rfl
      (.served w.now yes deed List.mem_cons_self hexact) fun _ => Response.noConfusion
  | overflowed v underway stage deed serve =>
    cases hu.symm.trans underway
    have hback := h.broken stage (hang deed Deed.noConfusion) (.overflowed deed)
    exact ⟨_, rfl, rfl, rfl, hback.mono rfl (fun _ he => he) id⟩
  | answered v yes underway stage deed =>
    cases hu.symm.trans underway
    refine ⟨_, rfl, rfl, rfl, ?_⟩
    exact h.responded stage (hang deed Deed.noConfusion) rfl (.answered yes deed)
      fun _ => Response.noConfusion
  | failed v e underway stage deed =>
    cases hu.symm.trans underway
    refine ⟨_, rfl, rfl, rfl, ?_⟩
    exact h.responded stage (hang deed Deed.noConfusion) rfl (.failed e deed)
      fun _ => Response.noConfusion
  | broke v underway stage deed =>
    cases hu.symm.trans underway
    have hback := h.broken stage (hang deed Deed.noConfusion) (.broke deed)
    exact ⟨_, rfl, rfl, rfl, hback.mono rfl (fun _ he => he) id⟩
  | returned v due response underway stage hdue =>
    cases hu.symm.trans underway
    cases h with
    | homeward due' response' stage' said unbroken exact =>
      cases stage.symm.trans stage'
      refine ⟨_, rfl, rfl, rfl, .back response rfl (said.mono (fun _ he => he) id) fun hp => ?_⟩
      obtain ⟨hreturns, hearly⟩ := exact hp
      rw [Response.home_of_unbroken unbroken, ← hreturns]
      exact Nat.le_antisymm hearly hdue
    | outward stage' | arrived stage' | back _ stage' => cases stage.symm.trans stage'

/-- A response that is there was said, and is back at its instant. -/
lemma of_response (h : w.Course i prompt began u) (hr : u.response? = some response) :
    w.Said i prompt began u.request u.plan response ∧
      (prompt → w.now = response.home u.plan began) := by
  cases h with
  | back response' stage said exact =>
    obtain rfl : response' = response := by simpa [Underway.response?, stage] using hr
    exact ⟨said, exact⟩
  | outward stage | arrived stage | homeward _ _ stage => simp [Underway.response?, stage] at hr

/-- A request that can but wait, with no response, is not to be back yet. -/
lemma lt_returns (h : w.Course i prompt began u) (hp : prompt)
    (hstep : u.step w.now w.memory = none) (hr : u.response? = none)
    (hdeed : u.plan.deed ≠ .hang) : w.now < u.plan.returns began := by
  cases h with
  | outward stage early =>
    have hlt : w.now < u.plan.arrives began := by simpa [Underway.step, stage] using hstep
    exact Nat.lt_of_lt_of_le hlt (u.plan.arrives_le_returns began)
  | arrived stage exact => exact absurd (Underway.hangs_of_rest stage hstep) hdeed
  | homeward due response stage said unbroken exact =>
    have hlt : w.now < due := by simpa [Underway.step, stage] using hstep
    exact (exact hp).1 ▸ hlt
  | back response stage => simp [Underway.response?, stage] at hr

end Course

/-! ### The steps of an acquisition -/

/-- Every way in which a step can take an acquisition on that does not see its signal fire. -/
inductive Tried (w : World) (i : Nat) (t : Task) (a : Acquisition) : World → Prop
  | rested (settled : w.moveRequest i t = none) (took : a.Took (w.glimpse t a.signal) .rest) :
      Tried w i t a w
  | moved (w' : World) (moved : Moved w i t w') : Tried w i t a w'
  | went (b : Acquisition) (settled : w.moveRequest i t = none)
      (took : a.Took (w.glimpse t a.signal) (.go b)) :
      Tried w i t a (w.setTask i { t with process := .acquisition b, underway := none })
  | asked (b : Acquisition) (r : Request) (took : a.Took (w.glimpse t a.signal) (.ask b r)) :
      Tried w i t a (w.ask i { t with process := .acquisition b } r)
  | ended (w' : World) (o : Outcome Grant) (ending : Ending) (settled : w.moveRequest i t = none)
      (took : a.Took (w.glimpse t a.signal) (.fin o)) (ends : (o.map some).Ends ending)
      (tasks : w'.tasks = w.tasks.set i { t with underway := none, ending := some ending })
      (history : w'.history = .ended w.now i ending :: w.history) : Tried w i t a w'

lemma turn?_acquisition (hp : t.process = .acquisition a)
    {turn : Turn Process (Option Grant)} (h : t.turn? w = some turn) :
    ∃ own, turn = own.map .acquisition some ∧ a.Took (w.glimpse t a.signal) own := by
  cases Task.took_of_turn? h with
  | acquisition b own process took =>
    cases hp.symm.trans process
    exact ⟨own, rfl, took⟩
  | errand e own process | renewal e own process => cases hp.symm.trans process

lemma Turned.tried (hp : t.process = .acquisition a) (settled : w.moveRequest i t = none)
    (h : Turned w i t w') : Tried w i t a w' := by
  have own {turn : Turn Process (Option Grant)} (turns : t.turn? w = some turn) :=
    turn?_acquisition hp turns
  have ends {ending : Ending} {o : Outcome (Option Grant)} (turns : t.turn? w = some (.fin o))
      (he : o.Ends ending)
      (tasks : w'.tasks = w.tasks.set i { t with underway := none, ending := some ending })
      (history : w'.history = .ended w.now i ending :: w.history) : Tried w i t a w' := by
    obtain ⟨turn, hturn, took⟩ := own turns
    cases turn <;> cases hturn
    exact .ended w' _ ending settled took he tasks history
  cases h with
  | went p turn =>
    obtain ⟨turn, hturn, took⟩ := own turn
    cases turn <;> cases hturn
    exact .went _ settled took
  | fired p signal turn =>
    obtain ⟨turn, hturn, took⟩ := own turn
    cases took <;> cases hturn
  | asked p r turn =>
    obtain ⟨turn, hturn, took⟩ := own turn
    cases turn <;> cases hturn
    exact .asked _ _ took
  | leased grant turn =>
    exact ends turn (.leased grant w.signals) (w.newSignal.2.finish_tasks i t _)
      (w.newSignal.2.finish_history i t _)
  | done turn => exact ends turn .done (w.finish_tasks i t _) (w.finish_history i t _)
  | failed e turn => exact ends turn (.failed e) (w.finish_tasks i t _) (w.finish_history i t _)
  | broke text turn =>
    exact ends turn (.broke text) (w.finish_tasks i t _) (w.finish_history i t _)
  | refused e process | joined c work row process | entered c work process
  | launched c number work process | cancelled c number process | told c number lease process
  | toldFailure c number e process => cases hp.symm.trans process

/-- An acquisition that can take no step waits for its request, or for the next attempt. -/
lemma tried_rest (ht : w.tasks[i]? = some t) (hend : t.ending = none)
    (hp : t.process = .acquisition a) (hf : w.hasFired a.signal = false)
    (h : w.step i = none) :
    w.moveRequest i t = none ∧ a.Took (w.glimpse t a.signal) .rest := by
  obtain ⟨hmove, hturn⟩ : w.moveRequest i t = none ∧ w.turn i t = none := by
    simpa [step, ht, hend, heedsSignalFirst, hp, hf] using h
  refine ⟨hmove, ?_⟩
  have htook := a.turn_took (w.glimpse t a.signal)
  simp only [turn, hp] at hturn
  generalize a.turn (w.glimpse t a.signal) = turn at htook hturn
  rcases turn with _ | _ | _ | _ | (_ | _ | _)
  · exact htook
  all_goals cases hturn

/-- **A step of an acquisition whose signal has not fired is one of the ways of `Tried`.** -/
theorem tried_act (ht : w.tasks[i]? = some t) (hend : t.ending = none)
    (hp : t.process = .acquisition a) (hf : w.hasFired a.signal = false) :
    Tried w i t a (w.act (.step i)) := by
  simp only [act]
  cases h : w.step i with
  | none =>
    obtain ⟨hmove, htook⟩ := tried_rest ht hend hp hf h
    exact .rested hmove htook
  | some v =>
    obtain ⟨t', ht', -, ⟨-, hm⟩ | ⟨hfirst, htu⟩⟩ := step_cases h
    · cases ht.symm.trans ht'
      exact .moved v hm
    · cases ht.symm.trans ht'
      refine htu.tried hp (hfirst.resolve_left ?_)
      simp [heedsSignalFirst, hp, hf]

/-- An acquisition fires no signal. -/
lemma fired_step (ht : w.tasks[i]? = some t) (hp : t.process = .acquisition a) :
    (w.act (.step i)).fired = w.fired := by
  rcases w.act_step i with h | ⟨t', ht', -, hm | htu⟩
  · rw [h]
  · obtain ⟨-, -, -, -, -, -, hfired, -⟩ := hm.passes
    exact hfired
  · cases ht.symm.trans ht'
    generalize w.act (.step i) = v at htu ⊢
    cases htu with
    | fired p signal turn =>
      obtain ⟨own, hown, took⟩ := turn?_acquisition hp turn
      cases took <;> cases hown
    | went | asked | joined | entered | launched => rfl
    | leased grant turn => exact w.newSignal.2.finish_fired ..
    | done | failed | broke | refused | cancelled | told | toldFailure =>
      exact w.finish_fired ..

/-- A request that moves on is not put to the store anew. -/
lemma Moved.requestsOf_eq (h : Moved w i t w') (k : Nat) :
    requestsOf k w'.history = requestsOf k w.history := by
  cases h with
  | served => exact requestsOf_other rfl rfl
  | arrived | overflowed | answered | failed | broke | returned => rfl

/-- A task asks for nothing by what happens elsewhere. -/
lemma requestsOf_act_of_ne {b : Act} (hb : b ≠ .step i) :
    requestsOf i (w.act b).history = requestsOf i w.history := by
  cases w.act_effect b with
  | still memory history => rw [history]
  | noted e quiet memory history =>
    exact requestsOf_other (by cases e <;> first | rfl | exact quiet.elim) history
  | asked j x p r act task turn memory history =>
    have hji : j ≠ i := fun hj => hb (hj ▸ act)
    exact requestsOf_other (by simp [Event.asked?, hji]) history
  | served j x v yes act task underway stage serve history => exact requestsOf_other rfl history
  | intruded r yes act serve history => exact requestsOf_other rfl history
  | expired key memory history => exact requestsOf_other rfl history

lemma asksOf_act_of_ne (hb : b ≠ .step i) : asksOf i (w.act b).history = asksOf i w.history :=
  asksOf_of_requestsOf (w.act_history b) (requestsOf_act_of_ne hb)

/-- A task asks for nothing without taking a step. -/
lemma requestsOf_run_of_ne {acts : List Act} (hstep : .step i ∉ acts) :
    requestsOf i (w.run acts).history = requestsOf i w.history :=
  run_induction (P := fun v => requestsOf i v.history = requestsOf i w.history) rfl fun _ _ hb hv =>
    (requestsOf_act_of_ne fun h => hstep (h ▸ hb)).trans hv

/-- A task that has ended asks for nothing. -/
lemma requestsOf_run_of_ended {ending : Ending} (ht : w.tasks[i]? = some t)
    (hend : t.ending = some ending) (acts : List Act) :
    requestsOf i (w.run acts).history = requestsOf i w.history := by
  refine (run_induction (P := fun v => v.tasks[i]? = some t ∧
    requestsOf i v.history = requestsOf i w.history) ⟨ht, rfl⟩ fun v b _ ⟨hv, hrequests⟩ =>
      ⟨v.ended_act b hv hend, ?_⟩).2
  by_cases hb : b = .step i
  · rw [hb, step_of_ended hv hend, hrequests]
  · rw [requestsOf_act_of_ne hb, hrequests]

end World
end LeaseLock
