import Mathlib.Tactic.Common
import LeaseLock.Proofs.World.Calls
import LeaseLock.Proofs.World.Crew

/-!
The work of one flight.

`Acquisition.Runs` says which requests the turns of an acquisition lead to, and `Manned` that who
is to launch a flight brings one acquisition along, of which its work is such a run.
-/

namespace LeaseLock

/-- The requests that an acquisition puts to the store by some turns, and what it is then. -/
inductive Acquisition.Runs (start : Acquisition) : List Request → Acquisition → Prop
  | start : Runs start [] start
  | went {requests : List Request} {a b : Acquisition} (g : Glimpse)
      (before : Runs start requests a) (turn : a.turn g = .go b) : Runs start requests b
  | asked {requests : List Request} {a b : Acquisition} {r : Request} (g : Glimpse)
      (before : Runs start requests a) (turn : a.turn g = .ask b r) :
      Runs start (requests ++ [r]) b

/-- Whether a turn of an acquisition can end its task in this way. -/
def Acquisition.Ends (a : Acquisition) (ending : Ending) : Prop :=
  ∃ g outcome, a.turn g = .fin outcome ∧ (outcome.map some).Ends ending

/-- Whether a task has run `work` so far with these requests, and has ended as it can. -/
def Task.Works (t : Task) (work : Acquisition) (requests : List Request) : Prop :=
  ∃ a, t.process = .acquisition a ∧ work.Runs requests a ∧
    ∀ e, t.ending = some e → e = .aborted ∨ a.Ends e

namespace Task.Works

variable {w : World} {t : Task} {work : Acquisition} {requests : List Request} {p : Process}

/-- The turn of a task that runs an acquisition is the turn of that acquisition. -/
lemma turn (h : t.Works work requests) {turn : Turn Process (Option Grant)}
    (hturn : t.turn? w = some turn) :
    ∃ (a : Acquisition) (g : Glimpse) (own : Turn Acquisition Grant),
      t.process = .acquisition a ∧ work.Runs requests a ∧ a.turn g = own ∧
        turn = own.map .acquisition some := by
  obtain ⟨a, ha, hruns, -⟩ := h
  simp only [Task.turn?, ha, Option.some.injEq] at hturn
  exact ⟨a, w.glimpse t a.signal, _, ha, hruns, rfl, hturn.symm⟩

lemma went (h : t.Works work requests) (hend : t.ending = none)
    (turn : t.turn? w = some (.go p)) :
    ({ t with process := p, underway := none } : Task).Works work requests := by
  obtain ⟨a, g, own, -, hruns, hown, hturn⟩ := h.turn turn
  cases own with
  | go b =>
    cases hturn
    exact ⟨b, rfl, .went g hruns hown, fun e he => by rw [hend] at he; cases he⟩
  | _ => cases hturn

lemma asked (h : t.Works work requests) (hend : t.ending = none) {r : Request}
    (turn : t.turn? w = some (.ask p r)) (u : Underway) :
    ({ t with process := p, underway := some u } : Task).Works work (requests ++ [r]) := by
  obtain ⟨a, g, own, -, hruns, hown, hturn⟩ := h.turn turn
  cases own with
  | ask b r' =>
    cases hturn
    exact ⟨b, rfl, .asked g hruns hown, fun e he => by rw [hend] at he; cases he⟩
  | _ => cases hturn

/-- An acquisition fires no signal. -/
lemma not_fires (h : t.Works work requests) {signal : Signal}
    (turn : t.turn? w = some (.fire p signal)) : False := by
  obtain ⟨a, g, own, -, -, hown, hturn⟩ := h.turn turn
  have htook := a.turn_took g
  cases own with
  | fire b s =>
    rw [hown] at htook
    cases htook
  | _ => cases hturn

lemma ended (h : t.Works work requests) {outcome : Outcome (Option Grant)} {ending : Ending}
    (turn : t.turn? w = some (.fin outcome)) (he : outcome.Ends ending) :
    ({ t with underway := none, ending := some ending } : Task).Works work requests := by
  obtain ⟨a, g, own, ha, hruns, hown, hturn⟩ := h.turn turn
  cases own with
  | fin o =>
    cases hturn
    refine ⟨a, ha, hruns, fun e hx => ?_⟩
    cases hx
    exact .inr ⟨g, o, hown, he⟩
  | _ => cases hturn

lemma aborted (h : t.Works work requests) :
    ({ t with underway := none, ending := some .aborted } : Task).Works work requests := by
  obtain ⟨a, ha, hruns, -⟩ := h
  exact ⟨a, ha, hruns, fun e he => by cases he; exact .inl rfl⟩

end Task.Works

namespace World

variable {w w' : World} {i n : Nat} {t t' : Task} {group : String} {work : Acquisition}

/-- Who brings `work` to a flight, or carries it out. -/
structure Manned (w : World) (group : String) (n : Nat) (work : Acquisition) : Prop where
  name : ∃ id, (w.flightsOf group).name? n = some (work.key, id)
  launcher : ∀ k work', w.role? k = some (.launcher group n work') → work' = work
  crew : ∀ (j : Nat) (t : Task), w.tasks[j]? = some t → t.duty = some ⟨group, n⟩ →
    t.Works work (requestsOf j w.history)

namespace Manned

/-- One task goes on. -/
lemma update (hw : w.Manned group n work) (ht : w.tasks[i]? = some t)
    (htasks : w'.tasks = w.tasks.set i t') (hduty : t'.duty = t.duty)
    (hrole : ∀ work', t'.role = .launcher group n work' →
      t.role = .launcher group n work' ∨ work' = work)
    (hothers : ∀ j, j ≠ i → requestsOf j w'.history = requestsOf j w.history)
    (hworks : t.duty = some ⟨group, n⟩ → t.Works work (requestsOf i w.history) →
      t'.Works work (requestsOf i w'.history))
    (hname : (w'.flightsOf group).name? n = (w.flightsOf group).name? n) :
    w'.Manned group n work := by
  refine ⟨hname ▸ hw.name, fun k work' h => ?_, fun j x hx hd => ?_⟩
  · rw [role?_set ht htasks] at h
    split at h
    · rcases hrole work' (Option.some.inj h) with hr | hr
      · exact hw.launcher i work' (by rw [role?_of_task ht, hr])
      · exact hr
    · exact hw.launcher k work' h
  · rw [htasks] at hx
    by_cases hj : j = i
    · subst hj
      rw [List.getElem?_set_self (List.getElem?_eq_some_iff.mp ht).1] at hx
      cases hx
      rw [hduty] at hd
      exact hworks hd (hw.crew j t ht hd)
    · rw [List.getElem?_set_ne (Ne.symm hj)] at hx
      rw [hothers j hj]
      exact hw.crew j x hx hd

/-- A task is added. -/
lemma push (hw : w.Manned group n work) {x : Task} (htasks : w'.tasks = w.tasks ++ [x])
    (hbeyond : ∀ j, w.tasks.length ≤ j → requestsOf j w.history = [])
    (hrole : ∀ work', x.role ≠ .launcher group n work')
    (hworks : x.duty = some ⟨group, n⟩ → x.Works work [])
    (hhistory : w'.history = w.history)
    (hname : (w'.flightsOf group).name? n = (w.flightsOf group).name? n) :
    w'.Manned group n work := by
  refine ⟨hname ▸ hw.name, fun k work' h => ?_, fun j y hy hd => ?_⟩
  · rw [role?_push htasks] at h
    split at h
    · exact absurd (Option.some.inj h) (hrole work')
    · exact hw.launcher k work' h
  · rw [htasks] at hy
    rw [hhistory]
    rcases Nat.lt_or_ge j w.tasks.length with hlt | hge
    · rw [List.getElem?_append_left hlt] at hy
      exact hw.crew j y hy hd
    · rw [hbeyond j hge]
      rw [List.getElem?_append_right hge] at hy
      obtain rfl := List.mem_singleton.mp (List.mem_of_getElem? hy)
      exact hworks hd

/-- What changes neither tasks nor flights, and adds no request. -/
lemma still (hw : w.Manned group n work) (htasks : w'.tasks = w.tasks)
    (hrequests : ∀ j, requestsOf j w'.history = requestsOf j w.history)
    (hname : (w'.flightsOf group).name? n = (w.flightsOf group).name? n) :
    w'.Manned group n work where
  name := hname ▸ hw.name
  launcher k work' h := hw.launcher k work' (by simpa [role?, htasks] using h)
  crew j t ht hd := by
    rw [hrequests]
    exact hw.crew j t (htasks ▸ ht) hd

lemma finish (hw : w.Manned group n work) (ht : w.tasks[i]? = some t) (hend : t.ending = none)
    {ending : Ending} (hworks : t.duty = some ⟨group, n⟩ →
      t.Works work (requestsOf i w.history) →
      ({ t with underway := none, ending := some ending } : Task).Works work
        (requestsOf i w.history)) : (w.finish i t ending).Manned group n work := by
  have hrequests (j : Nat) :
      requestsOf j (w.finish i t ending).history = requestsOf j w.history :=
    requestsOf_other rfl (finish_history ..)
  refine hw.update ht (w.finish_tasks i t ending) rfl (fun work' hr => ?_)
    (fun j _ => hrequests j) (fun hd h => ?_) ?_
  · rw [Task.role_finish hend] at hr
    cases hrole : t.role <;> rw [hrole] at hr <;> cases hr
  · rw [hrequests]
    exact hworks hd h
  · rw [finish_flightsOf]
    cases t.duty with
    | none => rfl
    | some duty =>
      rw [Option.elim_some]
      split
      · rw [Flights.name?_land]
      · rfl

/-- A caller comes to its next stage. -/
lemma nextStage (hw : w.Manned group n work) (hcrewed : w.Crewed) (ht : w.tasks[i]? = some t)
    (hend : t.ending = none) {c c' : Caller} (hp : t.process = .caller c) {f : Flights Shared}
    (hname : ((w.setFlights c.group f).flightsOf group).name? n = (w.flightsOf group).name? n)
    (hrole : ∀ work', c'.role none = .launcher group n work' → work' = work) :
    ((w.setFlights c.group f).setTask i { t with process := .caller c' }).Manned group n work := by
  have hd := hcrewed.duty_of_caller ht hp
  refine hw.update ht rfl rfl (fun work' hr => .inr ?_) (fun _ _ => rfl) (fun hd' => ?_) hname
  · rw [Task.role] at hr
    simp only [hd, hend] at hr
    exact hrole work' hr
  · rw [hd] at hd'
    cases hd'

lemma name?_enter (hw : w.Manned group n work) (c : Caller) (key : String) :
    ((w.setFlights c.group ((w.flightsOf c.group).enter key).2).flightsOf group).name? n =
      (w.flightsOf group).name? n := by
  obtain ⟨id, hname⟩ := hw.name
  rw [setFlights_flightsOf]
  split
  · next hg => rw [hg] at hname ⊢; exact Flights.name?_enter (Flights.lt_of_name? hname) key
  · rfl

/-- Whoever launches this flight launches it with `work`. -/
lemma launch (hw : w.Manned group n work) (hcrewed : w.Crewed) (hasked : w.Asked)
    (ht : w.tasks[i]? = some t) (hend : t.ending = none) {c : Caller} {number : Nat}
    {work' : Acquisition} (hp : t.process = .caller c) (hs : c.stage = .launching number work') :
    (((w.setFlights c.group ((w.flightsOf c.group).launch number)).setTask i
      { t with process := .caller { c with stage := .waiting number } }).spawn
        (.acquisition work') (some ⟨c.group, number⟩)).2.Manned group n work := by
  have hi : w.role? i = some (.launcher c.group number work') := by
    rw [hcrewed.role?_of_caller ht hend hp, Caller.role, hs]
    rfl
  let c' : Caller := { c with stage := .waiting number }
  have hset : ((w.setFlights c.group ((w.flightsOf c.group).launch number)).setTask i
      { t with process := .caller c' }).Manned group n work := by
    refine hw.nextStage hcrewed ht hend hp ?_ fun work'' hr => by cases hr
    rw [setFlights_flightsOf]
    split
    · next hg => rw [hg, Flights.launch, Flights.name?_setStage]
    · rfl
  refine hset.push rfl (fun j hj => hasked.beyond (by simpa using hj))
    (fun work'' hr => by cases hr) (fun hd => ?_) rfl rfl
  cases hd
  rw [hw.launcher i work' hi]
  exact ⟨work, rfl, .start, fun e he => by cases he⟩

end Manned

lemma Moved.manned (hw : w.Manned group n work) (ht : w.tasks[i]? = some t)
    (hend : t.ending = none) (h : Moved w i t w') : w'.Manned group n work := by
  have goes {u' : Underway}
      (htasks : w'.tasks = w.tasks.set i { t with underway := some u' })
      (hflights : ∀ g, w'.flightsOf g = w.flightsOf g)
      (hrequests : ∀ j, requestsOf j w'.history = requestsOf j w.history) :
      w'.Manned group n work := by
    refine hw.update ht htasks rfl (fun _ hr => .inl hr) (fun j _ => hrequests j)
      (fun _ hworks => ?_) (by rw [hflights])
    obtain ⟨a, ha, hruns, -⟩ := hworks
    rw [hrequests]
    exact ⟨a, ha, hruns, fun e he => by simp [hend] at he⟩
  cases h with
  | served u yes m underway stage deed serve =>
    exact goes rfl (fun _ => rfl) fun j => requestsOf_other rfl rfl
  | arrived | overflowed | answered | failed | broke | returned =>
    exact goes rfl (fun _ => rfl) fun _ => rfl

lemma Turned.manned (hw : w.Manned group n work) (hcrewed : w.Crewed) (hasked : w.Asked)
    (ht : w.tasks[i]? = some t) (hend : t.ending = none) (h : Turned w i t w') :
    w'.Manned group n work := by
  have goes {turn : Turn Process (Option Grant)} {p : Process} (hturn : t.turn? w = some turn)
      (hp : turn.next? = some p) (u : Option Underway) (work' : Acquisition) :
      ({ t with process := p, underway := u } : Task).role = .launcher group n work' →
        t.role = .launcher group n work' ∨ work' = work := by
    obtain ⟨hproc, hproc', -⟩ := (Task.took_of_turn? hturn).kind hp
    have hsame : ({ t with process := p, underway := u } : Task).role = t.role :=
      Task.role_congr hproc hproc' rfl rfl
    exact fun hr => .inl (hsame ▸ hr)
  have ends {outcome : Outcome (Option Grant)} {ending : Ending}
      (hturn : t.turn? w = some (.fin outcome)) (he : outcome.Ends ending) :
      (w.finish i t ending).Manned group n work :=
    hw.finish ht hend fun _ hworks => hworks.ended hturn he
  have tells {c : Caller} (hp : t.process = .caller c) (ending : Ending) :
      (w.finish i t ending).Manned group n work := by
    refine hw.finish ht hend fun hd _ => ?_
    rw [hcrewed.duty_of_caller ht hp] at hd
    cases hd
  cases h with
  | went p turn =>
    exact hw.update ht rfl rfl (goes turn rfl none) (fun _ _ => rfl)
      (fun _ hworks => hworks.went hend turn) rfl
  | fired p signal turn =>
    have htasks : ((w.fire signal).setTask i { t with process := p }).tasks =
        w.tasks.set i { t with process := p } := by simp
    refine hw.update ht htasks rfl (goes turn rfl _) (fun j _ => ?_)
      (fun _ hworks => (hworks.not_fires turn).elim) (congrArg (Flights.name? · n)
        (w.fire_flightsOf signal group))
    rw [setTask_history]
    rcases w.fire_cases signal with ⟨-, h⟩ | ⟨-, h⟩
    · rw [h]
    · exact requestsOf_other rfl h
  | asked p r turn =>
    refine hw.update ht rfl rfl (goes turn rfl _) (fun j hj => ?_) (fun _ hworks => ?_) rfl
    · rw [ask_history, requestsOf_cons]
      simp [Event.asked?, Ne.symm hj]
    · rw [ask_history, requestsOf_cons]
      simp only [Event.asked?, if_true]
      exact hworks.asked hend turn _
  | leased grant turn =>
    have hsignal : w.newSignal.2.Manned group n work := hw.still rfl (fun _ => rfl) rfl
    exact hsignal.finish ht hend fun _ hworks => hworks.ended turn (.leased grant w.signals)
  | done turn => exact ends turn .done
  | failed e turn => exact ends turn (.failed e)
  | broke text turn => exact ends turn (.broke text)
  | refused e process =>
    refine hw.finish ht hend fun hd _ => ?_
    obtain ⟨a, ha⟩ := (hcrewed.apt i t ht).crew _ hd
    rw [process] at ha
    cases ha
  | joined c work' row process stage row? =>
    exact hw.nextStage hcrewed ht hend process (hw.name?_enter c work'.key)
      fun work'' hr => by cases hr
  | entered c work' process stage row? =>
    refine hw.nextStage hcrewed ht hend process (hw.name?_enter c work'.key) fun work'' hr => ?_
    -- the new flight is not this one, which has a name already
    obtain ⟨id, hname⟩ := hw.name
    have hlt := Flights.lt_of_name? hname
    cases hr
    exact absurd hlt (Nat.lt_irrefl _)
  | launched c number work' process stage =>
    exact hw.launch hcrewed hasked ht hend process stage
  | cancelled c number process => exact tells process _
  | told c number lease process => exact tells process _
  | toldFailure c number e process => exact tells process _

lemma Manned.act (hw : w.Manned group n work) (hcrewed : w.Crewed) (hasked : w.Asked) {a : Act}
    (ha : a.Proper) : (w.act a).Manned group n work := by
  cases a with
  | step i =>
    rcases w.act_step i with h | ⟨t, ht, hend, hm | htu⟩
    · rwa [h]
    · exact hm.manned hw ht hend
    · exact htu.manned hw hcrewed hasked ht hend
  | spawn p =>
    refine hw.push rfl (fun j => hasked.beyond) (fun work' h => ?_) (fun hd => by cases hd) rfl rfl
    cases p with
    | caller c =>
      obtain ⟨group, key, ttl, timeout, strategy, signal, rfl⟩ := ha
      cases h
    | _ => cases h
  | abort i =>
    rcases w.act_abort i with h | ⟨t, ht, hend, h⟩
    · rwa [h]
    · rw [h]
      exact hw.finish ht hend fun _ hworks => hworks.aborted
  | fire s =>
    refine hw.still (w.fire_tasks s) (fun j => ?_)
      (congrArg (Flights.name? · n) (w.fire_flightsOf s group))
    rcases w.fire_cases s with ⟨-, h⟩ | ⟨-, h⟩
    · exact congrArg (fun v : World => requestsOf j v.history) h
    · exact requestsOf_other rfl h
  | expire key => exact hw.still rfl (fun j => requestsOf_other rfl rfl) rfl
  | intrude r =>
    simp only [World.act]
    split
    · exact hw.still rfl (fun j => requestsOf_other rfl rfl) rfl
    · exact hw.still rfl (fun _ => rfl) rfl
  | advance | newSignal | plan => exact hw.still rfl (fun _ => rfl) rfl

end World
end LeaseLock
