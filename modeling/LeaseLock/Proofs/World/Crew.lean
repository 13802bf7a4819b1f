import Mathlib.Tactic.Common
import LeaseLock.Proofs.World.Roles

/-!
Tasks and flights agree in every run in which callers begin by entering.

Each way in which a step can touch roles or flights is one of the changes that `Crewed` outlives.
-/

namespace LeaseLock.World

variable {w w' : World} {i n : Nat} {t t' : Task}

lemma finish_flightsOf (w : World) (i : Nat) (t : Task) (ending : Ending) (group : String) :
    (w.finish i t ending).flightsOf group = t.duty.elim (w.flightsOf group) fun duty =>
      if group = duty.group then (w.flightsOf group).land duty.number (outcomeOf ending)
      else w.flightsOf group := by
  unfold finish
  split
  · next duty hd =>
    rw [hd, setFlights_flightsOf, Option.elim_some]
    split
    · next hg => rw [hg]; rfl
    · rfl
  · next hd => rw [hd]; rfl

namespace Crewed

/-- What changes neither the tasks nor the flights. -/
lemma still (hw : w.Crewed) (htasks : w'.tasks = w.tasks)
    (hflights : ∀ group, w'.flightsOf group = w.flightsOf group)
    (hfired : ∀ s ∈ w.fired, s ∈ w'.fired) : w'.Crewed := by
  have hroles (k : Nat) : w'.role? k = w.role? k := by simp [role?, htasks]
  refine hw.same (htasks ▸ hw.apt) (fun k r _ => by rw [hroles]) (fun group => ?_)
    (fun group n => .inl (by rw [hflights])) hfired
  rw [hflights]
  exact hw.listed group

/-- A task that is no caller goes on. -/
lemma go (hw : w.Crewed) (ht : w.tasks[i]? = some t) (htasks : w'.tasks = w.tasks.set i t')
    (hp : t.process.isCaller = false) (hp' : t'.process.isCaller = false)
    (hd : t'.duty = t.duty) (he : t'.ending = t.ending)
    (hcrew : ∀ a, t.process = .acquisition a → ∃ b, t'.process = .acquisition b)
    (hflights : ∀ group, w'.flightsOf group = w.flightsOf group)
    (hfired : ∀ s ∈ w.fired, s ∈ w'.fired) : w'.Crewed := by
  have hroles (k : Nat) : w'.role? k = w.role? k := by
    rw [role?_set ht htasks, Task.role_congr hp hp' hd he]
    split
    · next hk => rw [hk, role?_of_task ht]
    · rfl
  have hapt : t'.Apt := by
    refine .of_not_caller hp' fun duty hduty => ?_
    obtain ⟨a, ha⟩ := (hw.apt i t ht).crew duty (hd ▸ hduty)
    exact hcrew a ha
  refine hw.same (apt_set hw.apt hapt htasks) (fun k r _ => by rw [hroles]) (fun group => ?_)
    (fun group n => .inl (by rw [hflights])) hfired
  rw [hflights]
  exact hw.listed group

/-- A task ends, and with it the flight whose work it was. -/
lemma finish (hw : w.Crewed) (ht : w.tasks[i]? = some t) (hend : t.ending = none)
    {ending : Ending} (htells : ∀ group n signal, t.role = .waiter group n signal none →
      w.Tells group n signal ending) : (w.finish i t ending).Crewed := by
  have hended : ({ t with underway := none, ending := some ending } : Task).Apt :=
    ⟨(hw.apt i t ht).crew, fun _ => rfl, (hw.apt i t ht).begins⟩
  have hapt := apt_set hw.apt hended (w.finish_tasks i t ending)
  have hroles (k : Nat) : (w.finish i t ending).role? k =
      if k = i then some (t.role.finish ending) else w.role? k := by
    rw [role?_set ht (finish_tasks ..), Task.role_finish hend]
  have hfired : ∀ s ∈ w.fired, s ∈ (w.finish i t ending).fired := fun s hs => by
    rwa [finish_fired]
  have hi := role?_of_task ht
  cases hd : t.duty with
  | none =>
    have hflights (group : String) :
        (w.finish i t ending).flightsOf group = w.flightsOf group := by
      rw [finish_flightsOf, hd]
      rfl
    rcases Task.role_cases hd hend with hr | ⟨group, n, work, hr⟩ | ⟨group, n, signal, hr⟩ <;>
      rw [hr] at hroles hi
    · exact hw.turn hapt (by simp [hi]) (r := .bystander) trivial hroles hflights hfired
    · exact hw.turn hapt (by simp [hi]) (r := .bystander) trivial hroles hflights hfired
    · refine hw.turn hapt (by simp [hi]) (r := .waiter group n signal (some ending)) ?_ hroles
        hflights hfired
      refine ⟨(hw.waiter i group n signal none hi).1, fun e he => ?_⟩
      cases he
      exact htells group n signal hr
  | some duty =>
    have hr : t.role = .crew duty none := by rw [Task.role, hd, hend]
    rw [hr] at hroles hi
    have hflying := hw.crew i duty none hi
    have hopen : (w.flightsOf duty.group).outcome? duty.number = none := by
      simp [Flights.outcome?, hflying, Flight.Stage.ofEnding]
    refine hw.advance ⟨.inr hi, ⟨_, hflying, fun outcome h => by cases h⟩, fun k work h => ?_,
      fun k e h => hw.soleCrew k i duty e none h hi, hroles, fun group n => ?_⟩ hapt
      (fun group => ?_) hfired
    · have := hw.launcher k _ _ work h
      rw [hflying] at this
      cases this
    · rw [finish_flightsOf, hd, Option.elim_some]
      by_cases hg : group = duty.group
      · subst hg
        simp only [if_true, true_and, Flights.stage?_land]
        split
        · next hn => simp [hn, hflying, Flight.Stage.ofEnding]
        · rfl
      · simp [hg]
    · rw [finish_flightsOf, hd, Option.elim_some]
      split
      · next hg =>
        subst hg
        exact (hw.listed duty.group).land hflying hopen _
      · exact hw.listed group

lemma abort (hw : w.Crewed) (ht : w.tasks[i]? = some t) (hend : t.ending = none) :
    (w.finish i t .aborted).Crewed :=
  hw.finish ht hend fun _ _ _ _ => .inl rfl

/-- A call that is no caller's ends. -/
lemma finishOther (hw : w.Crewed) (ht : w.tasks[i]? = some t) (hend : t.ending = none)
    (hp : t.process.isCaller = false) (ending : Ending) : (w.finish i t ending).Crewed := by
  refine hw.finish ht hend fun group n signal hr => ?_
  rw [Task.role, Process.role_of_not_caller hp] at hr
  split at hr <;> cases hr

lemma duty_of_caller (hw : w.Crewed) (ht : w.tasks[i]? = some t) {c : Caller}
    (hp : t.process = .caller c) : t.duty = none := by
  cases hd : t.duty with
  | none => rfl
  | some duty =>
    obtain ⟨a, ha⟩ := (hw.apt i t ht).crew duty hd
    rw [hp] at ha
    cases ha

lemma role_of_caller (hw : w.Crewed) (ht : w.tasks[i]? = some t) (hend : t.ending = none)
    {c : Caller} (hp : t.process = .caller c) : t.role = c.role none := by
  rw [Task.role, hw.duty_of_caller ht hp, hp, hend]
  rfl

lemma role?_of_caller (hw : w.Crewed) (ht : w.tasks[i]? = some t) (hend : t.ending = none)
    {c : Caller} (hp : t.process = .caller c) : w.role? i = some (c.role none) := by
  rw [role?_of_task ht, hw.role_of_caller ht hend hp]

/-- The flights of a group, when someone has joined or entered one. -/
lemma enter (hw : w.Crewed) (group key : String) :
    (w.setFlights group ((w.flightsOf group).enter key).2).Crewed := by
  refine hw.same hw.apt (fun k r _ => Iff.rfl) (fun g => ?_) (fun g n => ?_) fun s hs => hs
  · rw [setFlights_flightsOf]
    split
    · exact (hw.listed group).enter key
    · exact hw.listed g
  · rw [setFlights_flightsOf]
    split
    · next hg =>
      subst hg
      rw [Flights.stage?_enter]
      split
      · next h =>
        refine .inr ⟨?_, rfl⟩
        simp [Flights.stage?, h.2]
      · exact .inl rfl
    · exact .inl rfl

/-- A caller comes to its next stage, and with it to its next role. -/
lemma callerTurn (hw : w.Crewed) {c c' : Caller} (ht : w.tasks[i]? = some t)
    (hend : t.ending = none) (hp : t.process = .caller c) (hr : w.Admits i (c'.role none))
    (hs : ∀ work, c'.stage ≠ .entering work) :
    (w.setTask i { t with process := .caller c' }).Crewed := by
  have hidle := (hw.apt i t ht).idle (by rw [hp]; rfl)
  have hd := hw.duty_of_caller ht hp
  have hapt : ({ t with process := .caller c' } : Task).Apt :=
    ⟨fun duty h => (Option.some_ne_none duty (h.symm.trans hd)).elim, fun _ => hidle,
      fun x work hx hstage => by cases hx; exact absurd hstage (hs work)⟩
  refine hw.turn (r := c'.role none) (apt_set hw.apt hapt (setTask_tasks ..))
    (fun duty ending h => ?_) hr (fun k => ?_) (fun _ => rfl) fun s hs => hs
  · rw [hw.role?_of_caller ht hend hp] at h
    simp only [Caller.role] at h
    cases hs : c.stage <;> simp [hs] at h
  · rw [role?_set ht (setTask_tasks ..), Task.role]
    simp only [hd, hend]
    rfl

/-- A launched flight gets a task for its work. -/
lemma launch (hw : w.Crewed) {c : Caller} {work : Acquisition} (ht : w.tasks[i]? = some t)
    (hend : t.ending = none) (hp : t.process = .caller c) (hs : c.stage = .launching n work) :
    (((w.setFlights c.group ((w.flightsOf c.group).launch n)).setTask i
      { t with process := .caller { c with stage := .waiting n } }).spawn
        (.acquisition work) (some ⟨c.group, n⟩)).2.Crewed := by
  have hi : w.role? i = some (.launcher c.group n work) := by
    rw [hw.role?_of_caller ht hend hp, Caller.role, hs]
    rfl
  have hboarding := hw.launcher i c.group n work hi
  -- The caller waits from now on, and then there is nobody left to launch the flight.
  generalize hw' : w.setTask i { t with process := .caller { c with stage := .waiting n } } = w₁
  have hw₁ : w₁.Crewed := hw' ▸ hw.callerTurn ht hend hp
    ⟨by rw [hboarding]; rfl, fun e he => by cases he⟩ fun work' h => by cases h
  have hroles (k : Nat) : w₁.role? k =
      if k = i then some (.waiter c.group n c.signal none) else w.role? k := by
    rw [← hw', role?_set ht (setTask_tasks ..), Task.role]
    simp only [hw.duty_of_caller ht hp, hend]
    rfl
  have hflights (group : String) : w₁.flightsOf group = w.flightsOf group := by
    rw [← hw']
    rfl
  have hcrew : (⟨.acquisition work, none, some ⟨c.group, n⟩, none⟩ : Task).Apt :=
    .of_not_caller rfl fun _ _ => ⟨work, rfl⟩
  generalize hw'' : (((w.setFlights c.group ((w.flightsOf c.group).launch n)).setTask i
      { t with process := .caller { c with stage := .waiting n } }).spawn
        (.acquisition work) (some ⟨c.group, n⟩)).2 = w₂
  have htasks : w₂.tasks = w₁.tasks ++ [⟨.acquisition work, none, some ⟨c.group, n⟩, none⟩] := by
    rw [← hw', ← hw'']
    rfl
  have hflights' (group : String) : w₂.flightsOf group =
      if group = c.group then (w.flightsOf c.group).launch n else w.flightsOf group := by
    rw [← hw'']
    exact w.setFlights_flightsOf c.group group _
  refine hw₁.advance ⟨.inl (by simp [role?]), ⟨.boarding, by rw [hflights]; exact hboarding,
      fun outcome h => by cases h⟩, fun k work' h => ?_, fun k e h => ?_, role?_push htasks,
      fun group m => ?_⟩ (apt_push hw₁.apt hcrew htasks) (fun group => ?_)
    fun s hs => by rw [← hw'']; rw [← hw'] at hs; exact hs
  · rw [hroles] at h
    split at h
    · cases h
    · next hk => exact hk (hw.soleLauncher k i c.group n work' work h hi)
  · have := hw₁.crew k _ e h
    rw [hflights, hboarding] at this
    cases e <;> cases this
  · rw [hflights', hflights]
    by_cases hg : group = c.group
    · simp only [hg, if_true, true_and, Flights.launch, Flights.stage?_setStage]
      split
      · next hm => simp [hm, hboarding, Flight.Stage.ofEnding]
      · rfl
    · simp [hg]
  · rw [hflights']
    split
    · exact (hw.listed c.group).launch hboarding
    · exact hw.listed group

end Crewed

/-- A request that moves on is none of the flights' business. -/
lemma Moved.crewed (hw : w.Crewed) (ht : w.tasks[i]? = some t) (h : Moved w i t w') :
    w'.Crewed := by
  have goes {u u' : Underway} (hu : t.underway = some u)
      (htasks : w'.tasks = w.tasks.set i { t with underway := some u' })
      (hflights : ∀ group, w'.flightsOf group = w.flightsOf group) (hfired : w'.fired = w.fired) :
      w'.Crewed := by
    have hp : t.process.isCaller = false := by
      by_contra hp
      rw [(hw.apt i t ht).idle (by simpa using hp)] at hu
      cases hu
    exact hw.go ht htasks hp hp rfl rfl (fun a ha => ⟨a, ha⟩) hflights fun s hs => hfired ▸ hs
  cases h with
  | arrived u _ underway | served u _ _ underway | overflowed u underway
  | answered u _ underway | failed u _ underway | broke u underway | returned u _ _ underway =>
    exact goes underway rfl (fun _ => rfl) rfl

lemma Turned.crewed (hw : w.Crewed) (ht : w.tasks[i]? = some t) (hend : t.ending = none)
    (h : Turned w i t w') : w'.Crewed := by
  have ends {turn : Turn Process (Option Grant)} (hturn : t.turn? w = some turn)
      (ending : Ending) : (w.finish i t ending).Crewed :=
    hw.finishOther ht hend (Task.took_of_turn? hturn).not_caller ending
  have waits {c : Caller} {number : Nat} (process : t.process = .caller c)
      (stage : c.stage = .waiting number) {ending : Ending}
      (htells : w.Tells c.group number c.signal ending) : (w.finish i t ending).Crewed := by
    refine hw.finish ht hend fun group n signal hr => ?_
    rw [hw.role_of_caller ht hend process, Caller.role, stage] at hr
    cases hr
    exact htells
  cases h with
  | went p turn =>
    obtain ⟨hp, hp', hcrew⟩ := (Task.took_of_turn? turn).kind rfl
    exact hw.go ht rfl hp hp' rfl rfl hcrew (fun _ => rfl) fun s hs => hs
  | fired p signal turn =>
    obtain ⟨hp, hp', hcrew⟩ := (Task.took_of_turn? turn).kind rfl
    have htasks : ((w.fire signal).setTask i { t with process := p }).tasks =
        w.tasks.set i { t with process := p } := by simp
    exact hw.go ht htasks hp hp' rfl rfl hcrew (w.fire_flightsOf signal) fun s hs => w.mem_fire hs
  | asked p r turn =>
    obtain ⟨hp, hp', hcrew⟩ := (Task.took_of_turn? turn).kind rfl
    exact hw.go ht rfl hp hp' rfl rfl hcrew (fun _ => rfl) fun s hs => hs
  | leased grant turn =>
    have hsignal : w.newSignal.2.Crewed := hw.still rfl (fun _ => rfl) fun s hs => hs
    exact hsignal.finishOther ht hend (Task.took_of_turn? turn).not_caller _
  | done turn => exact ends turn .done
  | failed e turn => exact ends turn (.failed e)
  | broke text turn => exact ends turn (.broken text)
  | refused e process => exact hw.finishOther ht hend (by rw [process]; rfl) _
  | joined c work row process stage row? =>
    refine (hw.enter c.group work.key).callerTurn ht hend process
      ⟨?_, fun e he => by cases he⟩ fun work' h => by cases h
    obtain ⟨flight, hflight, -⟩ :=
      Option.map_eq_some_iff.mp (((hw.listed c.group) work.key row).mp row?).1
    rw [setFlights_flightsOf, if_pos rfl, Flights.stage?_enter, row?, if_neg (by simp)]
    simp [Flights.stage?, hflight]
  | entered c work process stage row? =>
    refine (hw.enter c.group work.key).callerTurn ht hend process ⟨?_, fun k work' _ hk => ?_⟩
      fun work' h => by cases h
    · rw [setFlights_flightsOf, if_pos rfl, Flights.stage?_enter, row?, if_pos ⟨rfl, rfl⟩]
    · -- whoever launches a flight has entered it, and this one is new
      have hboarding := hw.launcher k c.group _ work' hk
      simp [Flights.stage?] at hboarding
  | launched c number work process stage => exact hw.launch ht hend process stage
  | cancelled c number process stage hfired =>
    exact waits process stage (.inr (.inl ⟨rfl, hfired⟩))
  | told c number lease process stage hfired outcome? =>
    exact waits process stage (.inr (.inr ⟨_, outcome?, rfl⟩))
  | toldFailure c number e process stage hfired outcome? =>
    exact waits process stage (.inr (.inr ⟨_, outcome?, rfl⟩))

namespace Crewed

lemma spawn (hw : w.Crewed) {p : Process} (hp : Act.Proper (.spawn p)) :
    (w.spawn p none).2.Crewed := by
  have hrole : (⟨p, none, none, none⟩ : Task).role = .bystander := by
    cases p with
    | caller c =>
      obtain ⟨group, key, ttl, timeout, strategy, signal, rfl⟩ := hp
      rfl
    | _ => rfl
  have hroles (k : Nat) := role?_push (w := w) (spawn_tasks w p none) k
  have hapt : (⟨p, none, none, none⟩ : Task).Apt := by
    refine ⟨fun d h => (Option.some_ne_none d h.symm).elim, fun _ => rfl, fun c work hc _ => ?_⟩
    subst hc
    exact hp
  refine hw.same (apt_push hw.apt hapt rfl) (fun k r hr => ?_) hw.listed (fun _ _ => .inl rfl)
    fun s hs => hs
  rw [hroles, hrole]
  split
  · next hk =>
    subst hk
    refine ⟨fun h => absurd (Option.some.inj h).symm hr, fun h => ?_⟩
    simp [role?] at h
  · rfl

/-- **Tasks and flights go on agreeing, whatever happens next.** -/
theorem act (hw : w.Crewed) {a : Act} (ha : a.Proper) : (w.act a).Crewed := by
  cases a with
  | step i =>
    rcases w.act_step i with h | ⟨t, ht, hend, hm | htu⟩
    · rwa [h]
    · exact hm.crewed hw ht
    · exact htu.crewed hw ht hend
  | spawn p => exact hw.spawn ha
  | abort i =>
    rcases w.act_abort i with h | ⟨t, ht, hend, h⟩
    · rwa [h]
    · rw [h]
      exact hw.abort ht hend
  | fire s => exact hw.still (w.fire_tasks s) (w.fire_flightsOf s) fun _ => w.mem_fire
  | intrude r =>
    simp only [World.act]
    split <;> exact hw.still rfl (fun _ => rfl) fun s hs => hs
  | advance | newSignal | expire | plan => exact hw.still rfl (fun _ => rfl) fun s hs => hs

end Crewed
end LeaseLock.World
