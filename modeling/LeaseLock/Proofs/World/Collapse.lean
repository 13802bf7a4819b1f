import Mathlib.Tactic.Common
import LeaseLock.Proofs.World.Work

/-!
Calls for one key collapse into one acquisition.

A flight has one task for its work, whose requests are those of the acquisition that its first
caller brought along. Callers put nothing to the store; who comes while the flight has not landed
joins it, and they all get what that one task ends with.
-/

namespace LeaseLock.World

variable {w : World} {i k n : Nat} {t : Task} {group : String} {work : Acquisition}

/-! ### The turns of callers -/

lemma step_caller (ht : w.tasks[k]? = some t) (hend : t.ending = none) {c : Caller}
    (hp : t.process = .caller c) (hu : t.underway = none) : w.step k = w.callerTurn k t c := by
  simp [step, ht, hend, heedsSignalFirst, hp, moveRequest, hu, turn]

/-- What it means for a world that flight `n` of a group is one run of `work`. -/
structure Collapsed (w : World) (group : String) (n : Nat) (work : Acquisition) : Prop where
  /-- From its launch on the flight has a task for its work. -/
  manned : (w.flightsOf group).stage? n = some .boarding ∨
    ∃ (j : Nat) (t : Task), w.tasks[j]? = some t ∧ t.duty = some ⟨group, n⟩
  /-- There is one such task, with the requests of one run, and by its end the flight lands. -/
  works : ∀ (j : Nat) (t : Task), w.tasks[j]? = some t → t.duty = some ⟨group, n⟩ →
    t.Works work (requestsOf j w.history) ∧
    (w.flightsOf group).outcome? n = t.ending.map outcomeOf ∧
    ∀ (k : Nat) (t' : Task), w.tasks[k]? = some t' → t'.duty = some ⟨group, n⟩ → k = j
  /-- Until the flight has landed, no other task of the group is after the key. -/
  alone : ∀ (k : Nat) (t : Task) (m : Nat) (id : UInt64), w.tasks[k]? = some t →
    t.ending = none → t.duty = some ⟨group, m⟩ →
    (w.flightsOf group).name? m = some (work.key, id) →
    (w.flightsOf group).outcome? n = none → m = n
  /-- No caller puts anything to the store. -/
  silent : ∀ (k : Nat) (t : Task) (c : Caller), w.tasks[k]? = some t → t.process = .caller c →
    requestsOf k w.history = []
  /-- Who calls for the key before the flight has landed joins it, and does nothing else. -/
  joins : ∀ (k : Nat) (t : Task) (c : Caller) (work' : Acquisition), w.tasks[k]? = some t →
    t.ending = none → t.process = .caller c → c.group = group → c.stage = .entering work' →
    work'.key = work.key → (w.flightsOf group).outcome? n = none →
    (w.act (.step k)).tasks =
        w.tasks.set k { t with process := .caller { c with stage := .waiting n } } ∧
      (w.act (.step k)).history = w.history
  /-- Who has waited for the flight was dropped, was cancelled, or got its outcome. -/
  ends : ∀ (k : Nat) (t : Task) (c : Caller) (e : Ending), w.tasks[k]? = some t →
    t.process = .caller c → c.group = group → c.stage = .waiting n → t.ending = some e →
    w.Tells group n c.signal e
  /-- Who waits gets the outcome as soon as it is there. -/
  told : ∀ (k : Nat) (t : Task) (c : Caller) (outcome : Shared), w.tasks[k]? = some t →
    t.ending = none → t.process = .caller c → c.group = group → c.stage = .waiting n →
    w.hasFired c.signal = false → (w.flightsOf group).outcome? n = some outcome →
    (w.act (.step k)).ending? k = some (.ofShared outcome)

lemma Crewed.waiter_of_task (hw : w.Crewed) (ht : w.tasks[k]? = some t) {c : Caller}
    (hp : t.process = .caller c) (hs : c.stage = .waiting n) :
    w.role? k = some (.waiter c.group n c.signal t.ending) := by
  rw [role?_of_task ht, Task.role, hw.duty_of_caller ht hp, hp]
  simp [Process.role, Caller.role, hs]

lemma Crewed.crew_of_task (ht : w.tasks[k]? = some t) {duty : Duty} (hd : t.duty = some duty) :
    w.role? k = some (.crew duty t.ending) := by
  rw [role?_of_task ht, Task.role, hd]

lemma Manned.collapsed (hw : w.Manned group n work) (hcrewed : w.Crewed) (hasked : w.Asked) :
    w.Collapsed group n work := by
  obtain ⟨id, hname⟩ := hw.name
  refine { manned := ?_, works := fun j t ht hd => ⟨hw.crew j t ht hd, ?_, ?_⟩, alone := ?_,
           silent := fun k t c ht hp => hasked.silent ht hp, joins := ?_, ends := ?_, told := ?_ }
  · -- manned
    obtain ⟨flight, hflight, -⟩ := Option.map_eq_some_iff.mp hname
    have hstage : (w.flightsOf group).stage? n = some flight.stage := by
      simp [Flights.stage?, hflight]
    by_cases hb : flight.stage = .boarding
    · exact .inl (hb ▸ hstage)
    · right
      obtain ⟨k, ending, hk⟩ := hcrewed.manned group n flight.stage hstage hb
      obtain ⟨t, ht, hr⟩ := Option.map_eq_some_iff.mp hk
      exact ⟨k, t, ht, Task.duty_of_role hr⟩
  · -- works
    have hstage := hcrewed.crew j _ _ (Crewed.crew_of_task ht hd)
    rw [Flights.outcome?, hstage]
    cases t.ending <;> rfl
  · intro k t' ht' hd'
    exact hcrewed.soleCrew k j _ _ _ (Crewed.crew_of_task ht' hd') (Crewed.crew_of_task ht hd)
  · -- alone
    intro k t m id' ht hend hd hm ho
    have hflying := hcrewed.crew k _ _ (Crewed.crew_of_task ht hd)
    rw [hend] at hflying
    refine (hcrewed.listed group).unique hm hname ?_ ho
    simp [Flights.outcome?, hflying, Flight.Stage.ofEnding]
  · -- joins
    intro k t c work' ht hend hp hg hs hkey ho
    have hidle := (hcrewed.apt k t ht).idle (by rw [hp]; rfl)
    have hrow : (w.flightsOf c.group).table.find? work'.key = some ⟨id, n⟩ := by
      rw [hg, hkey]
      exact (hcrewed.listed group).find? hname ho
    simp [World.act, step_caller ht hend hp hidle, callerTurn, hs, Flights.enter, hrow]
  · -- ends
    intro k t c e ht hp hg hs he
    subst hg
    exact (hcrewed.waiter k _ _ _ _ (hcrewed.waiter_of_task ht hp hs)).2 e he
  · -- told
    intro k t c outcome ht hend hp hg hs hf ho
    have hidle := (hcrewed.apt k t ht).idle (by rw [hp]; rfl)
    have hlt := (List.getElem?_eq_some_iff.mp ht).1
    subst hg
    simp only [World.act, step_caller ht hend hp hidle, callerTurn, hs, hf, ho]
    cases outcome <;> simp [ending?, hlt, Ending.ofShared]

/-! ### Runs -/

lemma crewed_run (plans : Plans) {acts : List Act} (ha : ∀ a ∈ acts, a.Proper) :
    ((start plans).run acts).Crewed ∧ ((start plans).run acts).Asked :=
  run_induction (P := fun w => w.Crewed ∧ w.Asked) ⟨crewed_start plans, asked_start plans⟩
    fun _ a hmem h => ⟨h.1.act (ha a hmem), h.2.act a⟩

/-- Who finds no flight for its key enters a new one. -/
lemma act_enter (hw : w.Crewed) (ht : w.tasks[i]? = some t) (hend : t.ending = none) {c : Caller}
    (hp : t.process = .caller c) (hs : c.stage = .entering work)
    (hfree : (w.flightsOf c.group).table.find? work.key = none) :
    w.act (.step i) =
      (w.setFlights c.group ((w.flightsOf c.group).enter work.key).2).setTask i { t with
        process := .caller { c with
          stage := .launching (w.flightsOf c.group).all.length work } } := by
  have hidle := (hw.apt i t ht).idle (by rw [hp]; rfl)
  simp [World.act, step_caller ht hend hp hidle, callerTurn, hs, Flights.enter, hfree]

/-- Nobody has anything to do with a flight before it is entered. -/
lemma Crewed.manned_enter (hw : w.Crewed) (ht : w.tasks[i]? = some t) (hend : t.ending = none)
    {c : Caller} (hp : t.process = .caller c) (hs : c.stage = .entering work)
    (hfree : (w.flightsOf c.group).table.find? work.key = none) :
    (w.act (.step i)).Manned c.group (w.flightsOf c.group).all.length work := by
  rw [act_enter hw ht hend hp hs hfree]
  have hd := hw.duty_of_caller ht hp
  have hnone : (w.flightsOf c.group).stage? (w.flightsOf c.group).all.length = none := by
    simp [Flights.stage?]
  refine ⟨⟨(w.flightsOf c.group).nextId, ?_⟩, fun k work' h => ?_, fun j x hx hduty => ?_⟩
  · change (((w.setFlights c.group _).flightsOf c.group).name? _) = _
    rw [setFlights_flightsOf, if_pos rfl, Flights.enter_eq_board,
      Flights.name?_board (by exact hfree), if_pos rfl]
  · rw [role?_set ht rfl] at h
    split at h
    · simp only [Task.role, hd, hend, Process.role, Caller.role] at h
      cases h
      rfl
    · rw [hw.launcher k _ _ work' h] at hnone
      cases hnone
  · rw [setTask_tasks, List.getElem?_set] at hx
    split at hx
    · split at hx
      · cases hx
        rw [hd] at hduty
        cases hduty
      · cases hx
    · rw [hw.crew j _ _ (Crewed.crew_of_task hx hduty)] at hnone
      cases hnone

/-- **Calls for one key collapse into one acquisition.** Take any run in which callers begin by
entering, whatever the store does and however the tasks interleave, and a caller that finds no
flight for its key and so enters one. From then on that flight is one run of the acquisition that
this caller brought along: `Collapsed` says who has put what to the store, who joins the flight,
and how those on it end. The caller is on the flight, and whoever waits for it stays on it. -/
theorem calls_collapse {plans : Plans} {before after : List Act} {i : Nat} {t : Task}
    {c : Caller} {work : Acquisition} (hbefore : ∀ a ∈ before, a.Proper)
    (hafter : ∀ a ∈ after, a.Proper) (ht : ((start plans).run before).tasks[i]? = some t)
    (hend : t.ending = none) (hp : t.process = .caller c) (hs : c.stage = .entering work)
    (hfree : (((start plans).run before).flightsOf c.group).table.find? work.key = none) :
    let n := (((start plans).run before).flightsOf c.group).all.length
    let w := (start plans).run (before ++ .step i :: after)
    (∃ key ttl timeout strategy, work = .start key ttl timeout strategy c.signal) ∧
    w.Collapsed c.group n work ∧
    (∃ t', w.tasks[i]? = some t' ∧
      (t'.process = .caller { c with stage := .launching n work } ∨
        t'.process = .caller { c with stage := .waiting n })) ∧
    ∀ first rest, after = first ++ rest → ∀ (k : Nat) (x : Task) (c' : Caller),
      ((start plans).run (before ++ .step i :: first)).tasks[k]? = some x →
      x.process = .caller c' → c'.stage = .waiting n →
      ∃ x', w.tasks[k]? = some x' ∧ x'.process = .caller c' := by
  intro n w
  obtain ⟨hcrewed, hasked⟩ := crewed_run plans hbefore
  have hlt := (List.getElem?_eq_some_iff.mp ht).1
  have hw : w = (((start plans).run before).act (.step i)).run after := run_append ..
  refine ⟨?_, ?_, ?_, ?_⟩
  · obtain ⟨group, key, ttl, timeout, strategy, signal, rfl⟩ :=
      (hcrewed.apt i t ht).begins c work hp hs
    cases hs
    exact ⟨key, ttl, timeout, strategy, rfl⟩
  · have hrun : w.Manned c.group n work ∧ w.Crewed ∧ w.Asked := by
      rw [hw]
      exact run_induction (P := fun v => v.Manned c.group n work ∧ v.Crewed ∧ v.Asked)
        ⟨hcrewed.manned_enter ht hend hp hs hfree, hcrewed.act (a := .step i) trivial,
          hasked.act _⟩
        fun v a hmem ⟨hm, hc, ha⟩ =>
          ⟨hm.act hc ha (hafter a hmem), hc.act (hafter a hmem), ha.act a⟩
    exact hrun.1.collapsed hrun.2.1 hrun.2.2
  · rw [hw]
    refine run_induction (P := fun v => ∃ t', v.tasks[i]? = some t' ∧
      (t'.process = .caller { c with stage := .launching n work } ∨
        t'.process = .caller { c with stage := .waiting n })) ?_ fun v a _ ⟨x, hx, hproc⟩ => ?_
    · rw [act_enter hcrewed ht hend hp hs hfree]
      exact ⟨_, List.getElem?_set_self hlt, .inl rfl⟩
    · obtain ⟨x', hx', hfollows⟩ := v.follows_act a hx
      refine ⟨x', hx', ?_⟩
      rcases hproc with hproc | hproc
      · exact hfollows.launching hproc rfl
      · exact .inr (hfollows.waiting hproc rfl)
  · rintro first rest rfl k x c' hx hproc hstage
    have hsplit : w = ((start plans).run (before ++ .step i :: first)).run rest := by
      rw [← run_append, List.append_assoc, List.cons_append]
    rw [hsplit]
    refine run_induction (P := fun v => ∃ x' : Task, v.tasks[k]? = some x' ∧
      x'.process = .caller c') ⟨x, hx, hproc⟩ fun v a _ ⟨y, hy, hyp⟩ => ?_
    obtain ⟨y', hy', hfollows⟩ := v.follows_act a hy
    exact ⟨y', hy', hfollows.waiting hyp hstage⟩

/-- The second caller comes before the launch and the third between two attempts. -/
theorem calls_collapse_thrice :
    let work : Acquisition := .start "k" (.ofSecs 9) (.ofSecs 1) (.ofList [.ofMillis 1] .stop) none
    let other : Acquisition := .start "k" (.ofSecs 5) (.ofSecs 2) .never none
    let plans : Plans := ⟨[⟨none, .answer false, none⟩], [], []⟩
    let before := [.spawn (.caller (.start "g" work)), .spawn (.caller (.start "g" other)),
      .spawn (.caller (.start "g" other))]
    let after := [.step 1, .step 0, .step 3, .step 3, .step 3, .step 2, .advance 1000000, .step 3,
      .step 3, .step 3, .step 3, .step 0, .step 1, .step 2]
    let w := (start plans).run (before ++ .step 0 :: after)
    w.Collapsed "g" 0 work ∧
    requestsOf 3 w.history =
      [.acquire "k" (.minted 1) (.ofSecs 9), .acquire "k" (.minted 2) (.ofSecs 9)] ∧
    ∀ i < 3, w.ending? i = some (.leased ⟨⟨"k", .minted 2, .ofSecs 9⟩, 0⟩) := by
  intro work other plans before after w
  have hbefore : ∀ a ∈ before, a.Proper := by
    have begins (work : Acquisition) (h : work = .start "k" work.ttl work.timeout work.strategy
        none) : (Caller.start "g" work).Begins := ⟨"g", "k", _, _, _, none, congrArg _ h⟩
    simp only [before, List.mem_cons, List.not_mem_nil, or_false]
    rintro a (rfl | rfl | rfl) <;> exact begins _ rfl
  have hafter : ∀ a ∈ after, a.Proper := by
    simp [after, Act.Proper]
  have h := @calls_collapse plans before after 0 _ _ work hbefore hafter rfl rfl rfl rfl
    (by decide)
  exact ⟨h.2.1, by decide, by decide⟩

end LeaseLock.World
