import Mathlib.Tactic.Common
import LeaseLock.Proofs.World.Boarding
import LeaseLock.Proofs.World.Supply
import LeaseLock.Proofs.World.Ticks

/-!
Whose signal cancels whom.

A flight is cancelled by the signal of the caller that started it, at the first step of its work
after the signal has fired. Until then others join the flight, also after the signal has fired;
whoever comes later has nothing to do with it.
-/

namespace LeaseLock

namespace World

variable {v w w' : World} {i j k n : Nat} {t t' : Task} {a : Act} {c : Caller}
  {work : Acquisition} {group : String} {s : Signal}

/-! ### How a task comes to be cancelled -/

lemma ended_run (ht : w.tasks[j]? = some t) {e : Ending} (hend : t.ending = some e)
    (acts : List Act) : (w.run acts).tasks[j]? = some t :=
  run_induction (P := fun v => v.tasks[j]? = some t) ht fun v a _ hv => v.ended_act a hv hend

/-- Whoever ends, and not because it is aborted, ends by its own turn. -/
lemma turned_of_ended {e : Ending} (he : e ≠ .aborted) (hnew : w.ending? i ≠ some e)
    (h : (w.act a).ending? i = some e) :
    a = .step i ∧ ∃ t, w.tasks[i]? = some t ∧ t.ending = none ∧ Turned w i t (w.act a) := by
  obtain ⟨t, t', ht, hend, ht', he', -⟩ := running_before hnew h
  have hlt := (List.getElem?_eq_some_iff.mp ht).1
  have running (h : t'.ending = none) : False := by
    rw [h] at he'
    cases he'
  by_cases hstep : a = .step i
  · subst hstep
    rcases w.act_step i with hs | ⟨x, hx, -, hm | htu⟩
    · rw [hs] at h
      exact absurd h hnew
    · cases ht.symm.trans hx
      obtain ⟨u, u', -, -, htasks, -⟩ := hm.passes
      rw [htasks, List.getElem?_set_self hlt] at ht'
      cases ht'
      exact (running hend).elim
    · cases ht.symm.trans hx
      exact ⟨rfl, t, ht, hend, htu⟩
  by_cases habort : a = .abort i
  · subst habort
    rcases w.act_abort i with hs | ⟨x, hx, -, hs⟩
    · rw [hs] at h
      exact absurd h hnew
    · rw [hs, finish_tasks, List.getElem?_set_self hlt] at ht'
      cases ht'
      cases he'
      exact absurd rfl he
  · cases ht'.symm.trans (other_act ht hstep habort)
    exact (running hend).elim

/-- How a turn can end a task with a failure. -/
lemma Turned.of_failed {e : LockError} (ht : w.tasks[i]? = some t) (hend : t.ending = none)
    (h : Turned w i t w') (he : w'.ending? i = some (.failed e)) :
    t.turn? w = some (.fin (.failed e)) ∨ t.process = .refused e ∨
      ∃ c n, t.process = .caller c ∧ c.stage = .waiting n ∧
        (w.hasFired c.signal = true ∨ (w.flightsOf c.group).outcome? n = some (.error e)) := by
  have hlt := (List.getElem?_eq_some_iff.mp ht).1
  have hfinish (v : World) (hv : v.tasks = w.tasks) {ending : Ending}
      (h : (v.finish i t ending).ending? i = some (.failed e)) : ending = .failed e := by
    simpa [ending?, hv, hlt] using h
  have running {v : World} {t' : Task} (h : v.ending? i = some (.failed e))
      (htasks : v.tasks = w.tasks.set i t') (ht' : t'.ending = none) : False := by
    simp [ending?, htasks, hlt, ht'] at h
  cases h with
  | failed e' turn =>
    cases hfinish w rfl he
    exact .inl turn
  | refused e' process =>
    cases hfinish w rfl he
    exact .inr (.inl process)
  | cancelled c n process stage hfired =>
    cases hfinish w rfl he
    exact .inr (.inr ⟨c, n, process, stage, .inl hfired⟩)
  | toldFailure c n e' process stage hfired outcome? =>
    cases hfinish w rfl he
    exact .inr (.inr ⟨c, n, process, stage, .inr outcome?⟩)
  | leased grant turn => cases hfinish w.newSignal.2 rfl he
  | done | broke | told => cases hfinish w rfl he
  | went | asked | joined | entered => exact (running he rfl hend).elim
  | fired p signal turn =>
    have htasks : ((w.fire signal).setTask i { t with process := p }).tasks =
        w.tasks.set i { t with process := p } := by simp
    exact (running he htasks hend).elim
  | launched c number work process stage =>
    simp [ending?, List.getElem?_append_left, hlt, hend] at he

/-- An acquisition is cancelled only when its signal has fired, if no request fails with this. -/
lemma fired_of_cancelled (hsupplied : w.Supplied (·.deed ≠ .fail .cancelled)) (hcandid : w.Candid)
    (ht : w.tasks[j]? = some t) (hp : t.process = .acquisition work)
    (turn : t.turn? w = some (.fin (.failed .cancelled))) : w.hasFired work.signal = true := by
  have hmem := List.mem_of_getElem? ht
  have hturn : work.turn (w.glimpse t work.signal) = .fin (.failed .cancelled) := by
    simp only [Task.turn?, hp, Option.some.injEq] at turn
    cases hown : work.turn (w.glimpse t work.signal) with
    | fin outcome => cases outcome <;> rw [hown] at turn <;> cases turn; rfl
    | _ => rw [hown] at turn; cases turn
  have htook := work.turn_took (w.glimpse t work.signal)
  rw [hturn] at htook
  cases htook with
  | cancelled fired => exact fired
  | fatal token deadline e fired stage fails retryable =>
    cases fails with
    | failed e response =>
      obtain ⟨u, hu, hr⟩ := Option.bind_eq_some_iff.mp response
      have hback : u.stage = .back (.failed .cancelled) := by
        unfold Underway.response? at hr
        split at hr
        · next response hs => rw [hs, Option.some.inj hr]
        · cases hr
      exact absurd (hcandid t hmem u hu .cancelled (.inr hback)) (hsupplied.underway t hmem u hu)

/-- An acquisition whose signal has fired does nothing but end. -/
lemma step_of_fired (ht : w.tasks[j]? = some t) (hend : t.ending = none)
    (hp : t.process = .acquisition work) (hf : w.hasFired work.signal = true) :
    w.step j = some (w.finish j t (.failed .cancelled)) := by
  simp [step, ht, hend, heedsSignalFirst, hp, hf, turn, Acquisition.turn, glimpse, perform]

/-- An acquisition whose signal has fired is cancelled by its next step. -/
lemma cancelled_of_fired (ht : w.tasks[j]? = some t) (hend : t.ending = none)
    (hp : t.process = .acquisition work) (hf : w.hasFired work.signal = true) :
    (w.act (.step j)).ending? j = some (.failed .cancelled) := by
  have hlt := (List.getElem?_eq_some_iff.mp ht).1
  simp [World.act, step_of_fired ht hend hp hf, ending?, hlt]

/-! ### Cancelled by the signal of another -/

/-- How a caller `c`, which is task `k`, comes to be cancelled by a signal that is not its own: task
`i` starts flight `n` under signal `s`, task `k` joins the flight, and task `j` is its work. The
acts are those before each of these steps. -/
structure Cancellation (v : World) (c : Caller) (n i j k : Nat) (s : Signal)
    (starting joining polling : List Act) : Prop where
  order : ∃ mid between, joining = starting ++ .step i :: mid ∧
    polling = joining ++ .step k :: between
  /-- The starter and the joiner call for the same key. -/
  starts : ∃ c₀ work work', (v.run starting).Starts i c₀ work n ∧ c₀.group = c.group ∧
    c₀.signal = some s ∧ (v.run joining).Joins k { c with stage := .entering work' } work' n ∧
    work'.key = work.key
  work : ∃ t, (v.run polling).tasks[j]? = some t ∧ t.duty = some ⟨c.group, n⟩
  /-- By this step the work is cancelled, after the signal has fired. -/
  polled : (v.run polling).ending? j = none ∧
    ((v.run polling).act (.step j)).ending? j = some (.failed .cancelled)
  fired : s ∈ (v.run polling).fired
  /-- At no earlier step of the work, before the caller joined or after, had it fired. -/
  unfired : ∀ earlier rest, polling = earlier ++ .step j :: rest →
    j < (v.run earlier).tasks.length → s ∉ (v.run earlier).fired

variable {plans : Plans} {acts : List Act}

/-- Whoever has ended in a run, and not because it was aborted, did so at its own turn. -/
lemma exists_last_turn {e : Ending} (he : e ≠ .aborted)
    (ht : ((start plans).run acts).tasks[j]? = some t) (hend : t.ending = some e) :
    ∃ before after t', acts = before ++ .step j :: after ∧
      ((start plans).run before).tasks[j]? = some t' ∧ t'.ending = none ∧
      Turned ((start plans).run before) j t' (((start plans).run before).act (.step j)) ∧
      (((start plans).run before).act (.step j)).tasks[j]? = some t := by
  have hfinal : ((start plans).run acts).ending? j = some e := by simp [ending?, ht, hend]
  obtain ⟨before, a, after, rfl, hnew, hended⟩ :=
    exists_turning (P := fun v => v.ending? j = some e) (by simp [ending?, start]) hfinal
  obtain ⟨rfl, t', ht', hrunning, hturned⟩ := turned_of_ended he hnew hended
  obtain ⟨x, hx, hxend⟩ := Option.bind_eq_some_iff.mp hended
  have hsame : ((start plans).run (before ++ .step j :: after)).tasks[j]? = some x := by
    rw [run_append, run_cons]
    exact ended_run hx hxend after
  cases ht.symm.trans hsame
  exact ⟨before, after, t', rfl, ht', hrunning, hturned, hx⟩

/-- A caller that is cancelled, and not by its own signal, has it from its flight. -/
lemma told_cancelled (hk : ((start plans).run acts).IsCaller k c)
    (hend : ((start plans).run acts).ending? k = some (.failed .cancelled))
    (hown : ((start plans).run acts).hasFired c.signal = false) :
    ∃ n before after, c.stage = .waiting n ∧ acts = before ++ .step k :: after ∧
      ((start plans).run before).IsCaller k c ∧
      (((start plans).run before).flightsOf c.group).outcome? n = some (.error .cancelled) := by
  obtain ⟨t, ht, hp⟩ := hk
  have hended : t.ending = some (.failed .cancelled) := by simpa [ending?, ht] using hend
  obtain ⟨before, after, t', rfl, ht', hrunning, hturned, hlast⟩ :=
    exists_last_turn Ending.noConfusion ht hended
  obtain ⟨x, hx, hfollows⟩ := ((start plans).run before).follows_act (.step k) ht'
  cases hlast.symm.trans hx
  have hcaller := hfollows.same_kind.1
  rw [hp] at hcaller
  rcases hturned.of_failed (e := .cancelled) ht' hrunning (by simp [ending?, hlast, hended]) with
    turn | hrefused | ⟨c', n, hp', hs, htold⟩
  · rw [(Task.took_of_turn? turn).not_caller] at hcaller
    cases hcaller
  · rw [hrefused] at hcaller
    cases hcaller
  · cases hp.symm.trans (hfollows.waiting hp' hs)
    refine ⟨n, before, after, hs, rfl, ⟨t', ht', hp'⟩, htold.resolve_left fun hfired => ?_⟩
    rw [run_append, hasFired_run hfired] at hown
    cases hown

/-- The work of a flight that has landed so was cancelled, or aborted. -/
lemma Crewed.cancelled (hw : w.Crewed)
    (ho : (w.flightsOf group).outcome? n = some (.error .cancelled)) :
    ∃ (j : Nat) (t : Task), w.tasks[j]? = some t ∧ t.duty = some ⟨group, n⟩ ∧
      (t.ending = some (.failed .cancelled) ∨ t.ending = some .aborted) := by
  obtain ⟨j, ending, hj⟩ := hw.manned group n _ (Flights.outcome?_eq_some.mp ho) (by simp)
  obtain ⟨t, ht, hr⟩ := Option.map_eq_some_iff.mp hj
  have hd := Task.duty_of_role hr
  refine ⟨j, t, ht, hd, ?_⟩
  have hstage := hw.crew j _ _ (Crewed.crew_of_task ht hd)
  rw [Flights.outcome?_eq_some.mp ho] at hstage
  cases he : t.ending with
  | none =>
    rw [he] at hstage
    cases hstage
  | some e =>
    rw [he] at hstage
    cases e <;> simp [Flight.Stage.ofEnding, outcomeOf, Caller.outcome, Caller.neverLaunched,
      LockError.ofBreakdown] at hstage ⊢
    exact hstage.symm

/-- The work of a flight that was cancelled has seen its signal fire at its last step. -/
lemma polled_cancelled (hplans : plans.All (·.deed ≠ .fail .cancelled))
    (hacts : ∀ a ∈ acts, a.Proper) (hsupplies : ∀ a ∈ acts, a.Supplies (·.deed ≠ .fail .cancelled))
    {duty : Duty} (ht : ((start plans).run acts).tasks[j]? = some t) (hd : t.duty = some duty)
    (hend : t.ending = some (.failed .cancelled)) :
    ∃ before after t' work, acts = before ++ .step j :: after ∧
      ((start plans).run before).tasks[j]? = some t' ∧ t'.duty = some duty ∧ t'.ending = none ∧
      t'.process = .acquisition work ∧
      ((start plans).run before).hasFired work.signal = true ∧
      (((start plans).run before).act (.step j)).tasks[j]? = some t := by
  obtain ⟨before, after, t', rfl, ht', hrunning, hturned, hlast⟩ :=
    exists_last_turn Ending.noConfusion ht hend
  have hw := (crewed_run plans fun a ha => hacts a (List.mem_append_left _ ha)).1
  have hduty : t'.duty = some duty := by
    obtain ⟨x, hx, -, -, hsame, -⟩ := stays_run ht' [.step j]
    cases hlast.symm.trans hx
    exact hsame.symm.trans hd
  obtain ⟨work, hp⟩ := (hw.apt j t' ht').crew duty hduty
  refine ⟨before, after, t', work, rfl, ht', hduty, hrunning, hp, ?_, hlast⟩
  rcases hturned.of_failed (e := .cancelled) ht' hrunning (by simp [ending?, hlast, hend]) with
    turn | hrefused | ⟨c, n, hcaller, -⟩
  · refine fired_of_cancelled ?_ (candid_run plans before) ht' hp turn
    exact Supplied.run (P := (·.deed ≠ .fail .cancelled)) (by decide) (supplied_start hplans)
      fun a ha => hsupplies a (List.mem_append_left _ ha)
  · cases hp.symm.trans hrefused
  · cases hp.symm.trans hcaller

/-- Whoever waits for a flight whose work listens to a signal of another has joined this flight. -/
lemma exists_joins (hacts : ∀ a ∈ acts, a.Proper) (hs : c.stage = .waiting n)
    (hk : ((start plans).run acts).IsCaller k c) (ht : ((start plans).run acts).tasks[j]? = some t)
    (hd : t.duty = some ⟨c.group, n⟩) {own : Acquisition} (hp : t.process = .acquisition own)
    (hother : c.signal ≠ own.signal) :
    ∃ starting mid between i c₀ work work',
      acts = starting ++ .step i :: mid ++ .step k :: between ∧
      ((start plans).run starting).Starts i c₀ work n ∧ c₀.group = c.group ∧
      c₀.signal = own.signal ∧ work'.key = work.key ∧
      ((start plans).run (starting ++ .step i :: mid)).Joins k
        { c with stage := .entering work' } work' n := by
  obtain ⟨joining, a, between, rfl, hnew, hwaits⟩ :=
    exists_turning (P := fun v => v.IsCaller k c) (fun ⟨t, ht, _⟩ => by cases ht) hk
  have hjoining : ∀ a ∈ joining, a.Proper := fun a ha => hacts a (List.mem_append_left _ ha)
  obtain ⟨hw, -⟩ := crewed_run plans hjoining
  obtain ⟨rfl, hboards⟩ := (waiting_act (hacts a (by simp)) hwaits hs).resolve_left hnew
  have launcher {x : Task} {work' : Acquisition}
      (hx : ((start plans).run joining).tasks[k]? = some x) (hend : x.ending = none)
      (hlaunching : x.process = .caller { c with stage := .launching n work' }) :
      ((start plans).run joining).role? k = some (.launcher c.group n work') := by
    rw [hw.role?_of_caller hx hend hlaunching]
    rfl
  have hflight : (((start plans).run joining).flightsOf c.group).stage? n ≠ none := by
    rcases hboards with ⟨work', hjoins⟩ | ⟨x, work', hx, hend, hlaunching⟩
    · exact Option.isSome_iff_ne_none.mp (hjoins.unlanded hw).1
    · rw [hw.launcher k c.group n work' (launcher hx hend hlaunching)]
      exact Option.some_ne_none _
  obtain ⟨starting, i, c₀, work, mid, rfl, hgroup, hstarter, hstarts, hmanned⟩ :=
    exists_starter hjoining hflight
  have hown : own.signal = work.signal := by
    have hthen := hmanned (.step k :: between) fun a ha => hacts a (List.mem_append_right _ ha)
    obtain ⟨a, ha, hruns, -⟩ := hthen.crew j t ht hd
    cases hp.symm.trans ha
    exact hruns.signal
  have hhere := hmanned [] fun a ha => by cases ha
  rw [List.append_nil] at hhere
  rcases hboards with ⟨work', hjoins⟩ | ⟨x, work', hx, hend, hlaunching⟩
  · obtain ⟨id, hrow⟩ := hjoins.row hw
    obtain ⟨hname, -⟩ := ((hw.listed c.group) work'.key ⟨id, n⟩).mp hrow
    obtain ⟨id', hname'⟩ := hhere.name
    have hkey := (Prod.mk.inj (Option.some.inj (hname.symm.trans hname'))).1
    exact ⟨starting, mid, between, i, c₀, work, work', rfl, hstarts, hgroup,
      hstarter.trans hown.symm, hkey, hjoins⟩
  · -- who launches the flight brings the work along, and with it its own signal
    have hsame := attuned_run plans hjoining k x _ hx hlaunching work' (.inr ⟨n, rfl⟩)
    obtain rfl := hhere.launcher k work' (launcher hx hend hlaunching)
    exact absurd (hsame.trans hown.symm) hother

/-- The work of a flight is not cancelled before it sees its signal fire, and then it is. -/
lemma unfired_before {before : List Act} (hacts : ∀ a ∈ before, a.Proper)
    (ht : ((start plans).run before).tasks[j]? = some t) (hend : t.ending = none)
    (hp : t.process = .acquisition work) (hs : work.signal = some s) {duty : Duty}
    (hd : t.duty = some duty) {earlier rest : List Act}
    (hsplit : before = earlier ++ .step j :: rest)
    (hj : j < ((start plans).run earlier).tasks.length) :
    s ∉ ((start plans).run earlier).fired := by
  intro hfired
  subst hsplit
  have hx := List.getElem?_eq_getElem hj
  generalize ((start plans).run earlier).tasks[j] = x at hx
  obtain ⟨t', ht', -, hsignal, hduty, hrunning⟩ := stays_run hx (.step j :: rest)
  rw [run_append] at ht
  cases ht.symm.trans ht'
  obtain ⟨own, hown⟩ := ((crewed_run plans fun a ha =>
    hacts a (List.mem_append_left _ ha)).1.apt j x hx).crew duty (hduty.symm.trans hd)
  have hcancelled := cancelled_of_fired hx (hrunning hend) hown (by
    rw [hp, hown] at hsignal
    rw [← show work.signal = own.signal from hsignal, hs]
    simpa [hasFired] using hfired)
  obtain ⟨y, hy, hyend⟩ := Option.bind_eq_some_iff.mp hcancelled
  obtain ⟨z, hz, -, -, -, hopen⟩ := stays_run hy rest
  cases ht.symm.trans hz
  rw [hopen hend] at hyend
  cases hyend

/-- **Nobody is cancelled by another's signal but that of whoever started the flight.** Take any run
in which callers begin by entering, no request fails by itself with what a cancelled call fails
with, and no flight's work is aborted, however the tasks interleave and whenever signals fire. If a
caller is cancelled and its own signal has not fired, then it has joined a flight that another
caller started, and `Cancellation` says how that came to be cancelled: at the last step of its work,
which comes after the caller has joined, the signal of the starter has fired, and at no step of the
work before that one. Whoever arrives later has nothing to do with the flight: it joins another one,
which has not landed, or starts one. -/
theorem cancelled_through_flight (hplans : plans.All (·.deed ≠ .fail .cancelled))
    (hacts : ∀ a ∈ acts, a.Proper) (hsupplies : ∀ a ∈ acts, a.Supplies (·.deed ≠ .fail .cancelled))
    (hcrew : ∀ t ∈ ((start plans).run acts).tasks, t.duty.isSome → t.ending ≠ some .aborted)
    (hk : ((start plans).run acts).IsCaller k c)
    (hend : ((start plans).run acts).ending? k = some (.failed .cancelled))
    (hown : ((start plans).run acts).hasFired c.signal = false) :
    ∃ n i j s starting joining polling after, c.stage = .waiting n ∧
      acts = polling ++ .step j :: after ∧
      (start plans).Cancellation c n i j k s starting joining polling ∧
      ∀ later : List Act, (∀ a ∈ later, a.Proper) →
        let v := (start plans).run (polling ++ .step j :: later)
        ∀ (l : Nat) (c' : Caller) (work : Acquisition), v.Arrives l c' work → c'.group = c.group →
          (∃ m, m ≠ n ∧ (v.flightsOf c.group).outcome? m = none ∧ v.Joins l c' work m) ∨
            ∃ m, v.Starts l c' work m := by
  -- going back from the end: the caller is told by its flight, the work of which is cancelled by a
  -- step, before which the caller has joined and the flight was started
  obtain ⟨n, told, rest, hs, rfl, hktold, ho⟩ := told_cancelled hk hend hown
  have htold : ∀ a ∈ told, a.Proper := fun a ha => hacts a (List.mem_append_left _ ha)
  obtain ⟨j, x, hx, hduty, hxend⟩ := (crewed_run plans htold).1.cancelled ho
  have hxend : x.ending = some (.failed .cancelled) := by
    refine hxend.resolve_right fun haborted => ?_
    have hsame := ended_run hx haborted (.step k :: rest)
    rw [← run_append] at hsame
    exact hcrew x (List.mem_of_getElem? hsame) (by rw [hduty]; rfl) haborted
  obtain ⟨polling, after, y, own, rfl, hy, hyduty, hyrunning, hyp, hfired, hlast⟩ :=
    polled_cancelled hplans htold (fun a ha => hsupplies a (List.mem_append_left _ ha)) hx hduty
      hxend
  obtain ⟨s, hsignal⟩ : ∃ s, own.signal = some s := by
    cases hsignal : own.signal with
    | none => rw [hsignal] at hfired; cases hfired
    | some s => exact ⟨s, rfl⟩
  rw [hsignal] at hfired
  have hother : c.signal ≠ own.signal := fun heq => by
    rw [heq, hsignal, run_append, run_append, hasFired_run (hasFired_run hfired)] at hown
    cases hown
  have hmem : s ∈ ((start plans).run polling).fired := by simpa [hasFired] using hfired
  have hrunning : ((start plans).run polling).ending? j = none := by simp [ending?, hy, hyrunning]
  have hcancelled : (((start plans).run polling).act (.step j)).ending? j =
      some (.failed .cancelled) := by simp [ending?, hlast, hxend]
  have hpolling : ∀ a ∈ polling, a.Proper := fun a ha => htold a (List.mem_append_left _ ha)
  have hw := (crewed_run plans hpolling).1
  -- from this step on nobody comes to the flight
  have hover : (((start plans).run polling).act (.step j)).Over j ⟨c.group, n⟩ :=
    ⟨x, hlast, hduty, by rw [hxend]; rfl⟩
  have hwaits : ((start plans).run polling).IsCaller k c := by
    rw [run_append, run_cons] at hktold
    exact Over.waiting_before hw hy hyduty hover hs
      (fun a ha => htold a (List.mem_append_right _ (List.mem_cons_of_mem _ ha))) hktold
  obtain ⟨starting, mid, between, i, c₀, work, work', rfl, hstarts, hgroup, hstarter, hkey,
    hjoins⟩ := exists_joins hpolling hs hwaits hy hyduty hyp hother
  refine ⟨n, i, j, s, starting, starting ++ .step i :: mid,
    starting ++ .step i :: mid ++ .step k :: between, after ++ .step k :: rest, hs,
    by rw [List.append_assoc _ (.step j :: after), List.cons_append], ?_, ?_⟩
  · exact { order := ⟨mid, between, rfl, rfl⟩
            starts := ⟨c₀, work, work', hstarts, hgroup, hstarter.trans hsignal, hjoins, hkey⟩
            work := ⟨y, hy, hyduty⟩
            polled := ⟨hrunning, hcancelled⟩
            fired := hmem
            unfired := fun earlier rest hsplit =>
              unfired_before hpolling hy hyrunning hyp hsignal hyduty hsplit }
  · intro later hlater v l c' work harrives hgroup'
    have hv : v = (((start plans).run _).act (.step j)).run later := run_append ..
    refine Over.arrives (j := j) ?_ ?_ harrives hgroup'
    · rw [hv]
      exact hover.run later
    · rw [hv]
      exact run_induction (hw.act (a := .step j) trivial) fun u a ha hu => hu.act (hlater a ha)

/-- The second caller joins after the signal of the first has fired, and is cancelled with it. -/
theorem cancelled_through_flight_late :
    let work : Acquisition := .start "k" (.ofSecs 9) (.ofSecs 1) .never (some 5)
    let other : Acquisition := .start "k" (.ofSecs 9) (.ofSecs 1) .never none
    let acts := [.spawn (.caller (.start "g" work)), .spawn (.caller (.start "g" other)),
      .step 0, .step 0, .fire 5, .step 1, .step 2, .step 1]
    let w := (start ⟨[], [], []⟩).run acts
    w.ending? 1 = some (.failed .cancelled) ∧
    ∃ i j s starting joining polling,
      (start ⟨[], [], []⟩).Cancellation ⟨"g", none, .waiting 0⟩ 0 i j 1 s
        starting joining polling := by
  intro work other acts w
  have hplans : (⟨[], [], []⟩ : Plans).All (·.deed ≠ .fail .cancelled) := by
    rintro plan (h | h | h) <;> cases h
  have hacts : ∀ a ∈ acts, a.Proper := by
    simp [acts, work, other, Act.Proper]
  have hsupplies : ∀ a ∈ acts, a.Supplies (·.deed ≠ .fail .cancelled) := by
    simp [acts, Act.Supplies]
  have hcrew : ∀ t ∈ w.tasks, t.duty.isSome → t.ending ≠ some .aborted := by decide
  have hended : w.ending? 1 = some (.failed .cancelled) := by decide
  have hcaller : w.IsCaller 1 ⟨"g", none, .waiting 0⟩ := by
    have hview : w.tasks[1]?.map (fun t => (t.process.awaited?, t.process.signal?)) =
        some (some ⟨"g", 0⟩, none) := by decide
    obtain ⟨t, ht, hview⟩ := Option.map_eq_some_iff.mp hview
    obtain ⟨hawaited, hsignal⟩ := Prod.mk.inj hview
    obtain ⟨⟨group, signal, stage⟩, hp, rfl, rfl⟩ := Process.awaited?_eq_some.mp hawaited
    rw [hp] at hsignal
    obtain rfl : signal = none := hsignal
    exact ⟨t, ht, hp⟩
  obtain ⟨n, i, j, s, starting, joining, polling, after, hs, -, h, -⟩ :=
    cancelled_through_flight hplans hacts hsupplies hcrew hcaller hended rfl
  cases hs
  exact ⟨hended, i, j, s, starting, joining, polling, h⟩

/-- A caller that joins before the work is polled is cancelled by a signal that has fired already;
and a caller that comes after the signal joins a flight that another has started since. -/
theorem signal_before_joining :
    let work : Acquisition := .start "k" (.ofSecs 9) (.ofSecs 1) .never (some 5)
    let other : Acquisition := .start "k" (.ofSecs 9) (.ofSecs 1) .never none
    let caller := Caller.start "g" other
    let before := [.spawn (.caller (.start "g" work)), .spawn (.caller caller),
      .step 0, .step 0, .fire 5]
    let later := before ++ [.step 1, .step 2, .step 1, .spawn (.caller caller),
      .spawn (.caller caller), .step 3]
    let w := (start ⟨[], [], []⟩).run before
    let v := (start ⟨[], [], []⟩).run later
    (5 ∈ w.fired ∧ w.Joins 1 caller other 0 ∧ v.ending? 1 = some (.failed .cancelled) ∧
      v.hasFired caller.signal = false) ∧
    5 ∈ v.fired ∧ v.Joins 4 caller other 1 ∧ ¬ ∃ n, v.Starts 4 caller other n := by
  intro work other caller before later w v
  have hproper : ∀ a ∈ later, a.Proper := by
    simp [later, before, caller, work, other, Act.Proper]
  have joins (acts : List Act) (k : Nat) (row : Flights.Row) (hacts : ∀ a ∈ acts, a.Proper)
      (h : ((start ⟨[], [], []⟩).run acts).Arrives k caller other)
      (hrow : (((start ⟨[], [], []⟩).run acts).flightsOf "g").table.find? "k" = some row) :
      ((start ⟨[], [], []⟩).run acts).Joins k caller other row.number := by
    rcases h.cases (crewed_run _ hacts).1 with ⟨row', hrow', hjoins⟩ | ⟨hfree, -⟩
    · cases hrow.symm.trans hrow'
      exact hjoins
    · cases hrow.symm.trans hfree
  have hfirst : w.Joins 1 caller other 0 := by
    refine joins before 1 ⟨0, 0⟩ (fun a ha => hproper a (List.mem_append_left _ ha)) ?_ (by decide)
    exact arrives_run _ [.spawn (.caller (.start "g" work))] [.step 0, .step 0, .fire 5] "g" other
      rfl (by simp) (by simp)
  have hsecond : v.Joins 4 caller other 1 := by
    refine joins later 4 ⟨2, 1⟩ hproper ?_ (by decide)
    have hsplit : later = (before ++ [.step 1, .step 2, .step 1, .spawn (.caller caller)]) ++
        .spawn (.caller caller) :: [.step 3] := rfl
    rw [hsplit]
    exact arrives_run _ _ _ "g" other (by decide) (by simp) (by simp)
  have hended : v.ending? 1 = some (.failed .cancelled) := by decide
  have hunfired : v.hasFired caller.signal = false := rfl
  have hearly : 5 ∈ w.fired := by decide
  have hlate : 5 ∈ v.fired := by decide
  refine ⟨⟨hearly, hfirst, hended, hunfired⟩, hlate, hsecond, ?_⟩
  rintro ⟨n, hstarts⟩
  cases hsecond.joins.unique hstarts.starts

end World
end LeaseLock
