import Mathlib.Tactic.Common
import LeaseLock.Proofs.World.Attempts
import LeaseLock.Proofs.World.Collapse

/-!
Who starts a flight, and who joins it.

A caller that arrives looks at the table once: it joins the flight for its key, which has not landed
then, or starts one. So a flight goes back to the step of the caller that started it, whose signal
its work listens to, and whoever else waits for it has joined it before it landed.
-/

namespace LeaseLock

/-- An acquisition listens to the same signal all along. -/
lemma Acquisition.Runs.signal {start a : Acquisition} {requests : List Request}
    (h : start.Runs requests a) : a.signal = start.signal := by
  induction h with
  | start => rfl
  | @went _ a b g before turn ih =>
    have htook := a.turn_took g
    rw [turn] at htook
    cases htook <;> exact ih
  | @asked _ a b r g before turn ih =>
    have htook := a.turn_took g
    rw [turn] at htook
    cases htook
    exact ih

namespace World

variable {w w' : World} {i j k n : Nat} {t : Task} {a : Act} {c : Caller} {work : Acquisition}
  {group : String}

/-! ### Who starts a flight, and who joins it -/

/-- Whether task `i` is a caller that is about to look for a flight. -/
structure Arrives (w : World) (i : Nat) (c : Caller) (work : Acquisition) : Prop where
  task : ∃ t, w.tasks[i]? = some t ∧ t.ending = none ∧ t.process = .caller c
  stage : c.stage = .entering work

/-- Whether task `i` is caller `c`, at this stage. -/
def IsCaller (w : World) (i : Nat) (c : Caller) : Prop :=
  ∃ t, w.tasks[i]? = some t ∧ t.process = .caller c

/-- Whether the caller that arrives finds no flight for its key, and starts flight `n` by its
step. -/
structure Starts (w : World) (i : Nat) (c : Caller) (work : Acquisition) (n : Nat) : Prop
    extends Arrives w i c work where
  starts : (w.act (.step i)).IsCaller i { c with stage := .launching n work }

/-- Whether the caller that arrives joins flight `n` by its step. -/
structure Joins (w : World) (i : Nat) (c : Caller) (work : Acquisition) (n : Nat) : Prop
    extends Arrives w i c work where
  joins : (w.act (.step i)).IsCaller i { c with stage := .waiting n }

/-- A caller that is new looks for a flight by its first step. -/
lemma arrives_run (w : World) (before after : List Act) (group : String) (work : Acquisition)
    (hk : (w.run before).tasks.length = k) (hstep : .step k ∉ after) (habort : .abort k ∉ after) :
    (w.run (before ++ .spawn (.caller (.start group work)) :: after)).Arrives k
      (.start group work) work := by
  rw [run_append, run_cons]
  subst hk
  exact ⟨⟨_, other_run List.getElem?_concat_length hstep habort, rfl, rfl⟩, rfl⟩

/-- Who arrives joins the flight of the table, or starts one. -/
lemma Arrives.cases (h : w.Arrives i c work) (hw : w.Crewed) :
    (∃ row, (w.flightsOf c.group).table.find? work.key = some row ∧
      w.Joins i c work row.number) ∨
    ((w.flightsOf c.group).table.find? work.key = none ∧
      w.Starts i c work (w.flightsOf c.group).all.length) := by
  obtain ⟨t, ht, hend, hp⟩ := h.task
  have hlt := (List.getElem?_eq_some_iff.mp ht).1
  have hidle := (hw.apt i t ht).idle (by rw [hp]; rfl)
  cases hrow : (w.flightsOf c.group).table.find? work.key with
  | some row =>
    refine .inl ⟨row, rfl, h,
      { t with process := .caller { c with stage := .waiting row.number } }, ?_, rfl⟩
    simp [World.act, step_caller ht hend hp hidle, callerTurn, h.stage, Flights.enter, hrow, hlt]
  | none =>
    refine .inr ⟨rfl, h, { t with
      process := .caller { c with
        stage := .launching (w.flightsOf c.group).all.length work } }, ?_, rfl⟩
    rw [act_enter hw ht hend hp h.stage hrow, setTask_tasks, setFlights_tasks,
      List.getElem?_set_self hlt]

lemma IsCaller.unique {c' : Caller} (h : w.IsCaller i c) (h' : w.IsCaller i c') : c = c' := by
  obtain ⟨t, ht, hp⟩ := h
  obtain ⟨t', ht', hp'⟩ := h'
  cases ht.symm.trans ht'
  cases hp.symm.trans hp'
  rfl

lemma Starts.free (h : w.Starts i c work n) (hw : w.Crewed) :
    (w.flightsOf c.group).table.find? work.key = none ∧ n = (w.flightsOf c.group).all.length := by
  rcases h.toArrives.cases hw with ⟨row, -, hjoins⟩ | ⟨hfree, hstarts⟩
  · cases h.starts.unique hjoins.joins
  · cases h.starts.unique hstarts.starts
    exact ⟨hfree, rfl⟩

lemma Joins.row (h : w.Joins i c work n) (hw : w.Crewed) :
    ∃ id, (w.flightsOf c.group).table.find? work.key = some ⟨id, n⟩ := by
  rcases h.toArrives.cases hw with ⟨row, hrow, hjoins⟩ | ⟨-, hstarts⟩
  · cases h.joins.unique hjoins.joins
    exact ⟨row.id, hrow⟩
  · cases h.joins.unique hstarts.starts

/-- Who joins a flight joins one that has not landed. -/
lemma Joins.unlanded (h : w.Joins i c work n) (hw : w.Crewed) :
    ((w.flightsOf c.group).stage? n).isSome ∧ (w.flightsOf c.group).outcome? n = none := by
  obtain ⟨id, hrow⟩ := h.row hw
  obtain ⟨hname, hopen⟩ := ((hw.listed c.group) work.key ⟨id, n⟩).mp hrow
  obtain ⟨flight, hflight, -⟩ := Option.map_eq_some_iff.mp hname
  exact ⟨by simp [Flights.stage?, hflight], hopen⟩

/-- No flight is new because a task ends. -/
lemma finish_stage? (h : (w.flightsOf group).stage? n = none) (i : Nat) (t : Task)
    (ending : Ending) : ((w.finish i t ending).flightsOf group).stage? n = none := by
  rw [finish_flightsOf]
  cases t.duty with
  | none => exact h
  | some duty =>
    rw [Option.elim_some]
    split
    · simp [Flights.stage?_land, h]
    · exact h

/-- A flight that is new with a turn is one that a caller enters. -/
lemma Turned.entering_of_new (h : Turned w i t w') (hnone : (w.flightsOf group).stage? n = none)
    (hnew : (w'.flightsOf group).stage? n ≠ none) :
    ∃ c work, t.process = .caller c ∧ c.stage = .entering work ∧ c.group = group ∧
      (w.flightsOf c.group).table.find? work.key = none ∧ n = (w.flightsOf c.group).all.length := by
  have others {g : String} {f : Flights Shared} (t' : Task)
      (hf : g = group → f.stage? n = none) :
      (((w.setFlights g f).setTask i t').flightsOf group).stage? n = none := by
    change ((w.setFlights g f).flightsOf group).stage? n = none
    rw [setFlights_flightsOf]
    split
    · next hg => exact hf hg.symm
    · exact hnone
  cases h with
  | went | asked => exact absurd hnone hnew
  | fired p signal turn => exact absurd ((w.fire_flightsOf signal group).symm ▸ hnone) hnew
  | leased grant turn => exact absurd (finish_stage? (w := w.newSignal.2) hnone i t _) hnew
  | done | failed | broke | refused | cancelled | told | toldFailure =>
    exact absurd (finish_stage? hnone i t _) hnew
  | joined c work row process stage row? =>
    refine absurd (others _ fun hg => ?_) hnew
    rw [Flights.stage?_enter, row?, if_neg (by simp), hg, hnone]
  | launched c number work process stage =>
    let t' : Task := { t with process := .caller { c with stage := .waiting number } }
    refine absurd (others t' fun hg => ?_) hnew
    simp [Flights.launch, Flights.stage?_setStage, hg, hnone]
  | entered c work process stage row? =>
    by_cases hg : c.group = group
    · refine ⟨c, work, process, stage, hg, row?, ?_⟩
      by_contra hn
      refine absurd (others _ fun _ => ?_) hnew
      rw [Flights.stage?_enter, if_neg (fun h => hn h.2), hg, hnone]
    · exact absurd (others _ fun h => absurd h hg) hnew

/-- A flight that is new with an act is started by it. -/
lemma starts_of_new (hw : w.Crewed) (h : (w.flightsOf group).stage? n = none)
    (h' : ((w.act a).flightsOf group).stage? n ≠ none) :
    ∃ i c work, a = .step i ∧ c.group = group ∧ w.Starts i c work n := by
  have same (hflights : (w.act a).flightsOf group = w.flightsOf group) : False :=
    h' (hflights ▸ h)
  cases a with
  | step i =>
    rcases w.act_step i with hs | ⟨t, ht, hend, hm | htu⟩
    · exact (same (by rw [hs])).elim
    · refine (same ?_).elim
      generalize w.act (.step i) = v at hm ⊢
      cases hm <;> rfl
    · obtain ⟨c, work, hp, hs, hg, hfree, hn⟩ := htu.entering_of_new h h'
      have harrives : w.Arrives i c work := ⟨⟨t, ht, hend, hp⟩, hs⟩
      rcases harrives.cases hw with ⟨row, hrow, -⟩ | ⟨-, hstarts⟩
      · cases hfree.symm.trans hrow
      · exact ⟨i, c, work, rfl, hg, hn ▸ hstarts⟩
  | abort i =>
    rcases w.act_abort i with hs | ⟨t, -, -, hs⟩
    · exact (same (by rw [hs])).elim
    · rw [hs] at h'
      exact absurd (finish_stage? h i t _) h'
  | fire s => exact (same (w.fire_flightsOf s group)).elim
  | intrude r =>
    refine (same ?_).elim
    simp only [World.act]
    split <;> rfl
  | advance | spawn | newSignal | expire | plan => exact (same rfl).elim

/-! ### Whose signal the work listens to -/

/-- A caller goes on from one stage to the next. -/
lemma Follows.of_caller (h : w.Follows t (.caller c)) : t.process = .caller c ∨
    ∃ c₀ number work, t.process = .caller c₀ ∧
      (c₀.stage = .entering work ∧
        (c = { c₀ with stage := .waiting number } ∨
          c = { c₀ with stage := .launching number work }) ∨
      c₀.stage = .launching number work ∧ c = { c₀ with stage := .waiting number }) := by
  generalize hp : Process.caller c = p at h
  cases h with
  | same => exact .inl rfl
  | next turn p turns next =>
    have hcaller := ((Task.took_of_turn? turns).kind next).2.1
    rw [← hp] at hcaller
    cases hcaller
  | joined c₀ work number process stage =>
    cases hp
    exact .inr ⟨c₀, number, work, process, .inl ⟨stage, .inl rfl⟩⟩
  | entered c₀ work number process stage =>
    cases hp
    exact .inr ⟨c₀, number, work, process, .inl ⟨stage, .inr rfl⟩⟩
  | launched c₀ work number process stage =>
    cases hp
    exact .inr ⟨c₀, number, work, process, .inr ⟨stage, rfl⟩⟩

/-- Whether a caller that has not launched its work yet listens to the signal of that. -/
def Attuned (w : World) : Prop :=
  ∀ (k : Nat) (t : Task) (c : Caller), w.tasks[k]? = some t → t.process = .caller c →
    ∀ work, c.stage = .entering work ∨ (∃ n, c.stage = .launching n work) →
      c.signal = work.signal

lemma Attuned.act (hw : w.Attuned) (ha : a.Proper) : (w.act a).Attuned := by
  intro k t' c' ht' hp' work hs
  rcases w.task_cases a ht' with ⟨t, ht, hfollows⟩ | rfl | ⟨b, hb⟩
  · rw [hp'] at hfollows
    rcases hfollows.of_caller with hp | ⟨c, number, work', hp, ⟨hstage, rfl | rfl⟩ | ⟨-, rfl⟩⟩
    · exact hw k t c' ht hp work hs
    · rcases hs with hs | ⟨n, hs⟩ <;> cases hs
    · rcases hs with hs | ⟨n, hs⟩ <;> cases hs
      exact hw k t c ht hp work (.inl hstage)
    · rcases hs with hs | ⟨n, hs⟩ <;> cases hs
  · rw [hp'] at ha
    obtain ⟨group, key, ttl, timeout, strategy, signal, rfl⟩ := ha
    rcases hs with hs | ⟨n, hs⟩ <;> cases hs
    rfl
  · rw [hp'] at hb
    cases hb

lemma attuned_run (plans : Plans) {acts : List Act} (hacts : ∀ a ∈ acts, a.Proper) :
    ((start plans).run acts).Attuned :=
  run_induction (P := Attuned) (fun k t c ht => by cases ht)
    fun _ a hmem hv => hv.act (hacts a hmem)

/-- A flight of a run was started in it, and its work listens to the signal of its starter. -/
lemma exists_starter {plans : Plans} {acts : List Act} (hacts : ∀ a ∈ acts, a.Proper)
    (h : (((start plans).run acts).flightsOf group).stage? n ≠ none) :
    ∃ before i c work after, acts = before ++ .step i :: after ∧ c.group = group ∧
      c.signal = work.signal ∧ ((start plans).run before).Starts i c work n ∧
      ∀ more : List Act, (∀ a ∈ more, a.Proper) →
        ((start plans).run (acts ++ more)).Manned group n work := by
  obtain ⟨before, a, after, rfl, hnone, hnew⟩ :=
    exists_turning (P := fun v => (v.flightsOf group).stage? n ≠ none)
      (by simp [start, flightsOf, Flights.stage?, Flights.empty]) h
  have hbefore : ∀ a ∈ before, a.Proper := fun a ha => hacts a (List.mem_append_left _ ha)
  obtain ⟨hw, hasked⟩ := crewed_run plans hbefore
  obtain ⟨i, c, work, rfl, rfl, hstarts⟩ := starts_of_new hw (by simpa using hnone) hnew
  obtain ⟨t, ht, hend, hp⟩ := hstarts.task
  obtain ⟨hfree, hn⟩ := hstarts.free hw
  refine ⟨before, i, c, work, after, rfl, rfl,
    attuned_run plans hbefore i t c ht hp work (.inl hstarts.stage), hstarts, fun more hmore => ?_⟩
  rw [List.append_assoc, List.cons_append, run_append, run_cons]
  refine (run_induction (P := fun v => v.Manned c.group n work ∧ v.Crewed ∧ v.Asked)
    ⟨hn ▸ hw.manned_enter ht hend hp hstarts.stage hfree, hw.act (a := .step i) trivial,
      hasked.act _⟩ fun v a hmem hv => ?_).1
  obtain ⟨hm, hc, ha⟩ := hv
  have hproper : a.Proper := by
    rcases List.mem_append.mp hmem with hmem | hmem
    · exact hacts a (by simp [hmem])
    · exact hmore a hmem
  exact ⟨hm.act hc ha hproper, hc.act hproper, ha.act a⟩

/-! ### Who joins before the flight lands -/

/-- Whoever waits for a flight did so before the act, or joins it, or launches it. -/
lemma waiting_act (ha : a.Proper) (h : (w.act a).IsCaller k c)
    (hs : c.stage = .waiting n) :
    w.IsCaller k c ∨ a = .step k ∧
      ((∃ work, w.Joins k { c with stage := .entering work } work n) ∨
        ∃ t work, w.tasks[k]? = some t ∧ t.ending = none ∧
          t.process = .caller { c with stage := .launching n work }) := by
  obtain ⟨t', ht', hp'⟩ := h
  rcases w.task_cases a ht' with ⟨t, ht, hfollows⟩ | rfl | ⟨b, hb⟩
  · by_cases hstep : a = .step k
    · subst hstep
      rcases w.act_step k with hsame | ⟨x, hx, hend, -⟩
      · exact .inl ⟨t', hsame ▸ ht', hp'⟩
      cases ht.symm.trans hx
      rw [hp'] at hfollows
      rcases hfollows.of_caller with
        hp | ⟨c₀, number, work, hp, ⟨hstage, rfl | rfl⟩ | ⟨hstage, rfl⟩⟩
      · exact .inl ⟨t, ht, hp⟩
      · cases hs
        exact .inr ⟨rfl, .inl ⟨work, ⟨⟨t, ht, hend, by rw [hp, ← hstage]⟩, rfl⟩, t', ht', hp'⟩⟩
      · cases hs
      · cases hs
        exact .inr ⟨rfl, .inr ⟨t, work, ht, hend, by rw [hp, ← hstage]⟩⟩
    · left
      by_cases habort : a = .abort k
      · subst habort
        rcases w.act_abort k with hsame | ⟨x, hx, -, hact⟩
        · exact ⟨t', hsame ▸ ht', hp'⟩
        · cases ht.symm.trans hx
          rw [hact, finish_tasks, List.getElem?_set_self (List.getElem?_eq_some_iff.mp ht).1] at ht'
          cases ht'
          exact ⟨t, ht, hp'⟩
      · cases ht'.symm.trans (other_act ht hstep habort)
        exact ⟨t', ht, hp'⟩
  · rw [hp'] at ha
    obtain ⟨group, key, ttl, timeout, strategy, signal, rfl⟩ := ha
    cases hs
  · rw [hp'] at hb
    cases hb

/-- Whether task `j` is the work of a flight, and is over. -/
def Over (w : World) (j : Nat) (duty : Duty) : Prop :=
  ∃ t, w.tasks[j]? = some t ∧ t.duty = some duty ∧ t.ending.isSome

lemma Over.act {duty : Duty} (h : w.Over j duty) (a : Act) : (w.act a).Over j duty := by
  obtain ⟨t, ht, hd, hend⟩ := h
  obtain ⟨e, he⟩ := Option.isSome_iff_exists.mp hend
  exact ⟨t, w.ended_act a ht he, hd, hend⟩

lemma Over.run {duty : Duty} (h : w.Over j duty) (acts : List Act) : (w.run acts).Over j duty :=
  run_induction (P := fun v => v.Over j duty) h fun _ a _ hv => hv.act a

/-- A flight has landed by the end of its work. -/
lemma Over.landed (h : w.Over j ⟨group, n⟩) (hw : w.Crewed) :
    (w.flightsOf group).outcome? n ≠ none := by
  obtain ⟨t, ht, hd, hend⟩ := h
  obtain ⟨e, he⟩ := Option.isSome_iff_exists.mp hend
  have hstage := hw.crew j _ _ (Crewed.crew_of_task ht hd)
  simp [Flights.outcome?, hstage, he, Flight.Stage.ofEnding]

lemma Joins.not_over (h : w.Joins k c work n) (hw : w.Crewed) : ¬ w.Over j ⟨c.group, n⟩ :=
  fun hover => hover.landed hw (h.unlanded hw).2

/-- Nobody comes to wait for a flight that has landed. -/
lemma Over.waiting (h : w.Over j ⟨c.group, n⟩) (hw : w.Crewed) (hs : c.stage = .waiting n)
    {acts : List Act} (hacts : ∀ a ∈ acts, a.Proper) (hk : (w.run acts).IsCaller k c) :
    w.IsCaller k c := by
  induction acts generalizing w with
  | nil => exact hk
  | cons a acts ih =>
    have ha := hacts a List.mem_cons_self
    have hnext := ih (h.act a) (hw.act ha) (fun b hb => hacts b (List.mem_cons_of_mem a hb)) hk
    rcases waiting_act ha hnext hs with hk | ⟨rfl, ⟨work, hjoins⟩ | ⟨t, work, ht, hend, hp⟩⟩
    · exact hk
    · exact absurd h (hjoins.not_over hw)
    · have hboarding := hw.launcher k c.group n work (by rw [hw.role?_of_caller ht hend hp]; rfl)
      exact absurd (by simp [Flights.outcome?, hboarding]) (h.landed hw)

/-- Whoever arrives after a flight has landed joins another one, which has not, or starts one. -/
lemma Over.arrives (h : w.Over j ⟨group, n⟩) (hw : w.Crewed) (harrives : w.Arrives i c work)
    (hg : c.group = group) :
    (∃ m, m ≠ n ∧ (w.flightsOf group).outcome? m = none ∧ w.Joins i c work m) ∨
      ∃ m, w.Starts i c work m := by
  subst hg
  rcases harrives.cases hw with ⟨row, -, hjoins⟩ | ⟨-, hstarts⟩
  · refine .inl ⟨row.number, fun hn => ?_, (hjoins.unlanded hw).2, hjoins⟩
    exact hjoins.not_over hw (hn ▸ h)
  · exact .inr ⟨_, hstarts⟩

/-- Whoever waits for a flight when its work is over has done so before the last step of this. -/
lemma Over.waiting_before (hw : w.Crewed) (ht : w.tasks[j]? = some t)
    (hd : t.duty = some ⟨c.group, n⟩) (hover : (w.act (.step j)).Over j ⟨c.group, n⟩)
    (hs : c.stage = .waiting n) {acts : List Act} (hacts : ∀ a ∈ acts, a.Proper)
    (hk : ((w.act (.step j)).run acts).IsCaller k c) : w.IsCaller k c := by
  have hnext := hover.waiting (hw.act (a := .step j) trivial) hs hacts hk
  refine (waiting_act (a := .step j) trivial hnext hs).resolve_right ?_
  rintro ⟨heq, hboards⟩
  -- the work of a flight is no caller
  obtain rfl : j = k := by cases heq; rfl
  obtain ⟨a, hp⟩ := (hw.apt j t ht).crew _ hd
  rcases hboards with ⟨work, hjoins⟩ | ⟨x, work, hx, -, hxp⟩
  · obtain ⟨x, hx, -, hxp⟩ := hjoins.task
    cases ht.symm.trans hx
    cases hp.symm.trans hxp
  · cases ht.symm.trans hx
    cases hp.symm.trans hxp

end World
end LeaseLock
