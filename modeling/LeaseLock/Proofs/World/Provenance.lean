import Mathlib.Tactic.Common
import LeaseLock.Proofs.World.Attempts
import LeaseLock.Proofs.World.Handed
import LeaseLock.Proofs.World.Roles
import LeaseLock.Proofs.World.Ticks

/-!
Every lease has one origin.

A lease comes into being at one step of one task, whose attempt the store has just granted. After
that it is only passed on, by way of a flight, to callers who get it as it is. So a lease has the
token of one attempt, and an attempt that came to nothing has no lease, whatever the store does.
-/

namespace LeaseLock.World

variable {v w w' : World} {i j : Nat} {t : Task} {a : Act} {lease : Lease} {token : Token}

/-- Whether a lease is in somebody's hands, or waits on a flight for those who will look for it. -/
def Extant (w : World) (lease : Lease) : Prop :=
  w.HandedOut lease ∨ ∃ group n, (w.flightsOf group).outcome? n = some (.ok lease)

/-! ### How leases come into being -/

namespace Extant

/-- What changes no flight, and ends no task with the lease. -/
lemma of_grown (h : w'.Extant lease) (hhistory : ∀ time i,
      .ended time i (.leased lease) ∈ w'.history → .ended time i (.leased lease) ∈ w.history)
    (hflights : ∀ group, w'.flightsOf group = w.flightsOf group) : w.Extant lease := by
  rcases h with ⟨time, i, hm⟩ | ⟨group, n, ho⟩
  · exact .inl ⟨time, i, hhistory time i hm⟩
  · exact .inr ⟨group, n, hflights group ▸ ho⟩

lemma of_noted (h : w'.Extant lease) {e : Event} (hhistory : w'.history = e :: w.history)
    (he : ∀ time i, e ≠ .ended time i (.leased lease))
    (hflights : ∀ group, w'.flightsOf group = w.flightsOf group) : w.Extant lease := by
  refine h.of_grown (fun time i hm => ?_) hflights
  rw [hhistory] at hm
  exact (List.mem_cons.mp hm).resolve_left fun heq => he time i heq.symm

lemma of_same (h : w'.Extant lease) (hhistory : w'.history = w.history)
    (hflights : ∀ group, w'.flightsOf group = w.flightsOf group) : w.Extant lease :=
  h.of_grown (fun _ _ hm => hhistory ▸ hm) hflights

/-- Flights of which none has an outcome that was not there before. -/
lemma of_setFlights {group : String} {f : Flights Shared} (h : (w.setFlights group f).Extant lease)
    (hf : ∀ n, f.outcome? n = some (.ok lease) →
      (w.flightsOf group).outcome? n = some (.ok lease)) : w.Extant lease := by
  rcases h with h | ⟨g, n, ho⟩
  · exact .inl h
  · rw [setFlights_flightsOf] at ho
    split at ho
    · exact .inr ⟨group, n, hf n ho⟩
    · exact .inr ⟨g, n, ho⟩

lemma of_fire {s : Signal} (h : (w.fire s).Extant lease) : w.Extant lease := by
  rcases w.fire_cases s with ⟨-, he⟩ | ⟨-, he⟩
  · rwa [he] at h
  · exact h.of_noted he (fun _ _ => Event.noConfusion) (w.fire_flightsOf s)

/-- A task that ends, and a flight that lands with it, bring out what the task ends with. -/
lemma of_finish {ending : Ending} (h : (w.finish i t ending).Extant lease) :
    w.Extant lease ∨ ending = .leased lease := by
  by_cases hl : ending = .leased lease
  · exact .inr hl
  left
  have hrecord (h : ((w.setTask i { t with underway := none, ending := some ending }).record
      (.ended w.now i ending)).Extant lease) : w.Extant lease :=
    h.of_noted rfl (fun _ _ heq => hl (by cases heq; rfl)) fun _ => rfl
  unfold World.finish at h
  split at h
  · refine hrecord (h.of_setFlights fun n ho => ?_)
    rcases Flights.outcome?_of_land ho with heq | ho
    · exact absurd (eq_leased_of_outcomeOf heq.symm) hl
    · exact ho
  · exact hrecord h

end Extant

lemma Moved.extant (h : Moved w i t w') (hl : w'.Extant lease) : w.Extant lease := by
  cases h with
  | served u yes m underway stage deed serve =>
    exact hl.of_noted (e := .served w.now i u.request yes) rfl (fun _ _ => Event.noConfusion)
      fun _ => rfl
  | arrived | overflowed | answered | failed | broke | returned =>
    exact hl.of_same rfl fun _ => rfl

/-- What it takes for task `i` to make a lease at its next step: it has put a request for just this
to the store at `time`, from which it counts the deadline, the store has said yes, and the task has
not seen its signal fire. -/
structure Origin (w : World) (i : Nat) (lease : Lease) (t : Task) (u : Underway) (time : Nat) :
    Prop where
  task : w.tasks[i]? = some t
  running : t.ending = none
  granted : w.Granted t u lease.toGrant
  asked : .asked time i u.request ∈ w.history
  counts : t.process.CountsFrom time
  stop : lease.stop = w.signals
  source : (w.act (.step i)).Source i lease

/-- A turn that ends with a grant makes a lease of it. -/
lemma Attempting.origin (hw : w.Attempting) (ht : w.tasks[i]? = some t) (hend : t.ending = none)
    {grant : Grant}
    (turn : t.turn? w = some (.fin (.ok (some grant))))
    (hact : w.act (.step i) = w.newSignal.2.finish i t (.leased { grant with stop := w.signals })) :
    ∃ u time, w.Origin i { grant with stop := w.signals } t u time := by
  obtain ⟨u, hu⟩ := hw.granted ht turn
  obtain ⟨time, hm, hcounts⟩ := hw.asked i t u ht hu.underway
  have htask : (w.act (.step i)).tasks[i]? = some { t with
      underway := none, ending := some (.leased { grant with stop := w.signals }) } := by
    rw [hact, finish_tasks]
    exact List.getElem?_set_self (List.getElem?_eq_some_iff.mp ht).1
  exact ⟨u, time, ht, hend, hu, hm, hcounts, rfl, _, htask,
    (Task.took_of_turn? turn).not_caller, rfl⟩

lemma Turned.extant (hw : w.Attempting) (ht : w.tasks[i]? = some t) (hend : t.ending = none)
    (h : Turned w i t w') (hact : w.act (.step i) = w') (hl : w'.Extant lease) :
    w.Extant lease ∨ ∃ u time, w.Origin i lease t u time := by
  have set {v : World} {x : Task} (h : (v.setTask i x).Extant lease) : v.Extant lease :=
    h.of_same rfl fun _ => rfl
  cases h with
  | went p turn => exact .inl (set hl)
  | fired p signal turn => exact .inl (set hl).of_fire
  | asked p r turn =>
    exact .inl (hl.of_noted (ask_history ..) (fun _ _ => Event.noConfusion) fun _ => rfl)
  | leased grant turn =>
    refine hl.of_finish.imp (fun h => h.of_same rfl fun _ => rfl) fun heq => ?_
    cases heq
    exact hw.origin ht hend turn hact
  | told c number lease' process stage hfired outcome? =>
    refine .inl (hl.of_finish.elim id fun heq => ?_)
    cases heq
    exact .inr ⟨c.group, number, outcome?⟩
  | done | failed | broke | refused | cancelled | toldFailure =>
    exact .inl (hl.of_finish.resolve_right fun heq => by cases heq)
  | joined c work row process stage row? | entered c work process stage row? =>
    exact .inl ((set hl).of_setFlights fun n => Flights.outcome?_of_enter)
  | launched c number work process stage =>
    have hset : ((w.setFlights c.group ((w.flightsOf c.group).launch number)).setTask i
        { t with process := .caller { c with stage := .waiting number } }).Extant lease :=
      hl.of_same rfl fun _ => rfl
    exact .inl ((set hset).of_setFlights fun n => Flights.outcome?_of_launch)

/-- **A lease is older than the act, or comes into being by the turn of a task.** -/
theorem extant_act (hw : w.Attempting) (h : (w.act a).Extant lease) : w.Extant lease ∨
    ∃ i t u time, a = .step i ∧ w.Origin i lease t u time := by
  cases a with
  | step i =>
    rcases w.act_step i with hs | ⟨t, ht, hend, hm | htu⟩
    · exact .inl (hs ▸ h)
    · exact .inl (hm.extant h)
    · exact (htu.extant hw ht hend rfl h).imp_right fun ⟨u, time, ho⟩ => ⟨i, t, u, time, rfl, ho⟩
  | abort i =>
    left
    rcases w.act_abort i with hs | ⟨t, -, -, hs⟩
    · exact hs ▸ h
    · exact (hs ▸ h).of_finish.resolve_right fun heq => by cases heq
  | fire s => exact .inl h.of_fire
  | expire key =>
    exact .inl (h.of_noted (e := .expired w.now key) rfl (fun _ _ => Event.noConfusion)
      fun _ => rfl)
  | intrude r =>
    left
    simp only [World.act] at h
    split at h
    · next yes m _ =>
      exact h.of_noted (e := .intruded w.now r yes) rfl (fun _ _ => Event.noConfusion)
        fun _ => rfl
    · exact h.of_same rfl fun _ => rfl
  | advance | spawn | newSignal | plan => exact .inl (h.of_same rfl fun _ => rfl)

lemma not_extant_start (plans : Plans) : ¬ (start plans).Extant lease := by
  rintro (⟨time, i, h⟩ | ⟨group, n, h⟩) <;> cases h

/-! ### Sources -/

/-- Every lease has a source, and a source has asked for what its lease grants. -/
structure Sourced (w : World) : Prop where
  source : ∀ lease, w.Extant lease → ∃ i, w.Source i lease
  asked : ∀ i lease, w.Source i lease →
    ∃ time, .asked time i (.acquire lease.key lease.token lease.ttl) ∈ w.history

lemma sourced_start (plans : Plans) : (start plans).Sourced where
  source lease h := absurd h (not_extant_start plans)
  asked i lease := by rintro ⟨t, h, -⟩; cases h

lemma Sourced.act (h : w.Sourced) (hw : w.Attempting) (a : Act) : (w.act a).Sourced where
  source lease hl := by
    rcases extant_act hw hl with hl | ⟨i, t, u, time, rfl, ho⟩
    · obtain ⟨i, hi⟩ := h.source lease hl
      exact ⟨i, hi.act a⟩
    · exact ⟨i, ho.source⟩
  asked i lease hi := by
    rcases source_act hi with hi | ⟨t, grant, ht, turn, rfl⟩
    · obtain ⟨time, hm⟩ := h.asked i lease hi
      exact ⟨time, w.mem_history_act a hm⟩
    · obtain ⟨u, hu⟩ := hw.granted ht turn
      obtain ⟨time, hm, -⟩ := hw.asked i t u ht hu.underway
      exact ⟨time, w.mem_history_act a (hu.request ▸ hm)⟩

lemma sourced_run (plans : Plans) (acts : List Act) :
    ((start plans).run acts).Sourced ∧ ((start plans).run acts).Attempting :=
  run_induction (P := fun v => v.Sourced ∧ v.Attempting)
    ⟨sourced_start plans, attempting_start plans⟩ fun _ a _ ⟨hs, hv⟩ => ⟨hs.act hv a, hv.act a⟩

/-- Leases with one token have one source, and so are one. -/
lemma Sourced.alone (h : w.Sourced) (hw : w.Attempting) {lease' : Lease}
    (hi : w.Source i lease) (hj : w.Source j lease') (htoken : lease.token = lease'.token) :
    i = j ∧ lease = lease' := by
  obtain ⟨time, hm⟩ := h.asked i lease hi
  obtain ⟨time', hm'⟩ := h.asked j lease' hj
  have heq := eq_of_presents hw.nodup hm hm' rfl (congrArg some htoken.symm)
  obtain rfl : i = j := (Event.asked.inj heq).2.1
  exact ⟨rfl, hi.unique hj⟩

/-- No lease has the token of an attempt that came to nothing. -/
lemma Sourced.unspent (h : w.Sourced) (hw : w.Attempting) (hl : w.Extant lease)
    (hs : w.Spent i token) : lease.token ≠ token := by
  rintro rfl
  obtain ⟨j, hj⟩ := h.source lease hl
  obtain ⟨time, hm⟩ := h.asked j lease hj
  obtain ⟨time', r, hm', hr⟩ := hs.asked
  have heq := eq_of_presents hw.nodup hm hm' rfl hr
  obtain rfl : j = i := (Event.asked.inj heq).2.1
  exact hs.unleased lease hj rfl

/-! ### Deadlines and signals -/

/-- No attempt of task `i` has gone on beyond its deadline. -/
def Unhurried (w : World) (i : Nat) : Prop :=
  ∀ (t : Task) (u : Underway) (x : Acquisition) (token : Token) (deadline : Nat),
    w.tasks[i]? = some t → t.ending = none → t.underway = some u → t.process = .acquisition x →
    x.stage = .asking token deadline → w.now ≤ deadline

lemma Unhurried.act (h : w.Unhurried i) (hw : w.Attempting) (ha : w.Heeds i a) :
    (w.act a).Unhurried i := by
  intro t' u' x token deadline ht' hend' hu' hp hs
  by_cases hadvance : ∃ d, a = .advance d
  · -- the clock stops at the deadline, for which the task waits
    obtain ⟨d, rfl⟩ := hadvance
    refine ha.2 t' ht' deadline ?_
    simp [wakes, hend', hp, Acquisition.wake?, hs]
  · rw [w.act_now fun d hd => hadvance ⟨d, hd⟩]
    rcases hw.underway_act ht' hu' with ⟨t, u, ht, hu, hprocess, -⟩ | ⟨t, ht, turn, -⟩
    · exact h t u x token deadline ht (running_of_act ht ht' hend') hu (hprocess ▸ hp) hs
    · have hcounts := (Task.took_of_turn? turn).countsFrom
      rw [hp] at hcounts
      rw [hcounts token deadline hs]
      exact Instant.le_timer _ _

lemma Unhurried.run (h : w.Unhurried i) (hw : w.Attempting) {acts : List Act}
    (ha : w.Heeded i acts) : (w.run acts).Unhurried i := by
  induction acts generalizing w with
  | nil => exact h
  | cons a acts ih => exact ih (h.act hw ha.1) (hw.act a) ha.2

/-- A task that is not kept waiting makes a lease before the deadline of its attempt is over. -/
lemma Origin.inTime {plans : Plans} {before : List Act} {u : Underway} {time : Nat}
    (ho : ((start plans).run before).Origin i lease t u time)
    (hheeded : (start plans).Heeded i before) {x : Acquisition}
    (hp : t.process = .acquisition x) :
    ((start plans).run before).now ≤ Instant.timer time x.timeout := by
  have hstart : (start plans).Unhurried i := fun t u x token deadline ht => by cases ht
  have hawaits := (attempting_run plans before).awaits i t u ho.task ho.granted.underway
  have hcounts := ho.counts
  rw [hp] at hawaits hcounts
  obtain ⟨token, deadline, hs, -⟩ := hawaits
  rw [← hcounts token deadline hs]
  exact hstart.run (attempting_start plans) hheeded t u x token deadline ho.task ho.running
    ho.granted.underway hp hs

/-- Whoever ends with a lease has not seen its signal fire. -/
lemma Attempting.unfired (hw : w.Attempting) (h : w.ending? i ≠ some (.leased lease))
    (h' : (w.act a).ending? i = some (.leased lease)) :
    ∃ t, a = .step i ∧ w.tasks[i]? = some t ∧ w.hasFired t.process.signal? = false := by
  obtain ⟨t, t', ht, hend, ht', he', hchanges⟩ := running_before h h'
  cases hchanges with
  | leased grant act turn =>
    obtain ⟨u, hu⟩ := hw.granted ht turn
    exact ⟨t, act, ht, hu.unfired⟩
  | told c lease' act process unfired => exact ⟨t, act, ht, by rw [process]; exact unfired⟩
  | ended e he =>
    cases he'
    exact absurd rfl (he lease)
  | same | moved | went | fired | asked | called =>
    rw [hend] at he'
    cases he'

/-- **Every lease has one origin.** Take any run, whatever the store answers, however late, or
whether it answers at all, and whoever is dropped in it. No token is presented as a new one twice.
Every lease that is in somebody's hands or waits on a flight goes back to one step of one task,
`Origin`: the task had asked for the key with just this token and ttl, the store had said yes, the
deadline of the attempt was not over unless the task was kept waiting, and its signal had not fired.
An attempt that its task loses without ending with a lease, be it refused, failed, late, cancelled
or dropped, never has one. Leases with one token are one lease, with one stop signal. And whoever
ends with a lease, also one that comes by way of a flight, had not seen its own signal fire. -/
theorem lease_provenance (plans : Plans) (acts : List Act) :
    let w := (start plans).run acts
    (presented w.history).Nodup ∧
    (∀ lease, w.Extant lease → ∃ before i after t u time, acts = before ++ .step i :: after ∧
      ((start plans).run before).Origin i lease t u time ∧
      (∀ x, t.process = .acquisition x → (start plans).Heeded i before →
        ((start plans).run before).now ≤ Instant.timer time x.timeout) ∧
      ∀ j, w.Source j lease ↔ j = i) ∧
    (∀ before a after i token, acts = before ++ a :: after →
      ((start plans).run before).presenting? i = some token →
      ((start plans).run (before ++ [a])).presenting? i ≠ some token →
      (∀ lease, ((start plans).run (before ++ [a])).ending? i ≠ some (.leased lease)) →
      ∀ lease, w.Extant lease → lease.token ≠ token) ∧
    (∀ lease lease', w.Extant lease → w.Extant lease' → lease.token = lease'.token →
      lease = lease') ∧
    ∀ i lease, w.ending? i = some (.leased lease) → ∃ before after t,
      acts = before ++ .step i :: after ∧ ((start plans).run before).tasks[i]? = some t ∧
      ((start plans).run before).hasFired t.process.signal? = false := by
  intro w
  obtain ⟨hsourced, hw⟩ := sourced_run plans acts
  refine ⟨hw.nodup, fun lease hl => ?_, ?_, fun lease lease' hl hl' htoken => ?_,
    fun i lease hend => ?_⟩
  · obtain ⟨before, a, after, rfl, hnew, hborn⟩ :=
      exists_turning (P := fun v => v.Extant lease) (not_extant_start plans) hl
    have hbefore := attempting_run plans before
    obtain hl | ⟨i, t, u, time, rfl, ho⟩ := extant_act hbefore hborn
    · exact absurd hl hnew
    have hsource : w.Source i lease := by
      have hrun : w = (((start plans).run before).act (.step i)).run after := run_append ..
      rw [hrun]
      exact run_induction (P := fun v => v.Source i lease) ho.source fun _ a _ h => h.act a
    refine ⟨before, i, after, t, u, time, rfl, ho, fun x hp hh => ho.inTime hh hp, fun j => ?_⟩
    exact ⟨fun hj => (hsourced.alone hw hj hsource rfl).1, fun hj => hj ▸ hsource⟩
  · rintro before a after i token rfl hpresents hover hend lease hl
    obtain ⟨t, u, ht, hu, hr⟩ := presenting?_eq_some.mp hpresents
    obtain ⟨time, hm, -⟩ := (attempting_run plans before).asked i t u ht hu
    have hact : (start plans).run (before ++ [a]) = ((start plans).run before).act a :=
      run_append ..
    have hspent : ((start plans).run (before ++ [a])).Spent i token := by
      refine ⟨⟨time, u.request, ?_, hr⟩, hover, fun lease' hs => ?_⟩
      · rw [hact]
        exact mem_history_act _ a hm
      · obtain ⟨x, hx, -, he⟩ := hs
        exact absurd (by simp [ending?, hx, he]) (hend lease')
    have hlast := hspent.run (attempting_run plans (before ++ [a])) after
    rw [← run_append, List.append_assoc, List.singleton_append] at hlast
    exact hsourced.unspent hw hl hlast
  · obtain ⟨i, hi⟩ := hsourced.source lease hl
    obtain ⟨j, hj⟩ := hsourced.source lease' hl'
    exact (hsourced.alone hw hi hj htoken).2
  · obtain ⟨before, a, after, rfl, hnew, hended⟩ :=
      exists_turning (P := fun v => v.ending? i = some (.leased lease)) (by simp [ending?, start])
        hend
    obtain ⟨t, rfl, ht, hf⟩ := (attempting_run plans before).unfired hnew hended
    exact ⟨before, after, t, rfl, ht, hf⟩

/-- The first attempt is refused, the second granted: both the acquisition and its caller end with
the lease of the second, and none has the token of the first. -/
theorem lease_provenance_second_attempt :
    let work : Acquisition := .start "k" (.ofSecs 9) (.ofSecs 1) (.ofList [.ofMillis 1] .stop) none
    let plans : Plans := ⟨[⟨none, .answer false, none⟩], [], []⟩
    let before := [.spawn (.caller (.start "g" work)), .step 0, .step 0, .step 1, .step 1]
    let after := [.advance 1000000, .step 1, .step 1, .step 1, .step 1, .step 0]
    let w := (start plans).run (before ++ .step 1 :: after)
    let lease : Lease := ⟨⟨"k", .minted 2, .ofSecs 9⟩, 0⟩
    w.ending? 0 = some (.leased lease) ∧ (∀ j, w.Source j lease ↔ j = 1) ∧
      ∀ lease', w.Extant lease' → lease'.token ≠ .minted 1 := by
  intro work plans before after w lease
  obtain ⟨-, horigin, hspent, -⟩ := lease_provenance plans (before ++ .step 1 :: after)
  have hcaller : w.ending? 0 = some (.leased lease) := by decide
  have hsource : w.Source 1 lease := by
    have hended : w.tasks[1]?.map (fun t => (t.process.isCaller, t.ending)) =
        some (false, some (.leased lease)) := by decide
    obtain ⟨t, ht, h⟩ := Option.map_eq_some_iff.mp hended
    exact ⟨t, ht, congrArg Prod.fst h, congrArg Prod.snd h⟩
  obtain ⟨-, i, -, -, -, -, -, -, -, hi⟩ := horigin lease (.inl ⟨1000000, 0, by decide⟩)
  obtain rfl := (hi 1).mp hsource
  refine ⟨hcaller, hi, hspent before (.step 1) after 1 (.minted 1) rfl (by decide) (by decide) ?_⟩
  have hrunning : ((start plans).run (before ++ [.step 1])).ending? 1 = none := by decide
  intro lease' h
  cases hrunning.symm.trans h

end LeaseLock.World
