import Mathlib.Tactic.Common
import LeaseLock.Proofs.World.Attempts
import LeaseLock.Proofs.World.Collapse

/-!
Whoever leaves a shared call disturbs nobody.

`LooksLike` compares two worlds as those see them who stay: it leaves out how and when those who
leave have ended, and that their signal has fired. Whatever is done to two worlds that look alike,
they look alike after it, and so do two runs that part when somebody leaves.
-/

namespace LeaseLock

/-- Whether a call waits for a flight. -/
def Process.waits (p : Process) : Bool := p.awaited?.isSome

lemma Process.waits_iff {p : Process} :
    p.waits = true ↔ ∃ c n, p = .caller c ∧ c.stage = .waiting n := by
  simp only [waits, Option.isSome_iff_exists, awaited?_eq_some]
  constructor
  · rintro ⟨duty, c, hp, -, hs⟩
    exact ⟨c, duty.number, hp, hs⟩
  · rintro ⟨c, n, hp, hs⟩
    exact ⟨⟨c.group, n⟩, c, hp, rfl, hs⟩

/-- What the event says of a request that is put to the store: when, by which task, and which. -/
def Event.call? : Event → Option (Nat × Nat × Request)
  | .asked time i r => some (time, i, r)
  | _ => none

/-- What tasks have put to the store and when, the latest first. -/
def calls (history : List Event) : List (Nat × Nat × Request) := history.filterMap (·.call?)

/-- Those who leave a flight for which they wait, by their numbers, and the signal, if they leave by
one. -/
structure Leavers where
  gone : Nat → Bool
  signal : Option Signal

namespace Leavers

variable (l : Leavers)

/-- Whether the event is the end of one who leaves, or the firing of the signal. -/
def hides : Event → Bool
  | .ended _ k _ => l.gone k
  | .fired _ s => l.signal = some s
  | .asked .. | .served .. | .intruded .. | .expired .. => false

/-- A task as if it still waited, if it is one that leaves. -/
def blur (k : Nat) (t : Task) : Task :=
  if l.gone k && t.process.waits then { t with ending := none } else t

variable {l} {k : Nat} {t : Task}

lemma blur_of_stays (h : (l.gone k && t.process.waits) = false) : l.blur k t = t := by
  simp [blur, h]

@[simp] lemma blur_process : (l.blur k t).process = t.process := by
  unfold blur
  split <;> rfl

/-- What is hidden is no request. -/
lemma calls_filter (l : Leavers) (history : List Event) :
    calls (history.filter (!l.hides ·)) = calls history := by
  unfold calls
  rw [List.filterMap_filter]
  refine congrArg (List.filterMap · history) (funext fun e => ?_)
  cases e <;> simp [Event.call?, hides]

end Leavers

namespace World

variable {l : Leavers} {v w : World} {i : Nat} {t : Task} {a : Act} {s : Signal}

/-- Whether two worlds look the same to those who stay. -/
structure LooksLike (l : Leavers) (w v : World) : Prop where
  now : w.now = v.now
  memory : w.memory = v.memory
  plans : w.plans = v.plans
  minted : w.minted = v.minted
  signals : w.signals = v.signals
  flights : w.flights = v.flights
  fired : w.fired.filter (l.signal ≠ some ·) = v.fired.filter (l.signal ≠ some ·)
  tasks : w.tasks.mapIdx l.blur = v.tasks.mapIdx l.blur
  history : w.history.filter (!l.hides ·) = v.history.filter (!l.hides ·)

/-! ### The same change to both worlds -/

namespace LooksLike

variable (h : LooksLike l w v)
include h

lemma flightsOf (group : String) : w.flightsOf group = v.flightsOf group := by
  rw [World.flightsOf, World.flightsOf, h.flights]

lemma length : w.tasks.length = v.tasks.length := by
  simpa using congrArg List.length h.tasks

lemma setTask (i : Nat) {t t' : Task} (ht : t = t') :
    LooksLike l (w.setTask i t) (v.setTask i t') :=
  { h with tasks := by simp only [World.setTask, List.mapIdx_set, h.tasks, ht] }

lemma record {e e' : Event} (he : e = e') : LooksLike l (w.record e) (v.record e') :=
  { h with history := by simp only [World.record, List.filter_cons, h.history, he] }

lemma setFlights (group : String) {f f' : Flights Shared} (hf : f = f') :
    LooksLike l (w.setFlights group f) (v.setFlights group f') :=
  { h with flights := by simp only [World.setFlights, h.flights, hf] }

lemma newSignal : LooksLike l w.newSignal.2 v.newSignal.2 :=
  { h with signals := by simp only [World.newSignal, h.signals] }

lemma spawn (p : Process) (duty : Option Duty) :
    LooksLike l (w.spawn p duty).2 (v.spawn p duty).2 :=
  { h with tasks := by simp only [World.spawn, List.mapIdx_concat, h.tasks, h.length] }

/-- Those who stay know of the same signals that they have fired. -/
lemma mem_fired (hs : l.signal ≠ some s) : s ∈ w.fired ↔ s ∈ v.fired := by
  have hmem (u : World) : s ∈ u.fired.filter (l.signal ≠ some ·) ↔ s ∈ u.fired := by simp [hs]
  rw [← hmem w, h.fired, hmem v]

lemma hasFired {signal : Option Signal} (hs : ∀ s, signal = some s → l.signal ≠ some s) :
    w.hasFired signal = v.hasFired signal := by
  cases signal with
  | none => rfl
  | some s => simpa [World.hasFired] using h.mem_fired (hs s rfl)

lemma fire (s : Signal) : LooksLike l (w.fire s) (v.fire s) := by
  by_cases hs : l.signal = some s
  · unfold World.fire
    split <;> split <;> exact { h with
      fired := by simpa [World.record, hs] using h.fired
      history := by simpa [World.record, Leavers.hides, hs] using h.history }
  · by_cases hf : s ∈ w.fired
    · rw [World.fire, World.fire, if_pos (by simpa using hf),
        if_pos (by simpa using (h.mem_fired hs).mp hf)]
      exact h
    · rw [World.fire, World.fire, if_neg (by simpa using hf),
        if_neg (by simpa using fun hv => hf ((h.mem_fired hs).mpr hv))]
      have hfired : LooksLike l { w with fired := s :: w.fired } { v with fired := s :: v.fired } :=
        { h with fired := by simp only [List.filter_cons, h.fired] }
      exact hfired.record (by rw [h.now])

lemma ask (i : Nat) (t : Task) (r : Request) : LooksLike l (w.ask i t r) (v.ask i t r) := by
  have hasked {minted minted' : Nat} (hm : minted = minted') :
      LooksLike l { w with plans := (w.plans.take r).2, minted }
        { v with plans := (v.plans.take r).2, minted := minted' } :=
    { h with plans := by simp only [h.plans], minted := hm }
  refine ((hasked ?_).setTask i ?_).record ?_
  · rw [h.minted]
  · rw [h.plans, h.now]
  · rw [h.now]

lemma finish (i : Nat) (t : Task) {ending ending' : Ending} (he : ending = ending') :
    LooksLike l (w.finish i t ending) (v.finish i t ending') := by
  subst he
  have hset := h.setTask i (t := { t with underway := none, ending := some ending }) rfl
  have hended := hset.record (congrArg (Event.ended · i ending) h.now)
  rw [World.finish, World.finish]
  split
  · exact hended.setFlights _ (by rw [hended.flightsOf])
  · exact hended

lemma conclude (i : Nat) (t : Task) (grant : Option Grant) :
    LooksLike l (w.conclude i t grant) (v.conclude i t grant) := by
  cases grant with
  | none => exact h.finish i t rfl
  | some grant => exact h.newSignal.finish i t (by rw [h.signals])

/-- The same turn in both worlds. -/
lemma perform (i : Nat) (t : Task) (turn : Turn Process (Option Grant)) :
    Option.Rel (LooksLike l) (w.perform i t id id turn) (v.perform i t id id turn) := by
  rcases turn with _ | p | ⟨p, signal⟩ | ⟨p, r⟩ | (value | e | text)
  · exact .none
  · exact .some (h.setTask i rfl)
  · exact .some ((h.fire signal).setTask i rfl)
  · exact .some (h.ask i _ r)
  · exact .some (h.conclude i t value)
  · exact .some (h.finish i t rfl)
  · exact .some (h.finish i t rfl)

lemma glimpse (t : Task) (signal : Option Signal)
    (hs : ∀ s, signal = some s → l.signal ≠ some s) : w.glimpse t signal = v.glimpse t signal := by
  simp only [World.glimpse, h.now, h.minted, h.hasFired hs]

/-- The turn of a caller that has not heard of the signal. -/
lemma callerTurn (i : Nat) (t : Task) (c : Caller)
    (hs : ∀ n, c.stage = .waiting n → ∀ s, c.signal = some s → l.signal ≠ some s) :
    Option.Rel (LooksLike l) (w.callerTurn i t c) (v.callerTurn i t c) := by
  unfold World.callerTurn
  cases hstage : c.stage with
  | entering work =>
    simp only [h.flightsOf]
    exact .some ((h.setFlights _ rfl).setTask i rfl)
  | launching number work =>
    simp only [h.flightsOf]
    exact .some (((h.setFlights _ rfl).setTask i rfl).spawn _ _)
  | waiting number =>
    simp only [h.hasFired (hs number hstage), h.flightsOf]
    split
    · exact .some (h.finish i t rfl)
    · cases (v.flightsOf c.group).outcome? number with
      | none => exact .none
      | some outcome => cases outcome <;> exact .some (h.finish i t rfl)

/-- The turn of a task that has not heard of the signal. -/
lemma turn (i : Nat) (t : Task) (hdeaf : ∀ s, t.process.signal? = some s → l.signal = some s →
    t.process.isCaller = true ∧ t.process.waits = false) :
    Option.Rel (LooksLike l) (w.turn i t) (v.turn i t) := by
  have unheard (hp : t.process.isCaller = false) {signal : Option Signal}
      (hsignal : t.process.signal? = signal) (s : Signal) (hs : signal = some s) :
      l.signal ≠ some s := fun hl => by
    have := (hdeaf s (hsignal.trans hs) hl).1
    rw [hp] at this
    cases this
  unfold World.turn
  cases hp : t.process with
  | errand e =>
    have hg := h.glimpse t none fun s hs => by cases hs
    dsimp only
    rw [hg, w.perform_map, v.perform_map]
    exact h.perform i t _
  | acquisition x =>
    have hg := h.glimpse t x.signal (unheard (by rw [hp]; rfl) (by rw [hp]; rfl))
    dsimp only
    rw [hg, w.perform_map, v.perform_map]
    exact h.perform i t _
  | renewal x =>
    have hg := h.glimpse t (some x.lease.stop)
      (unheard (by rw [hp]; rfl) (by rw [hp]; rfl))
    dsimp only
    rw [hg, w.perform_map, v.perform_map]
    exact h.perform i t _
  | caller c =>
    refine h.callerTurn i t c fun n hn s hs hl => ?_
    have := (hdeaf s (by rw [hp]; exact hs) hl).2
    simp [hp, Process.waits, Process.awaited?, hn] at this
  | refused e => exact .some (h.finish i t rfl)

lemma moveRequest (i : Nat) (t : Task) :
    Option.Rel (LooksLike l) (w.moveRequest i t) (v.moveRequest i t) := by
  unfold World.moveRequest
  cases t.underway with
  | none => exact .none
  | some u =>
    have hstep : u.step w.now w.memory = u.step v.now v.memory := by rw [h.now, h.memory]
    simp only [Option.bind_eq_bind, Option.bind_some, hstep]
    cases u.step v.now v.memory with
    | none => exact .none
    | some moved =>
      obtain ⟨u', m, served⟩ := moved
      have hmemory : LooksLike l { w with memory := m } { v with memory := m } :=
        { h with memory := rfl }
      have hset := hmemory.setTask i (t := { t with underway := some u' }) rfl
      cases served with
      | none => exact .some hset
      | some yes => exact .some (hset.record (congrArg (Event.served · i u.request yes) h.now))

/-- The step of a task that has not heard of the signal. -/
lemma step (ht : w.tasks[i]? = some t) (hv : v.tasks[i]? = some t)
    (hdeaf : ∀ s, t.process.signal? = some s → l.signal = some s →
      t.process.isCaller = true ∧ t.process.waits = false) :
    Option.Rel (LooksLike l) (w.step i) (v.step i) := by
  have hheeds : w.heedsSignalFirst t = v.heedsSignalFirst t := by
    unfold heedsSignalFirst
    split
    · next x hp =>
      refine h.hasFired fun s hs hl => ?_
      have := (hdeaf s (by rw [hp]; exact hs) hl).1
      rw [hp] at this
      cases this
    · rfl
  have hturn := h.turn i t hdeaf
  have hmove := h.moveRequest i t
  simp only [World.step, ht, hv, Option.bind_eq_bind, Option.bind_some, hheeds]
  split
  · exact .none
  · split
    · exact hturn
    · cases hw : w.moveRequest i t with
      | none =>
        rw [hw] at hmove
        cases hv : v.moveRequest i t with
        | none => exact hturn
        | some v' =>
          rw [hv] at hmove
          cases hmove
      | some w' =>
        rw [hw] at hmove
        cases hv : v.moveRequest i t with
        | none =>
          rw [hv] at hmove
          cases hmove
        | some v' => rwa [hv] at hmove

end LooksLike

/-! ### What those who leave do -/

lemma LooksLike.refl (l : Leavers) (w : World) : LooksLike l w w :=
  ⟨rfl, rfl, rfl, rfl, rfl, rfl, rfl, rfl, rfl⟩

lemma LooksLike.symm (h : LooksLike l w v) : LooksLike l v w :=
  ⟨h.now.symm, h.memory.symm, h.plans.symm, h.minted.symm, h.signals.symm, h.flights.symm,
    h.fired.symm, h.tasks.symm, h.history.symm⟩

lemma LooksLike.trans {u : World} (h : LooksLike l w v) (h' : LooksLike l v u) : LooksLike l w u :=
  ⟨h.now.trans h'.now, h.memory.trans h'.memory, h.plans.trans h'.plans,
    h.minted.trans h'.minted, h.signals.trans h'.signals, h.flights.trans h'.flights,
    h.fired.trans h'.fired, h.tasks.trans h'.tasks, h.history.trans h'.history⟩

/-- Nobody but themselves sees how those who leave have ended. -/
lemma Crewed.looksLike_finish (hw : w.Crewed) (ht : w.tasks[i]? = some t)
    (hgone : l.gone i = true) (hwaits : t.process.waits = true) (ending : Ending) :
    LooksLike l w (w.finish i t ending) := by
  obtain ⟨c, n, hp, -⟩ := Process.waits_iff.mp hwaits
  have hfinish : w.finish i t ending = (w.setTask i
      { t with underway := none, ending := some ending }).record (.ended w.now i ending) := by
    rw [World.finish]
    split
    · next duty hduty =>
      rw [hw.duty_of_caller ht hp] at hduty
      cases hduty
    · rfl
  have hblur : l.blur i { t with underway := none, ending := some ending } = l.blur i t := by
    simp [Leavers.blur, hgone, hwaits, (hw.apt i t ht).idle (by rw [hp]; rfl)]
  rw [hfinish]
  refine { LooksLike.refl l w with tasks := ?_, history := ?_ }
  · have hsame : (w.tasks.mapIdx l.blur)[i]? = some (l.blur i t) := by simp [ht]
    obtain ⟨hlt, heq⟩ := List.getElem?_eq_some_iff.mp hsame
    change _ = (w.tasks.set i _).mapIdx l.blur
    rw [List.mapIdx_set, hblur, ← heq, List.set_getElem_self]
  · simp [World.record, Leavers.hides, hgone]

/-- Who waits for a flight at most ends. -/
lemma Crewed.looksLike_step (hw : w.Crewed) (ht : w.tasks[i]? = some t)
    (hgone : l.gone i = true) (hwaits : t.process.waits = true) :
    LooksLike l w (w.act (.step i)) := by
  obtain ⟨c, n, hp, hs⟩ := Process.waits_iff.mp hwaits
  have hidle := (hw.apt i t ht).idle (by rw [hp]; rfl)
  cases hend : t.ending with
  | some e =>
    have hstep : w.step i = none := by simp [World.step, ht, hend]
    simp only [World.act, hstep]
    exact .refl l w
  | none =>
    simp only [World.act, step_caller ht hend hp hidle, World.callerTurn, hs]
    split
    · exact hw.looksLike_finish ht hgone hwaits _
    · cases (w.flightsOf c.group).outcome? n with
      | none => exact .refl l w
      | some outcome => cases outcome <;> exact hw.looksLike_finish ht hgone hwaits _

lemma Crewed.looksLike_abort (hw : w.Crewed) (ht : w.tasks[i]? = some t)
    (hgone : l.gone i = true) (hwaits : t.process.waits = true) :
    LooksLike l w (w.act (.abort i)) := by
  rcases w.act_abort i with h | ⟨x, hx, -, h⟩
  · rw [h]
    exact .refl l w
  · cases ht.symm.trans hx
    rw [h]
    exact hw.looksLike_finish ht hgone hwaits _

/-! ### Runs -/

/-- Whether those who leave are callers, and are all who hear of it that their signal fires. -/
structure Apart (w : World) (l : Leavers) : Prop where
  callers : ∀ (k : Nat) (t : Task), w.tasks[k]? = some t → l.gone k = true →
    t.process.isCaller = true
  heard : ∀ (k : Nat) (t : Task) (s : Signal), w.tasks[k]? = some t → l.signal = some s →
    t.process.signal? = some s → l.gone k = true

/-- Who is apart at the end of a run was so before. -/
lemma Apart.of_act (h : (w.act a).Apart l) : w.Apart l := by
  refine ⟨fun k t ht hgone => ?_, fun k t s ht hl hs => ?_⟩ <;>
    obtain ⟨t', ht', hfollows⟩ := w.follows_act a ht
  · rw [← hfollows.same_kind.1]
    exact h.callers k t' ht' hgone
  · exact h.heard k t' s ht' hl (hfollows.same_kind.2.trans hs)

lemma Apart.of_run {acts : List Act} (h : (w.run acts).Apart l) : w.Apart l := by
  induction acts generalizing w with
  | nil => exact h
  | cons a acts ih => exact (ih h).of_act

namespace LooksLike

lemma task (h : LooksLike l w v) (ht : w.tasks[i]? = some t) :
    ∃ t', v.tasks[i]? = some t' ∧ l.blur i t = l.blur i t' := by
  have := congrArg (·[i]?) h.tasks
  simp only [List.getElem?_mapIdx, ht, Option.map_some] at this
  obtain ⟨t', ht', hblur⟩ := Option.map_eq_some_iff.mp this.symm
  exact ⟨t', ht', hblur.symm⟩

/-- An act of task `i` by which others cannot tell two worlds apart. -/
lemma act_of_task (h : LooksLike l w v) (hw : w.Crewed) (hv : v.Crewed)
    (hmissing : w.tasks[i]? = none → v.tasks[i]? = none → LooksLike l (w.act a) (v.act a))
    (hgone : ∀ (u : World) (t : Task), u.Crewed → u.tasks[i]? = some t → l.gone i = true →
      t.process.waits = true → LooksLike l u (u.act a))
    (hstays : ∀ t, w.tasks[i]? = some t → v.tasks[i]? = some t →
      (l.gone i && t.process.waits) = false → LooksLike l (w.act a) (v.act a)) :
    LooksLike l (w.act a) (v.act a) := by
  cases ht : w.tasks[i]? with
  | none =>
    refine hmissing ht ?_
    rw [List.getElem?_eq_none_iff] at ht ⊢
    rwa [← h.length]
  | some t =>
    obtain ⟨t', ht', hblur⟩ := h.task ht
    have hp : t.process = t'.process := by simpa using congrArg Task.process hblur
    cases hleaves : l.gone i && t.process.waits with
    | true =>
      obtain ⟨hg, hwaits⟩ := Bool.and_eq_true_iff.mp hleaves
      exact (hgone w t hw ht hg hwaits).symm.trans (h.trans (hgone v t' hv ht' hg (hp ▸ hwaits)))
    | false =>
      rw [Leavers.blur_of_stays hleaves, Leavers.blur_of_stays (hp ▸ hleaves)] at hblur
      exact hstays t ht (hblur ▸ ht') hleaves

/-- **Who stays cannot tell two worlds apart by anything that is done to both.** -/
theorem act (h : LooksLike l w v) (hw : w.Crewed) (hv : v.Crewed) (hapart : w.Apart l) (a : Act) :
    LooksLike l (w.act a) (v.act a) := by
  cases a with
  | step i =>
    refine h.act_of_task (i := i) hw hv (fun hi hi' => ?_)
      (fun u t hu ht => hu.looksLike_step ht) fun t ht ht' hstays => ?_
    · have missing (u : World) (hu : u.tasks[i]? = none) : u.act (.step i) = u := by
        simp [World.act, World.step, hu]
      rwa [missing w hi, missing v hi']
    · have hstep := h.step ht ht' fun s hs hl => by
        have hg := hapart.heard i t s ht hl hs
        exact ⟨hapart.callers i t ht hg, by simpa [hg] using hstays⟩
      simp only [World.act]
      cases hw' : w.step i <;> rw [hw'] at hstep <;> cases hv' : v.step i <;> rw [hv'] at hstep <;>
        cases hstep
      · exact h
      · next hstep => exact hstep
  | abort i =>
    refine h.act_of_task (i := i) hw hv (fun hi hi' => ?_)
      (fun u t hu ht => hu.looksLike_abort ht) fun t ht ht' hstays => ?_
    · simp only [World.act, hi, hi']
      exact h
    · simp only [World.act, ht, ht']
      split
      · exact h
      · exact h.finish i t rfl
  | advance d => exact { h with now := by simp only [World.act, h.now] }
  | spawn p => exact h.spawn p none
  | fire s => exact h.fire s
  | newSignal => exact h.newSignal
  | expire key =>
    have hmemory : LooksLike l { w with memory := w.memory.expire key }
        { v with memory := v.memory.expire key } :=
      { h with memory := by simp only [h.memory] }
    exact hmemory.record (congrArg (Event.expired · key) h.now)
  | intrude r =>
    have hserve : w.memory.serve w.now r = v.memory.serve v.now r := by rw [h.now, h.memory]
    have hmemory (m : Memory) : LooksLike l { w with memory := m } { v with memory := m } :=
      { h with memory := rfl }
    simp only [World.act, hserve]
    split
    · next yes m _ => exact (hmemory m).record (congrArg (Event.intruded · r yes) h.now)
    · next m _ => exact hmemory m
  | plan plans => exact { h with plans := rfl }

/-- **Nor by a whole run.** -/
theorem run {acts : List Act} (h : LooksLike l w v) (hw : w.Crewed) (hv : v.Crewed)
    (ha : ∀ a ∈ acts, a.Proper) (hapart : (w.run acts).Apart l) :
    LooksLike l (w.run acts) (v.run acts) := by
  induction acts generalizing w v with
  | nil => exact h
  | cons a acts ih =>
    have hproper := ha a List.mem_cons_self
    have hfirst : w.Apart l := hapart.of_run
    exact ih (h.act hw hv hfirst a) (hw.act hproper)
      (hv.act hproper) (fun b hb => ha b (List.mem_cons_of_mem a hb)) hapart

end LooksLike

/-! ### Leaving -/

/-- Whether task `k` leaves by an act: it is aborted, or listens to the signal that fires. -/
def Leaves (w : World) (k : Nat) : Act → Bool
  | .abort i => k = i
  | .fire s => w.tasks[k]?.any (·.process.signal? = some s)
  | .step _ | .advance _ | .spawn _ | .newSignal | .expire _ | .intrude _ | .plan _ => false

/-- Those who leave by an act. -/
def leavers (w : World) (leave : Act) : Leavers where
  gone k := w.Leaves k leave
  signal :=
    match leave with
    | .fire s => some s
    | _ => none

/-- How little it matters to the others whether those have left who `leave`. -/
structure Unaffected (kept left : World) (leave : Nat → Bool) : Prop where
  now : left.now = kept.now
  memory : left.memory = kept.memory
  /-- The same tasks have put the same requests to the store, at the same instants. -/
  calls : calls left.history = calls kept.history
  /-- The calls of the others have got as far, and have ended in the same way. -/
  tasks : ∀ k, leave k = false → left.tasks[k]? = kept.tasks[k]?
  ends : ∀ k, leave k = false → ∀ time e,
    .ended time k e ∈ left.history ↔ .ended time k e ∈ kept.history

lemma LooksLike.unaffected (h : LooksLike l w v) : w.Unaffected v l.gone where
  now := h.now.symm
  memory := h.memory.symm
  calls := by rw [← l.calls_filter, ← h.history, l.calls_filter]
  tasks k hk := by
    cases ht : w.tasks[k]? with
    | none =>
      rw [List.getElem?_eq_none_iff] at ht ⊢
      rwa [← h.length]
    | some t =>
      obtain ⟨t', ht', hblur⟩ := h.task ht
      have hp : t.process = t'.process := by simpa using congrArg Task.process hblur
      rw [Leavers.blur_of_stays (by simp [hk]), Leavers.blur_of_stays (by simp [hk])] at hblur
      rw [ht', hblur]
  ends k hk time e := by
    have seen (u : World) : .ended time k e ∈ u.history.filter (!l.hides ·) ↔
        .ended time k e ∈ u.history := by simp [Leavers.hides, hk]
    rw [← seen v, ← h.history, seen w]

/-- A signal that nobody hears of who stays makes no difference to them. -/
lemma LooksLike.fire_own (w : World) (hs : l.signal = some s) : LooksLike l w (w.fire s) := by
  unfold World.fire
  split
  · exact .refl l w
  · exact { LooksLike.refl l w with
      fired := by simp [World.record, hs]
      history := by simp [World.record, Leavers.hides, hs] }

/-- **Whoever leaves a shared acquisition disturbs nobody.** Take any run in which callers begin by
entering, whatever the store does and however the tasks interleave, and a caller that waits for a
flight at some moment of it, be it the one that entered the flight. Let the caller be aborted at
this moment; or let its signal fire, if no flight's work nor anything else but callers ever listens
to that. Then everything goes on as it would have if the caller had kept waiting. -/
theorem leaving_disturbs_nobody {plans : Plans} {before after : List Act} {leave : Act}
    (hbefore : ∀ a ∈ before, a.Proper) (hafter : ∀ a ∈ after, a.Proper)
    (ht : ((start plans).run before).tasks[i]? = some t) (hwaits : t.process.waits = true)
    (hleave : leave = .abort i ∨ ∃ s, t.process.signal? = some s ∧ leave = .fire s ∧
      ∀ x ∈ ((start plans).run (before ++ after)).tasks, x.process.signal? = some s →
        x.process.isCaller = true) :
    let kept := (start plans).run (before ++ after)
    let left := (start plans).run (before ++ leave :: after)
    kept.Unaffected left (kept.Leaves · leave) := by
  intro kept left
  have hw := (crewed_run plans hbefore).1
  have hkept : kept = ((start plans).run before).run after := run_append ..
  have hleft : left = (((start plans).run before).act leave).run after := run_append ..
  obtain ⟨hproper, hlook, hapart⟩ : leave.Proper ∧
      LooksLike (kept.leavers leave) ((start plans).run before)
        (((start plans).run before).act leave) ∧
      (((start plans).run before).run after).Apart (kept.leavers leave) := by
    rw [← hkept]
    rcases hleave with rfl | ⟨s, -, rfl, hcallers⟩
    · refine ⟨trivial, hw.looksLike_abort ht (by simp [leavers, Leaves]) hwaits,
        fun k x hx hgone => ?_, fun k x s hx hl => by cases hl⟩
      obtain rfl : k = i := by simpa [leavers, Leaves] using hgone
      obtain ⟨c, n, hp, -⟩ := Process.waits_iff.mp hwaits
      obtain ⟨x', hx', hcaller, -⟩ := stays_run ht after
      rw [← hkept] at hx'
      cases hx.symm.trans hx'
      rw [hcaller, hp]
      rfl
    · refine ⟨trivial, .fire_own _ rfl, fun k x hx hgone => ?_, fun k x s' hx hl hsignal => ?_⟩
      · exact hcallers x (List.mem_of_getElem? hx) (by simpa [leavers, Leaves, hx] using hgone)
      · cases hl
        simp [leavers, Leaves, hx, hsignal]
  have hrun := hlook.run hw (hw.act hproper) hafter hapart
  rw [← hkept, ← hleft] at hrun
  exact hrun.unaffected

/-- The second caller joins before the launch; its signal fires between two attempts, or the caller
that entered the flight is aborted there. -/
theorem leaving_disturbs_nobody_between_attempts :
    let work : Acquisition := .start "k" (.ofSecs 9) (.ofSecs 1) (.ofList [.ofMillis 1] .stop) none
    let other : Acquisition := .start "k" (.ofSecs 5) (.ofSecs 2) .never (some 7)
    let plans : Plans := ⟨[⟨none, .answer false, none⟩], [], []⟩
    let before := [.spawn (.caller (.start "g" work)), .spawn (.caller (.start "g" other)),
      .step 0, .step 1, .step 0, .step 2, .step 2, .step 2]
    let after := [.step 0, .step 1, .advance 1000000, .step 2, .step 2, .step 2, .step 2,
      .step 0, .step 1]
    let kept := (start plans).run (before ++ after)
    let cancelled := (start plans).run (before ++ .fire 7 :: after)
    let aborted := (start plans).run (before ++ .abort 0 :: after)
    let lease : Lease := ⟨⟨"k", .minted 2, .ofSecs 9⟩, 0⟩
    kept.Unaffected cancelled (kept.Leaves · (.fire 7)) ∧
    kept.Unaffected aborted (kept.Leaves · (.abort 0)) ∧
    (kept.ending? 0 = some (.leased lease) ∧ kept.ending? 1 = some (.leased lease)) ∧
    (cancelled.ending? 0 = some (.leased lease) ∧
      cancelled.ending? 1 = some (.failed .cancelled)) ∧
    (aborted.ending? 0 = some .aborted ∧ aborted.ending? 1 = some (.leased lease)) := by
  intro work other plans before after kept cancelled aborted lease
  have hbefore : ∀ a ∈ before, a.Proper := by
    simp [before, work, other, Act.Proper]
  have hafter : ∀ a ∈ after, a.Proper := by
    simp [after, Act.Proper]
  have waiting (i : Nat) (signal : Option Signal)
      (h : ((start plans).run before).tasks[i]?.map (fun t =>
        (t.process.waits, t.process.signal?)) = some (true, signal)) :
      ∃ t, ((start plans).run before).tasks[i]? = some t ∧ t.process.waits = true ∧
        t.process.signal? = signal := by
    obtain ⟨t, ht, h⟩ := Option.map_eq_some_iff.mp h
    exact ⟨t, ht, congrArg Prod.fst h, congrArg Prod.snd h⟩
  obtain ⟨starter, hs, hswaits, -⟩ := waiting 0 none (by decide)
  obtain ⟨joiner, hj, hjwaits, hsignal⟩ := waiting 1 (some 7) (by decide)
  have hcallers : ∀ x ∈ kept.tasks, x.process.signal? = some 7 → x.process.isCaller = true := by
    decide
  exact ⟨leaving_disturbs_nobody hbefore hafter hj hjwaits (.inr ⟨7, hsignal, rfl, hcallers⟩),
    leaving_disturbs_nobody hbefore hafter hs hswaits (.inl rfl),
    by decide, by decide, by decide⟩

end World
end LeaseLock
