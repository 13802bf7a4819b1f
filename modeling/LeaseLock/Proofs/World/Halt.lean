import Mathlib.Tactic.Common
import LeaseLock.Proofs.World.Ticks

/-!
Giving a lease up stops its renewals.

The first step of an unlock fires the signal of the lease, and from then on no renewal asks for
another refresh. A renewal that waits for a tick ends at once, one that has a refresh under way when
that comes back, or when its deadline is over: `Winds` carries a renewal there, whatever the store
does, and `left` counts the steps that are still to come.
-/

namespace LeaseLock

/-- Whether the call is a renewal that a signal stops. -/
def Process.Listens (s : Signal) : Process → Prop
  | .renewal x => x.lease.stop = s
  | _ => False

/-- Up to when a renewal goes on if its lease is given up at `now`. -/
def Renewal.lastInstant (x : Renewal) (now : Nat) : Nat :=
  match x.stage with
  | .asking _ deadline => deadline
  | .fresh | .ticking _ | .repeating _ => now

@[simp] lemma Renewal.lastInstant_of_asking {x : Renewal} {due deadline now : Nat}
    (h : x.stage = .asking due deadline) : x.lastInstant now = deadline := by
  rw [lastInstant, h]

@[simp] lemma Renewal.lastInstant_of_idle {x : Renewal} {now : Nat}
    (h : ∀ due deadline, x.stage ≠ .asking due deadline) : x.lastInstant now = now := by
  unfold lastInstant
  split
  · next due deadline hstage => exact absurd hstage (h due deadline)
  all_goals rfl

/-- How many moves a request has before it at most. -/
def Underway.Stage.left : Underway.Stage → Nat
  | .outward _ => 3
  | .arrived => 2
  | .homeward .. => 1
  | .back _ => 0

lemma Underway.Stage.left_le (s : Underway.Stage) : s.left ≤ 3 := by
  cases s <;> simp [left]

lemma Underway.Passes.left {u u' : Underway} {now : Nat} {m : Memory} (h : u.Passes now m u') :
    u'.stage.left < u.stage.left := by
  cases h with
  | arrived due stage hdue => simp [stage, Stage.left]
  | responded response stage deed unbroken =>
    rcases u.respond_stage now response with ⟨due, h⟩ | h <;> simp [stage, h, Stage.left]
  | overflowed stage deed serve => simp [stage, Stage.left]
  | broke stage deed => simp [stage, Stage.left]
  | returned due response stage hdue => simp [stage, Stage.left]

/-- How many steps a renewal has before it at most that is to end. -/
def Renewal.left (x : Renewal) (u : Option Underway) : Nat :=
  match x.stage with
  | .fresh => 2
  | .ticking _ | .repeating _ => 1
  | .asking .. => 2 + (u.elim 0 (·.stage.left))

lemma Renewal.left_le (x : Renewal) (u : Option Underway) : x.left u ≤ 5 := by
  unfold left
  split
  · decide
  · decide
  · decide
  · cases u with
    | none => decide
    | some u => exact Nat.add_le_add_left u.stage.left_le 2

lemma Renewal.left_pos (x : Renewal) (u : Option Underway) : 0 < x.left u := by
  unfold left
  split <;> omega

/-- A renewal whose signal has fired asks for nothing. -/
lemma Renewal.Took.unfired {x x' : Renewal} {g : Glimpse} {r : Request}
    (h : x.Took g (.ask x' r)) : g.fired = false := by
  generalize hturn : Turn.ask x' r = turn at h
  cases h with
  | ticked due stage fired | repeated due stage fired => exact fired
  | _ => cases hturn

namespace World

variable {v w w' : World} {i j k : Nat} {t : Task} {a : Act} {s : Signal} {lease : Lease}
  {x : Renewal} {since bound : Nat}

/-- The renewal that task `i` runs. -/
def renewal? (w : World) (i : Nat) : Option Renewal :=
  w.tasks[i]?.bind fun t =>
    match t.process, t.ending with
    | .renewal x, none => some x
    | _, _ => none

/-- The errand that task `i` is on, while it has nothing under way. -/
def errand? (w : World) (i : Nat) : Option Errand :=
  w.tasks[i]?.bind fun t =>
    match t.process, t.underway, t.ending with
    | .errand e, none, none => some e
    | _, _, _ => none

lemma renewal?_eq_some : w.renewal? i = some x ↔
    ∃ t, w.tasks[i]? = some t ∧ t.ending = none ∧ t.process = .renewal x := by
  refine Option.bind_eq_some_iff.trans (exists_congr fun t => and_congr_right fun _ => ?_)
  split
  · next y hp hend => simp [hp, hend]
  · next hne => simpa using fun hend hp => hne x hp hend

lemma errand?_eq_some {e : Errand} : w.errand? i = some e ↔ ∃ t, w.tasks[i]? = some t ∧
    t.ending = none ∧ t.underway = none ∧ t.process = .errand e := by
  refine Option.bind_eq_some_iff.trans (exists_congr fun t => and_congr_right fun _ => ?_)
  split
  · next y hp hu hend => simp [hp, hu, hend]
  · next hne => simpa using fun hend hu hp => hne e hp hu hend

/-! ### The signal -/

lemma mem_fired_fire (w : World) (s : Signal) : s ∈ (w.fire s).fired := by
  rcases w.fire_cases s with ⟨h, he⟩ | ⟨he, -⟩
  · rwa [he]
  · rw [he]
    exact List.mem_cons_self

/-- The first step of an unlock fires the signal of the lease. -/
lemma fired_of_unlock (h : w.errand? i = some (.unlock lease)) :
    lease.stop ∈ (w.act (.step i)).fired := by
  obtain ⟨t, ht, hend, hu, hp⟩ := errand?_eq_some.mp h
  have hact : ∃ t', w.act (.step i) = (w.fire lease.stop).setTask i t' := by
    refine ⟨{ t with process := .errand ⟨.unlock lease, .ready⟩ }, ?_⟩
    simp [act, step, ht, hend, heedsSignalFirst, hp, moveRequest, hu, turn, Errand.unlock,
      Errand.turn, perform]
  obtain ⟨t', hact⟩ := hact
  rw [hact]
  exact mem_fired_fire w lease.stop

lemma Follows.listens {p : Process} (h : w.Follows t p) :
    p.Listens s ↔ t.process.Listens s := by
  constructor
  · intro hp
    cases p with
    | renewal x' =>
      obtain ⟨x, stage, hx, rfl⟩ := h.of_renewal
      rw [hx]
      exact hp
    | _ => exact hp.elim
  · intro hp
    cases hx : t.process with
    | renewal x =>
      obtain ⟨stage, rfl⟩ := h.renewal hx
      rw [hx] at hp
      exact hp
    | _ =>
      rw [hx] at hp
      exact hp.elim

/-- A renewal sees that its signal has fired. -/
lemma glimpse_fired (hs : x.lease.stop ∈ w.fired) :
    (w.glimpse t (some x.lease.stop)).fired = true := by
  simpa [glimpse, hasFired] using hs

lemma not_asks (hs : s ∈ w.fired) (hp : t.process.Listens s) {p : Process} {r : Request} :
    t.turn? w ≠ some (.ask p r) := by
  intro hturn
  cases hx : t.process with
  | renewal x =>
    rw [hx] at hp
    obtain rfl : x.lease.stop = s := hp
    obtain ⟨own, hown, took⟩ := turn?_renewal hx hturn
    cases own <;> cases hown
    exact Bool.noConfusion ((glimpse_fired hs).symm.trans took.unfired)
  | _ =>
    rw [hx] at hp
    exact hp.elim

lemma requestsOf_act (hs : s ∈ w.fired)
    (hk : ∀ t, w.tasks[k]? = some t → t.process.Listens s) :
    requestsOf k (w.act a).history = requestsOf k w.history := by
  cases w.act_effect a with
  | still memory history => rw [history]
  | noted e quiet memory history =>
    exact requestsOf_other (by cases e <;> first | rfl | exact quiet.elim) history
  | asked i t p r act task turn memory history =>
    have hik : i ≠ k := by
      rintro rfl
      exact not_asks hs (hk t task) turn
    exact requestsOf_other (by simp [Event.asked?, hik]) history
  | served i t u yes act task underway stage serve history => exact requestsOf_other rfl history
  | intruded r yes act serve history => exact requestsOf_other rfl history
  | expired key memory history => exact requestsOf_other rfl history

/-- A task stays, and listens to the same signal. -/
lemma listens_run (ht : w.tasks[k]? = some t) (acts : List Act) :
    ∃ t', (w.run acts).tasks[k]? = some t' ∧ (t'.process.Listens s ↔ t.process.Listens s) := by
  induction acts generalizing w t with
  | nil => exact ⟨t, ht, .rfl⟩
  | cons a acts ih =>
    obtain ⟨t₁, ht₁, hfollows⟩ := w.follows_act a ht
    obtain ⟨t₂, ht₂, hlistens⟩ := ih ht₁
    exact ⟨t₂, ht₂, hlistens.trans hfollows.listens⟩

/-- Once the signal has fired, the renewals that it stops put nothing to the store. -/
lemma requestsOf_run (hs : s ∈ w.fired) {acts : List Act}
    (hk : ∀ t, (w.run acts).tasks[k]? = some t → t.process.Listens s) :
    requestsOf k (w.run acts).history = requestsOf k w.history := by
  induction acts generalizing w with
  | nil => rfl
  | cons a acts ih =>
    rw [run_cons, ih (w.mem_fired_act a hs) hk]
    refine requestsOf_act hs fun t ht => ?_
    obtain ⟨t', ht', hlistens⟩ := listens_run ht (a :: acts)
    exact hlistens.mp (hk t' ht')

/-! ### The end of a renewal -/

/-- Task `j` has ended well, between two instants. -/
def Halted (w : World) (j since bound : Nat) : Prop :=
  w.ending? j = some .done ∧
    ∃ time, .ended time j .done ∈ w.history ∧ since ≤ time ∧ time ≤ bound

lemma ending?_eq_some {ending : Ending} :
    w.ending? j = some ending ↔ ∃ t, w.tasks[j]? = some t ∧ t.ending = some ending :=
  Option.bind_eq_some_iff

lemma Halted.act (h : w.Halted j since bound) (a : Act) : (w.act a).Halted j since bound := by
  obtain ⟨hending, time, hm, hsince, hbound⟩ := h
  obtain ⟨t, ht, hend⟩ := ending?_eq_some.mp hending
  refine ⟨ending?_eq_some.mpr ⟨t, w.ended_act a ht hend, hend⟩, time, ?_, hsince, hbound⟩
  rcases w.act_history a with ha | ⟨e, ha⟩
  · rwa [ha]
  · rw [ha]
    exact List.mem_cons_of_mem e hm

lemma Halted.run (h : w.Halted j since bound) (acts : List Act) :
    (w.run acts).Halted j since bound :=
  run_induction (P := fun v => v.Halted j since bound) h fun _ a _ hv => hv.act a

/-- Task `j` runs a renewal of a lease that was given up, and is to end by `bound`. -/
structure Winds (w : World) (j : Nat) (lease : Lease) (since bound : Nat) (t : Task)
    (x : Renewal) : Prop where
  task : w.tasks[j]? = some t
  running : t.ending = none
  process : t.process = .renewal x
  keeps : x.lease = lease
  stopped : lease.stop ∈ w.fired
  since : since ≤ w.now
  early : w.now ≤ bound
  fresh : x.stage = .fresh → 0 < x.interval.nanos ∧ w.now + x.interval.nanos < Instant.limit
  asking : ∀ due deadline, x.stage = .asking due deadline → deadline ≤ bound

namespace Winds

/-- A renewal that was stopped asks for nothing, and does not fail. -/
lemma took (h : w.Winds j lease since bound t x) (hw : w.Supplied Plan.Sturdy)
    (hon : w.OnTime j t x x.stage) (hfits : w.now + lease.ttl.nanos < Instant.limit)
    {turn : Turn Renewal Unit} (took : x.Took (w.glimpse t (some x.lease.stop)) turn) :
    (turn = .rest ∧ w.now < bound) ∨ turn = .fin (.ok ()) ∨
      ∃ stage, turn = .go { x with stage } ∧ stage ≠ .fresh ∧
        (∀ due deadline, stage ≠ .asking due deadline) ∧
        Renewal.left { x with stage } none < x.left t.underway := by
  have hfired : (w.glimpse t (some x.lease.stop)).fired = true :=
    glimpse_fired (h.keeps ▸ h.stopped)
  cases took with
  | invalid stage zero =>
    have := (h.fresh stage).1
    simp only [Span.isZero_iff] at zero
    omega
  | begun due stage zero after =>
    exact .inr (.inr ⟨_, rfl, by simp, by simp, by simp [Renewal.left, stage]⟩)
  | overflowed stage zero after =>
    have := (h.fresh stage).2
    exact absurd (Instant.after?_eq_none.mp after) (Nat.not_le.mpr this)
  | stopped due stage fired | excused due deadline e stage fails timeout fired =>
    exact .inr (.inl rfl)
  | ticked due stage fired | slept due stage fired | repeated due stage fired
  | failed due deadline e stage fails timeout fired => cases hfired.symm.trans fired
  | waited due deadline stage response early =>
    exact .inl ⟨rfl, Nat.lt_of_lt_of_le early (h.asking due deadline stage)⟩
  | granted due deadline stage response =>
    exact .inr (.inr ⟨_, rfl, by simp, by simp, by simp [Renewal.left, stage]; omega⟩)
  | late due deadline e stage fails timeout =>
    exact .inr (.inr ⟨_, rfl, by simp, by simp, by simp [Renewal.left, stage]; omega⟩)
  | broke due deadline text stage response =>
    -- a store that was to break down, or a clock that came to its end, is ruled out
    exfalso
    rw [stage] at hon
    cases hon with
    | asking _ time u underway sharp frank asked whole since early =>
      have hcarries : u.stage.carries = some (.broken text) := by
        simp only [glimpse, underway, Option.bind_some, Underway.response?] at response
        split at response
        · next r hback =>
          rw [hback]
          exact response
        · cases response
      rcases frank.2 text hcarries with hdeed | hfull
      · exact hw.underway t (List.mem_of_getElem? h.task) u underway hdeed
      · rw [h.keeps] at hfull
        omega

/-- Each step of the renewal ends it, or brings its end closer, once it is time. -/
lemma step (h : w.Winds j lease since bound t x) (hw : w.Supplied Plan.Sturdy) (hp : w.Paced j)
    (hfits : w.now + lease.ttl.nanos < Instant.limit) :
    (w.act (.step j)).Halted j since bound ∨
      ∃ t' x', (w.act (.step j)).Winds j lease since bound t' x' ∧
        (bound ≤ w.now → x'.left t'.underway < x.left t.underway) := by
  have hon := hp t x h.task h.running h.process
  have hlt := (List.getElem?_eq_some_iff.mp h.task).1
  have hrenewed := renewed_act h.task h.running h.process
  generalize w.act (.step j) = v at hrenewed ⊢
  cases hrenewed with
  | rested took =>
    rcases h.took hw hon hfits took with ⟨-, hlate⟩ | hturn | ⟨stage, hturn, -⟩
    · exact .inr ⟨t, x, h, fun hle => absurd hlate (Nat.not_lt.mpr hle)⟩
    · cases hturn
    · cases hturn
  | moved v hm =>
    obtain ⟨u, u', hu, hpasses, htasks, hnow, hfired, -⟩ := hm.passes
    refine .inr ⟨{ t with underway := some u' }, x, ⟨?_, h.running, h.process, h.keeps,
      hfired ▸ h.stopped, hnow ▸ h.since, hnow ▸ h.early, fun hs => hnow ▸ h.fresh hs, h.asking⟩,
      fun _ => ?_⟩
    · rw [htasks, List.getElem?_set_self hlt]
    · -- only a renewal that asks has a request under way
      generalize hstage : x.stage = stage at hon
      cases hon with
      | fresh idle | ticking _ idle | repeating _ idle => cases hu.symm.trans idle
      | asking due time v underway =>
        have hleft := hpasses.left
        simp only [Renewal.left, hstage, hu, Option.elim_some]
        omega
  | went x' took =>
    rcases h.took hw hon hfits took with ⟨hturn, -⟩ | hturn | ⟨stage, hturn, hfresh, hasking, hleft⟩
    · cases hturn
    · cases hturn
    · cases hturn
      exact .inr ⟨_, _, ⟨List.getElem?_set_self hlt, h.running, rfl, h.keeps, h.stopped, h.since,
        h.early, fun hs => absurd hs hfresh,
        fun due deadline hs => absurd hs (hasking due deadline)⟩, fun _ => hleft⟩
  | asked x' r took =>
    rcases h.took hw hon hfits took with ⟨hturn, -⟩ | hturn | ⟨stage, hturn, -⟩ <;> cases hturn
  | ended o took =>
    rcases h.took hw hon hfits took with ⟨hturn, -⟩ | hturn | ⟨stage, hturn, -⟩
    · cases hturn
    · cases hturn
      refine .inl ⟨ending?_eq_some.mpr
        ⟨{ t with underway := none, ending := some .done }, ?_, rfl⟩, w.now, ?_, h.since, h.early⟩
      · rw [finish_tasks, List.getElem?_set_self hlt]
        rfl
      · rw [finish_history]
        exact List.mem_cons_self
    · cases hturn

/-- The clock does not pass by the deadline of a refresh, and stands still for a renewal that has
none under way. -/
lemma advance (h : w.Winds j lease since bound t x) {d : Nat} (hh : w.Heeds j (.advance d)) :
    (w.act (.advance d)).Winds j lease since bound t x := by
  obtain ⟨hstep, hwakes⟩ := hh
  have hfired : (w.glimpse t (some x.lease.stop)).fired = true :=
    glimpse_fired (h.keeps ▸ h.stopped)
  cases took_rest h.task h.running h.process hstep with
  | slept due stage fired => cases hfired.symm.trans fired
  | waited due deadline stage response early =>
    have hwake : w.now + d ≤ deadline := by
      refine hwakes t h.task _ ?_
      simp [wakes, h.running, h.process, Renewal.wake?, stage]
    exact ⟨h.task, h.running, h.process, h.keeps, h.stopped,
      Nat.le_trans h.since (Nat.le_add_right _ _), Nat.le_trans hwake (h.asking due deadline stage),
      (fun hs => by cases stage.symm.trans hs), h.asking⟩

/-- What others do makes no difference. -/
lemma other (h : w.Winds j lease since bound t x) (hadvance : ∀ d, a ≠ .advance d)
    (hstep : a ≠ .step j) (habort : a ≠ .abort j) : (w.act a).Winds j lease since bound t x := by
  have hnow := w.act_now hadvance
  exact ⟨other_act h.task hstep habort, h.running, h.process, h.keeps,
    w.mem_fired_act a h.stopped, hnow ▸ h.since, hnow ▸ h.early, fun hs => hnow ▸ h.fresh hs,
    h.asking⟩

end Winds

/-! ### Runs -/

/-- Task `j` has ended well, or is to end by `bound`. -/
structure Closing (w : World) (j : Nat) (lease : Lease) (since bound : Nat) : Prop where
  supplied : w.Supplied Plan.Sturdy
  paced : w.Paced j
  winds : w.Halted j since bound ∨ ∃ t x, w.Winds j lease since bound t x

namespace Closing

lemma act (hw : w.Closing j lease since bound) (hplans : a.Supplies Plan.Sturdy)
    (hfresh : a.StartsFresh) (hh : w.Heeds j a) (habort : a ≠ .abort j)
    (hfits : w.now + lease.ttl.nanos < Instant.limit) : (w.act a).Closing j lease since bound := by
  refine ⟨hw.supplied.act Deed.noConfusion hplans, hw.paced.act hfresh hh, ?_⟩
  rcases hw.winds with h | ⟨t, x, h⟩
  · exact .inl (h.act a)
  cases a.view j with
  | advance d => exact .inr ⟨t, x, h.advance hh⟩
  | own => exact (h.step hw.supplied hw.paced hfits).imp_right fun ⟨t', x', h', _⟩ => ⟨t', x', h'⟩
  | other hstep hadvance => exact .inr ⟨t, x, h.other hadvance hstep habort⟩

lemma run (hw : w.Closing j lease since bound) {acts : List Act}
    (hacts : ∀ a ∈ acts, a.Supplies Plan.Sturdy ∧ a.StartsFresh) (hh : w.Heeded j acts)
    (habort : .abort j ∉ acts) (hfits : (w.run acts).now + lease.ttl.nanos < Instant.limit) :
    (w.run acts).Closing j lease since bound := by
  induction acts generalizing w with
  | nil => exact hw
  | cons a acts ih =>
    obtain ⟨hplans, hfresh⟩ := hacts a List.mem_cons_self
    have hle := w.now_le_run (a :: acts)
    refine ih (hw.act hplans hfresh hh.1 (fun ha => habort (ha ▸ List.mem_cons_self)) ?_)
      (fun b hb => hacts b (List.mem_cons_of_mem a hb)) hh.2
      (fun hb => habort (List.mem_cons_of_mem a hb)) hfits
    omega

/-- Once it is time, the steps of the renewal bring its end about. -/
lemma halts (hw : w.Closing j lease since bound) (hle : bound ≤ w.now)
    (hfits : w.now + lease.ttl.nanos < Instant.limit) :
    (w.run (List.replicate 5 (.step j))).Halted j since bound := by
  have within (n : Nat) {w : World} (hw : w.Closing j lease since bound) (hle : bound ≤ w.now)
      (hfits : w.now + lease.ttl.nanos < Instant.limit)
      (hn : ∀ t x, w.Winds j lease since bound t x → x.left t.underway ≤ n) :
      (w.run (List.replicate n (.step j))).Halted j since bound := by
    induction n generalizing w with
    | zero =>
      rcases hw.winds with h | ⟨t, x, h⟩
      · exact h
      · exact absurd (x.left_pos t.underway) (Nat.not_lt.mpr (hn t x h))
    | succ n ih =>
      rw [List.replicate_succ, run_cons]
      rcases hw.winds with h | ⟨t, x, h⟩
      · exact (h.act _).run _
      have hnow := w.act_now (a := .step j) fun _ => Act.noConfusion
      rcases h.step hw.supplied hw.paced hfits with h' | ⟨t', x', h', hleft⟩
      · exact h'.run _
      refine ih (hw.act trivial trivial trivial Act.noConfusion hfits) (hnow ▸ hle)
        (hnow ▸ hfits) fun t'' x'' h'' => ?_
      cases h'.task.symm.trans h''.task
      cases h'.process.symm.trans h''.process
      have := hleft hle
      have := hn t x h
      omega
  exact within 5 hw hle hfits fun t x _ => x.left_le t.underway

end Closing

/-- Task `j` ends well between two instants, and not later; at the second of them its own next steps
bring it there. -/
structure HaltsBy (w : World) (j since bound : Nat) : Prop where
  well : ∀ ending, w.ending? j = some ending → w.Halted j since bound
  passed : bound < w.now → w.Halted j since bound
  soon : bound ≤ w.now → (w.run (List.replicate 5 (.step j))).Halted j since bound

lemma Closing.haltsBy (hw : w.Closing j lease since bound)
    (hfits : w.now + lease.ttl.nanos < Instant.limit) : w.HaltsBy j since bound where
  well ending hending := by
    rcases hw.winds with h | ⟨t, x, h⟩
    · exact h
    · obtain ⟨t', ht', hend⟩ := ending?_eq_some.mp hending
      cases h.task.symm.trans ht'
      cases h.running.symm.trans hend
  passed hlt := by
    rcases hw.winds with h | ⟨t, x, h⟩
    · exact h
    · exact absurd h.early (Nat.not_le.mpr hlt)
  soon hle := hw.halts hle hfits

/-- A renewal that runs when its lease is given up is to end by its last instant. -/
lemma closing_of_renewal (hw : w.Supplied Plan.Sturdy) (hp : w.Paced j)
    (hx : w.renewal? j = some x)
    (hs : x.lease.stop ∈ w.fired) (hpositive : 0 < x.interval.nanos)
    (hfits : w.now + x.interval.nanos < Instant.limit) :
    w.Closing j x.lease w.now (x.lastInstant w.now) := by
  obtain ⟨t, ht, hend, hprocess⟩ := renewal?_eq_some.mp hx
  refine ⟨hw, hp, .inr ⟨t, x, ht, hend, hprocess, rfl, hs, Nat.le_refl _, ?_,
    fun _ => ⟨hpositive, hfits⟩, fun due deadline hstage => ?_⟩⟩
  · have hon := hp t x ht hend hprocess
    generalize hstage : x.stage = stage at hon
    cases hon with
    | fresh idle | ticking due idle early | repeating due idle whole =>
      exact Nat.le_of_eq (Renewal.lastInstant_of_idle (by simp [hstage])).symm
    | asking due time u underway sharp frank asked whole since early =>
      rw [Renewal.lastInstant_of_asking hstage]
      exact early
  · exact Nat.le_of_eq (Renewal.lastInstant_of_asking hstage).symm

/-- **Giving a lease up stops its renewals.** Take any run, with a store that may delay, lose,
refuse or answer requests as it likes but does not break down, and let a task take the first step of
an unlock in it. From then on the signal of the lease has fired, and the renewals that listen to it
put nothing more to the store, whatever becomes of the unlock. And every renewal that was running,
with a positive interval, ends well if it is neither aborted nor kept waiting: at once if it had no
refresh under way, and otherwise not after the deadline of the refresh, which is its timeout from
when it was asked for, rounded up to a whole millisecond. -/
theorem unlock_stops_renewals {plans : Plans} {before after : List Act}
    (hplans : plans.All Plan.Sturdy)
    (hacts : ∀ a ∈ before ++ after, a.Supplies Plan.Sturdy ∧ a.StartsFresh)
    (hunlock : ((start plans).run before).errand? i = some (.unlock lease)) :
    let w := ((start plans).run before).act (.step i)
    let v := w.run after
    v.hasFired (some lease.stop) = true ∧
    (∀ k t, v.tasks[k]? = some t → t.process.Listens lease.stop →
      requestsOf k v.history = requestsOf k w.history) ∧
    ∀ j x, w.renewal? j = some x → x.lease.stop = lease.stop → 0 < x.interval.nanos →
      (start plans).Heeded j (before ++ .step i :: after) → .abort j ∉ after →
      v.now + x.interval.nanos < Instant.limit → v.now + x.lease.ttl.nanos < Instant.limit →
      (∀ due deadline, x.stage = .asking due deadline → ∃ time,
        askedAt? j w.history = some time ∧ deadline = Instant.timer time x.timeout) ∧
      v.HaltsBy j w.now (x.lastInstant w.now) := by
  intro w v
  obtain ⟨hbefore, hafter⟩ := List.forall_mem_append.mp hacts
  have hfired : lease.stop ∈ w.fired := fired_of_unlock hunlock
  have hsupplied : w.Supplied Plan.Sturdy := by
    have hrun := (supplied_start hplans).run Deed.noConfusion fun a ha => (hbefore a ha).1
    exact hrun.act Deed.noConfusion trivial
  refine ⟨?_, fun k t ht hlistens => ?_, fun j x hx hstop hpositive hheeded habort hint httl => ?_⟩
  · have hstill : lease.stop ∈ v.fired := mem_fired_run hfired
    simpa [hasFired] using hstill
  · refine requestsOf_run hfired fun t' ht' => ?_
    cases ht.symm.trans ht'
    exact hlistens
  · obtain ⟨hheeds, hheeds'⟩ := heeded_append.mp hheeded
    have hpaced : w.Paced j :=
      ((paced_start plans j).run (fun a ha => (hbefore a ha).2) hheeds).act trivial trivial
    have hle : w.now ≤ v.now := w.now_le_run after
    have hclosing : w.Closing j x.lease w.now (x.lastInstant w.now) :=
      closing_of_renewal hsupplied hpaced hx (hstop ▸ hfired) hpositive (by omega)
    refine ⟨fun due deadline hstage => ?_, ?_⟩
    · obtain ⟨t, ht, hend, hprocess⟩ := renewal?_eq_some.mp hx
      have hon := hpaced t x ht hend hprocess
      rw [hstage] at hon
      cases hon with
      | asking _ time u underway sharp frank asked whole since early => exact ⟨time, asked, rfl⟩
    · exact (hclosing.run hafter hheeds'.2 habort httl).haltsBy httl

/-- The refresh under way and the release get no answer. The renewal that waits for its tick ends at
once, the other one at its deadline. -/
theorem unlock_stops_renewals_without_answers :
    let lease : Lease := ⟨⟨"k", .minted 1, .ofMillis 50⟩, 0⟩
    let plans : Plans := ⟨[], [⟨none, .hang, none⟩], [⟨none, .hang, none⟩]⟩
    let before := [.spawn (.errand (.attempt "k" (.ofMillis 50))), .step 0, .step 0, .step 0,
      .spawn (.renewal (.start lease (.ofMillis 10) (.ofNanos 24500000))), .step 1,
      .spawn (.renewal (.start lease (.ofMillis 30) (.ofMillis 5))), .step 2,
      .advance 10000000, .step 1, .advance 2000000, .spawn (.errand (.unlock lease))]
    let after := [.step 3, .step 2, .advance 23000000]
    let w := ((start plans).run before).act (.step 3)
    let v := w.run after
    w.renewal? 1 = some ⟨lease, .ofMillis 10, .ofNanos 24500000, .asking 20000000 35000000⟩ ∧
    w.renewal? 2 = some ⟨lease, .ofMillis 30, .ofMillis 5, .ticking 30000000⟩ ∧
    v.HaltsBy 1 12000000 35000000 ∧ v.HaltsBy 2 12000000 12000000 ∧
    v.now = 35000000 ∧ v.ending? 1 = none := by
  intro lease plans before after w v
  have hplans : plans.All Plan.Sturdy := by
    simp [plans, Plans.All, Plan.Sturdy]
  have hacts : ∀ a ∈ before ++ after, a.Supplies Plan.Sturdy ∧ a.StartsFresh := by
    simp [before, after, Act.Supplies, Act.StartsFresh, Renewal.start]
  have hunlock : ((start plans).run before).errand? 3 = some (.unlock lease) := by decide
  have hone : w.renewal? 1 =
      some ⟨lease, .ofMillis 10, .ofNanos 24500000, .asking 20000000 35000000⟩ := by decide
  have htwo : w.renewal? 2 = some ⟨lease, .ofMillis 30, .ofMillis 5, .ticking 30000000⟩ := by
    decide
  obtain ⟨-, -, hhalts⟩ := unlock_stops_renewals hplans hacts hunlock
  have hfirst : v.HaltsBy 1 w.now 35000000 := (hhalts 1 _ hone rfl (by decide) (by decide)
    (by simp [after]) (by decide) (by decide)).2
  have hsecond : v.HaltsBy 2 w.now w.now := (hhalts 2 _ htwo rfl (by decide) (by decide)
    (by simp [after]) (by decide) (by decide)).2
  have hnow : w.now = 12000000 := by decide
  rw [hnow] at hfirst hsecond
  exact ⟨hone, htwo, hfirst, hsecond, by decide, by decide⟩

end World
end LeaseLock
