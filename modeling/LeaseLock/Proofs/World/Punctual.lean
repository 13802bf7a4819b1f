import Mathlib.Algebra.Ring.Nat
import Mathlib.Tactic.Common
import LeaseLock.Proofs.World.Fitting
import LeaseLock.Proofs.World.Halt

/-!
When a call that tries for a key is over.

Every deadline and every wait of an acquisition takes as many whole milliseconds as it takes to
round it up, and no attempt goes on after its deadline. So an acquisition that is not kept waiting
has a last instant, whatever the store does: `Punctual` says how the time that is left goes with the
intervals that its strategy has left, and `left` counts the steps that it can still take.
-/

namespace LeaseLock

/-! ### The time that attempts take -/

/-- How long an attempt can take, and one more after each of these intervals. -/
def allowance (timeout : Span) (ds : List Span) : Nat :=
  (ds.length + 1) * Instant.roundUp timeout.nanos +
    (ds.map fun d => Instant.roundUp d.nanos).sum

lemma allowance_cons (timeout d : Span) (ds : List Span) : allowance timeout (d :: ds) =
    Instant.roundUp timeout.nanos + Instant.roundUp d.nanos + allowance timeout ds := by
  simp only [allowance, List.length_cons, List.map_cons, List.sum_cons]
  generalize Instant.roundUp timeout.nanos = m
  calc (ds.length + 1 + 1) * m + (Instant.roundUp d.nanos +
        (ds.map fun d => Instant.roundUp d.nanos).sum)
      = (ds.length + 1) * m + m + (Instant.roundUp d.nanos +
        (ds.map fun d => Instant.roundUp d.nanos).sum) := by rw [Nat.succ_mul]
    _ = _ := by omega

lemma le_allowance (timeout : Span) (ds : List Span) :
    Instant.roundUp timeout.nanos ≤ allowance timeout ds :=
  Nat.le_trans (Nat.le_mul_of_pos_left _ (Nat.succ_pos _)) (Nat.le_add_right ..)

/-- Where an acquisition can stand that has these intervals left and is to be over by `bound`. -/
inductive Acquisition.Punctual (a : Acquisition) (ds : List Span) (bound now : Nat) : Prop
  | ready (stage : a.stage = .ready) (whole : 1000000 ∣ now)
      (fits : now + allowance a.timeout ds ≤ bound)
  | asking (token : Token) (deadline : Nat) (stage : a.stage = .asking token deadline)
      (whole : 1000000 ∣ deadline) (early : now ≤ deadline)
      (fits : deadline + allowance a.timeout ds ≤ bound + Instant.roundUp a.timeout.nanos)
  | resting (wake : Nat) (stage : a.stage = .resting wake) (whole : 1000000 ∣ wake)
      (early : now ≤ wake) (fits : wake + allowance a.timeout ds ≤ bound)

/-- How many steps an acquisition can still take, if it waits at most `waits` times more. -/
def Acquisition.left (a : Acquisition) (waits : Nat) (u : Option Underway) : Nat :=
  6 * waits +
    match a.stage with
    | .resting _ => 6
    | .ready => 5
    | .asking .. => 1 + u.elim 0 (·.stage.left)

/-- A request that can but wait has an instant before it that it waits for. -/
lemma Underway.lt_of_rest {u : Underway} {now wake : Nat} {m : Memory} (h : u.step now m = none)
    (hwake : u.wake? = some wake) : now < wake := by
  unfold Underway.wake? at hwake
  split at hwake
  · next due hstage =>
    cases hwake
    simpa [Underway.step, hstage] using h
  · next due response hstage =>
    cases hwake
    simpa [Underway.step, hstage] using h
  · cases hwake
  · cases hwake

namespace Acquisition

variable {a : Acquisition} {ds : List Span} {bound now waits : Nat} {g : Glimpse}
  {token : Token} {deadline : Nat}

/-! ### The steps that are left -/

lemma left_passes {u u' : Underway} {m : Memory} (h : u.Passes now m u')
    (stage : a.stage = .asking token deadline) :
    a.left waits (some u') < a.left waits (some u) := by
  have hleft := h.left
  simp only [left, stage, Option.elim_some]
  omega

lemma left_ask (stage : a.stage = .ready) (attempts : UInt32) (u : Underway) :
    left { a with attempts, stage := .asking token deadline } waits (some u) <
      a.left waits none := by
  have hle := u.stage.left_le
  simp only [left, stage, Option.elim_some]
  omega

lemma left_rest (stage : a.stage = .asking token deadline) (s : Retry.Strategy) (wake : Nat)
    (u : Option Underway) : left { a with strategy := s, stage := .resting wake } waits none <
      a.left (waits + 1) u := by
  simp only [left, stage]
  omega

lemma left_wake {wake : Nat} (stage : a.stage = .resting wake) :
    left { a with stage := .ready } waits none < a.left waits none := by
  simp only [left, stage]
  omega

/-! ### The time that is left -/

lemma Punctual.now_le (h : a.Punctual ds bound now) : now ≤ bound := by
  have := le_allowance a.timeout ds
  cases h <;> omega

/-- An acquisition that waits does nothing. -/
lemma turn_of_rest (h : a.Took g .rest) : a.turn g = .rest := by
  cases h with
  | waited token deadline fired stage response early =>
    simp [turn, fired, stage, response, Nat.not_le.mpr early]
  | slept wake fired stage early => simp [turn, fired, stage, Nat.not_le.mpr early]

/-- The next attempt can take as long as it may. -/
lemma Punctual.ask (h : a.Punctual ds bound now) (stage : a.stage = .ready) (token : Token)
    (attempts : UInt32) : Punctual { a with
      attempts, stage := .asking token (Instant.timer now a.timeout) } ds bound now := by
  cases h with
  | ready _ whole fits =>
    refine .asking token _ rfl (Instant.dvd_roundUp _) (Instant.le_timer ..) ?_
    have htimer : Instant.timer now a.timeout = now + Instant.roundUp a.timeout.nanos :=
      Instant.roundUp_add whole _
    simp only [htimer]
    omega
  | asking _ _ stage' | resting _ stage' => cases stage.symm.trans stage'

/-- A wait is counted from a deadline, at the latest. -/
lemma Punctual.rest {d : Span} (h : a.Punctual (d :: ds) bound now)
    (stage : a.stage = .asking token deadline) (s : Retry.Strategy) :
    Punctual { a with strategy := s, stage := .resting (Instant.timer now d) } ds bound now := by
  cases h with
  | asking token' deadline' stage' whole early fits =>
    refine .resting _ rfl (Instant.dvd_roundUp _) (Instant.le_timer ..) ?_
    have htimer : Instant.timer now d ≤ deadline' + Instant.roundUp d.nanos :=
      Nat.le_trans (Instant.timer_mono early d) (Nat.le_of_eq (Instant.roundUp_add whole _))
    rw [allowance_cons] at fits
    simp only
    omega
  | ready stage' | resting _ stage' => cases stage.symm.trans stage'

/-- A wait is over at its instant. -/
lemma Punctual.wake (h : a.Punctual ds bound now) {wake : Nat} (stage : a.stage = .resting wake)
    (hdue : wake ≤ now) : Punctual { a with stage := .ready } ds bound now := by
  cases h with
  | resting wake' stage' whole early fits =>
    cases stage.symm.trans stage'
    obtain rfl := Nat.le_antisymm early hdue
    exact .ready rfl whole fits
  | ready stage' | asking _ _ stage' => cases stage.symm.trans stage'

/-- The clock goes on, but not past what the acquisition waits for. -/
lemma Punctual.later (h : a.Punctual ds bound now) (hrest : a.stage ≠ .ready) {later : Nat}
    (hwake : ∀ wake ∈ a.wake?, later ≤ wake) : a.Punctual ds bound later := by
  cases h with
  | ready stage => exact absurd stage hrest
  | asking token deadline stage whole early fits =>
    exact .asking token deadline stage whole (hwake deadline (by simp [wake?, stage])) fits
  | resting wake stage whole early fits =>
    exact .resting wake stage whole (hwake wake (by simp [wake?, stage])) fits

end Acquisition

/-- Whether a call has come back, with a lease or with an error. -/
def Ending.Returns : Ending → Prop
  | .leased _ | .failed _ => True
  | .done | .broken _ | .aborted => False

namespace World

variable {w w' : World} {i bound : Nat} {a : Acquisition} {u : Option Underway} {ds : List Span}
  {b : Act}

/-- Whether task `i` has ended not later than at `bound`, by returning or with the store. -/
def EndedBy (w : World) (i bound : Nat) : Prop :=
  ∃ time ending, w.ending? i = some ending ∧ .ended time i ending ∈ w.history ∧ time ≤ bound ∧
    (ending.Returns ∨ ∃ text, ending = .broken text)

lemma EndedBy.act (h : w.EndedBy i bound) (b : Act) : (w.act b).EndedBy i bound := by
  obtain ⟨time, ending, hending, hm, hrest⟩ := h
  obtain ⟨t, ht, hend⟩ := ending?_eq_some.mp hending
  exact ⟨time, ending, ending?_eq_some.mpr ⟨t, w.ended_act b ht hend, hend⟩,
    mem_history_act w b hm, hrest⟩

/-- Whether the own steps of task `i`, and time, can bring something about. -/
def Reaches (w : World) (i : Nat) (Q : World → Prop) : Prop :=
  ∃ rest, (∀ b ∈ rest, b = .step i ∨ ∃ x, b = .advance x) ∧ w.Heeded i rest ∧ Q (w.run rest)

lemma Reaches.here {Q : World → Prop} (h : Q w) : w.Reaches i Q :=
  ⟨[], (fun b hb => by cases hb), trivial, h⟩

/-- They do if each step that the task can take is one less to take, until one brings it about, and
there is nothing to wait for after `bound`. -/
lemma reaches_of_steps {P : World → Nat → Prop} {Q : World → Prop}
    (hnow : ∀ w n, P w n → w.now ≤ bound)
    (hstep : ∀ w n, P w n → (w.Heeds i (.advance 1) ∧ P (w.act (.advance 1)) n) ∨
      Q (w.act (.step i)) ∨ ∃ m < n, P (w.act (.step i)) m)
    {w : World} {n : Nat} (h : P w n) : w.Reaches i Q := by
  have within (k : Nat) {w : World} {n : Nat} (h : P w n) (hk : n + (bound - w.now) < k) :
      w.Reaches i Q := by
    induction k generalizing w n with
    | zero => exact absurd hk (Nat.not_lt_zero _)
    | succ k ih =>
      rcases hstep w n h with ⟨hheeds, hlater⟩ | hreached | ⟨m, hm, hless⟩
      · have hle' : w.now + 1 ≤ bound := hnow _ _ hlater
        obtain ⟨rest, hacts, hheeded, hreached⟩ := ih hlater (by
          have hact : (w.act (.advance 1)).now = w.now + 1 := rfl
          omega)
        exact ⟨.advance 1 :: rest, List.forall_mem_cons.mpr ⟨.inr ⟨1, rfl⟩, hacts⟩,
          ⟨hheeds, hheeded⟩, hreached⟩
      · exact ⟨[.step i], by simp, ⟨trivial, trivial⟩, hreached⟩
      · obtain ⟨rest, hacts, hheeded, hreached⟩ := ih hless (by
          have hact : (w.act (.step i)).now = w.now := w.act_now fun _ => Act.noConfusion
          omega)
        exact ⟨.step i :: rest, List.forall_mem_cons.mpr ⟨.inl rfl, hacts⟩, ⟨trivial, hheeded⟩,
          hreached⟩
  exact within _ h (Nat.lt_succ_self _)

/-- An acquisition that waits can take no step. -/
lemma step_of_rested {t : Task} (ht : w.tasks[i]? = some t) (hend : t.ending = none)
    (hp : t.process = .acquisition a) (hf : w.hasFired a.signal = false)
    (settled : w.moveRequest i t = none) (took : a.Took (w.glimpse t a.signal) .rest) :
    w.step i = none := by
  simp [World.step, ht, hend, heedsSignalFirst, hp, hf, settled, turn,
    Acquisition.turn_of_rest took, perform]

/-- An acquisition that can take no step has time to, up to the next instant. -/
lemma heeds_of_rest {t : Task} (ht : w.tasks[i]? = some t) (hend : t.ending = none)
    (hp : t.process = .acquisition a) (hf : w.hasFired a.signal = false) (hstep : w.step i = none) :
    w.Heeds i (.advance 1) := by
  obtain ⟨settled, took⟩ := tried_rest ht hend hp hf hstep
  refine ⟨hstep, fun t' ht' wake hwake => ?_⟩
  cases ht.symm.trans ht'
  simp only [wakes, hend, hp, Option.isSome_none, Bool.false_eq_true, if_false, List.mem_append,
    Option.mem_toList] at hwake
  rcases hwake with hcall | hrequest
  · cases took with
    | waited token deadline fired stage response early =>
      obtain rfl : deadline = wake := by simpa [Acquisition.wake?, stage] using hcall
      exact early
    | slept due fired stage early =>
      obtain rfl : due = wake := by simpa [Acquisition.wake?, stage] using hcall
      exact early
  · obtain ⟨x, hx, hwake⟩ := Option.bind_eq_some_iff.mp hrequest
    exact Underway.lt_of_rest (rests_of_settled settled hx) hwake

/-- Task `i` tries for a key with no signal to stop it, and is to be over by `bound`. -/
structure Hurries (w : World) (i bound : Nat) (ds : List Span) (a : Acquisition)
    (u : Option Underway) : Prop where
  task : w.tasks[i]? = some ⟨.acquisition a, u, none, none⟩
  unstopped : a.signal = none
  strategy : a.strategy.HandsOut ds
  asking : u.isSome = true → ∃ token deadline, a.stage = .asking token deadline
  punctual : a.Punctual ds bound w.now

namespace Hurries

lemma unfired (h : w.Hurries i bound ds a u) : w.hasFired a.signal = false := by
  rw [h.unstopped]
  rfl

/-- Only an attempt has a request under way. -/
lemma idle (h : w.Hurries i bound ds a u) {stage : Acquisition.Stage} (hstage : a.stage = stage)
    (hne : ∀ token deadline, stage ≠ .asking token deadline) : u = none := by
  cases u with
  | none => rfl
  | some x =>
    obtain ⟨token, deadline, hasking⟩ := h.asking rfl
    exact absurd (hstage.symm.trans hasking) (hne token deadline)

/-- The acquisition has something else to do. -/
lemma set (h : w.Hurries i bound ds a u) {b : Acquisition} {v : Option Underway} {es : List Span}
    (tasks : w'.tasks = w.tasks.set i ⟨.acquisition b, v, none, none⟩) (now : w'.now = w.now)
    (unstopped : b.signal = a.signal) (strategy : b.strategy.HandsOut es)
    (asking : v.isSome = true → ∃ token deadline, b.stage = .asking token deadline)
    (punctual : b.Punctual es bound w.now) : w'.Hurries i bound es b v where
  task := by rw [tasks, List.getElem?_set_self (List.getElem?_eq_some_iff.mp h.task).1]
  unstopped := unstopped.trans h.unstopped
  strategy := strategy
  asking := asking
  punctual := now ▸ punctual

/-- Each step ends the acquisition or brings its end closer, unless there is none to take. -/
lemma step (h : w.Hurries i bound ds a u) : w.step i = none ∨ (w.act (.step i)).EndedBy i bound ∨
    ∃ ds' a' u', (w.act (.step i)).Hurries i bound ds' a' u' ∧
      a'.left ds'.length u' < a.left ds.length u := by
  have htried := tried_act h.task rfl rfl h.unfired
  have hnow : (w.act (.step i)).now = w.now := w.act_now fun _ => Act.noConfusion
  generalize w.act (.step i) = v at htried hnow ⊢
  cases htried with
  | rested settled took => exact .inl (step_of_rested h.task rfl rfl h.unfired settled took)
  | moved v moved =>
    obtain ⟨x, x', hx, hpasses, htasks, -⟩ := moved.passes
    cases hx
    obtain ⟨token, deadline, stage⟩ := h.asking rfl
    exact .inr (.inr ⟨ds, a, some x', h.set htasks hnow rfl h.strategy
      (fun _ => ⟨token, deadline, stage⟩) h.punctual, Acquisition.left_passes hpasses stage⟩)
  | went b settled took =>
    right; right
    cases took with
    | retried token deadline e d s fired stage fails retryable next =>
      obtain ⟨rest, rfl, hrest⟩ := h.strategy.next next
      exact ⟨rest, _, none, h.set rfl hnow rfl hrest Bool.noConfusion (h.punctual.rest stage s),
        Acquisition.left_rest stage s _ u⟩
    | woke wake fired stage hdue =>
      obtain rfl := h.idle stage fun _ _ => Acquisition.Stage.noConfusion
      exact ⟨ds, _, none, h.set rfl hnow rfl h.strategy Bool.noConfusion
        (h.punctual.wake stage hdue), Acquisition.left_wake stage⟩
  | asked b r took =>
    right; right
    cases took with
    | asked fired stage =>
      obtain rfl := h.idle stage fun _ _ => Acquisition.Stage.noConfusion
      exact ⟨ds, _, _, h.set rfl hnow rfl h.strategy (fun _ => ⟨_, _, rfl⟩)
        (h.punctual.ask stage _ _), Acquisition.left_ask stage _ _⟩
  | ended v o ending settled took ends tasks history =>
    right; left
    refine ⟨w.now, ending, ?_, ?_, h.punctual.now_le, ?_⟩
    · rw [ending?, tasks, List.getElem?_set_self (List.getElem?_eq_some_iff.mp h.task).1]
      rfl
    · rw [history]
      exact List.mem_cons_self
    · rcases o with grant | e | text <;> cases ends
      · exact .inl trivial
      · exact .inl trivial
      · exact .inr ⟨text, rfl⟩

/-- If the clock goes on without keeping the acquisition waiting, it does not come too late. -/
lemma advance (h : w.Hurries i bound ds a u) {x : Nat} (hheeds : w.Heeds i (.advance x)) :
    (w.act (.advance x)).Hurries i bound ds a u := by
  obtain ⟨hstep, hwakes⟩ := hheeds
  obtain ⟨-, took⟩ := tried_rest h.task rfl rfl h.unfired hstep
  refine ⟨h.task, h.unstopped, h.strategy, h.asking, h.punctual.later ?_ fun wake hwake => ?_⟩
  · cases took with
    | waited token deadline fired stage => exact stage ▸ Acquisition.Stage.noConfusion
    | slept wake fired stage => exact stage ▸ Acquisition.Stage.noConfusion
  · refine hwakes _ h.task wake ?_
    simp [wakes, Option.mem_def.mp hwake]

/-- What happens elsewhere is none of its business. -/
lemma other (h : w.Hurries i bound ds a u) (hstep : b ≠ .step i) (habort : b ≠ .abort i)
    (hadvance : ∀ x, b ≠ .advance x) : (w.act b).Hurries i bound ds a u :=
  ⟨other_act h.task hstep habort, h.unstopped, h.strategy, h.asking,
    (w.act_now hadvance).symm ▸ h.punctual⟩

end Hurries

/-- Task `i` is over, or is to be over by `bound`. -/
def Hastens (w : World) (i bound : Nat) : Prop :=
  w.EndedBy i bound ∨ ∃ ds a u, w.Hurries i bound ds a u

lemma Hastens.act (h : w.Hastens i bound) (hheeds : w.Heeds i b) (habort : b ≠ .abort i) :
    (w.act b).Hastens i bound := by
  rcases h with h | ⟨ds, a, u, h⟩
  · exact .inl (h.act b)
  cases b.view i with
  | advance x => exact .inr ⟨ds, a, u, h.advance hheeds⟩
  | own =>
    rcases h.step with hrests | hended | ⟨ds', a', u', h', -⟩
    · refine .inr ⟨ds, a, u, ?_⟩
      rwa [World.act, hrests]
    · exact .inl hended
    · exact .inr ⟨ds', a', u', h'⟩
  | other hstep hadvance => exact .inr ⟨ds, a, u, h.other hstep habort hadvance⟩

lemma Hastens.run {acts : List Act} (h : w.Hastens i bound) (hheeded : w.Heeded i acts)
    (habort : .abort i ∉ acts) : (w.run acts).Hastens i bound := by
  induction acts generalizing w with
  | nil => exact h
  | cons b acts ih =>
    have hb : b ≠ .abort i := fun hb => habort (hb ▸ List.mem_cons_self)
    exact ih (h.act hheeded.1 hb) hheeded.2 fun hm => habort (List.mem_cons_of_mem b hm)

/-- Its own steps, and time, bring the end of the acquisition about. -/
lemma Hurries.ends (h : w.Hurries i bound ds a u) : w.Reaches i (·.EndedBy i bound) := by
  refine reaches_of_steps (P := fun w n => ∃ ds a u, w.Hurries i bound ds a u ∧
    a.left ds.length u = n) (fun w n ⟨_, _, _, h, _⟩ => h.punctual.now_le) ?_ ⟨ds, a, u, h, rfl⟩
  rintro w _ ⟨ds, a, u, h, rfl⟩
  rcases h.step with hrests | hended | ⟨ds', a', u', h', hleft⟩
  · have hheeds := heeds_of_rest h.task rfl rfl h.unfired hrests
    exact .inl ⟨hheeds, ds, a, u, h.advance hheeds, rfl⟩
  · exact .inr (.inl hended)
  · exact .inr (.inr ⟨_, hleft, ds', a', u', h', rfl⟩)

/-- Task `i` ends, and not later than at `bound`: if it has ended, it had by then; it has ended once
the clock has gone past that; and wherever it stands, its own steps and time bring it there. -/
structure EndsBy (w : World) (i bound : Nat) : Prop where
  early : ∀ ending, w.ending? i = some ending → w.EndedBy i bound
  passed : bound < w.now → w.EndedBy i bound
  soon : w.Reaches i (·.EndedBy i bound)

lemma Hastens.endsBy (h : w.Hastens i bound) : w.EndsBy i bound where
  early ending hending := by
    rcases h with h | ⟨ds, a, u, h⟩
    · exact h
    · rw [ending?, h.task] at hending
      cases hending
  passed hlt := by
    rcases h with h | ⟨ds, a, u, h⟩
    · exact h
    · exact absurd h.punctual.now_le (Nat.not_le.mpr hlt)
  soon := by
    rcases h with h | ⟨ds, a, u, h⟩
    · exact .here h
    · exact h.ends

/-- **A call that tries for a key is over in time, whatever the store does.** Start it at a whole
millisecond of any run, with a strategy that hands out the intervals `ds` and then gives up, and let
the run go on in any way in which the call is neither aborted nor kept waiting: the store may answer
what it likes, as late as it likes, or not at all. Then the call ends, and not later than one
timeout after its start and one more after each interval, each of these durations rounded up to
whole milliseconds. If the store does not break down, of itself or for want of an instant, it ends
with a lease or with an error. -/
theorem lock_returns_in_time (plans : Plans) (before acts : List Act) (key : String)
    (ttl timeout : Span) {strategy : Retry.Strategy} {ds : List Span}
    (hds : strategy.HandsOut ds) :
    let work : Acquisition := .start key ttl timeout strategy none
    let i := ((start plans).run before).tasks.length
    let w := ((start plans).run before).act (.spawn (.acquisition work))
    let v := w.run acts
    1000000 ∣ w.now → .abort i ∉ acts → w.Heeded i acts →
    v.EndsBy i (w.now + ((ds.length + 1) * Instant.roundUp timeout.nanos +
      (ds.map fun d => Instant.roundUp d.nanos).sum)) ∧
    (plans.All Plan.Sturdy → (∀ a ∈ before ++ acts, a.Supplies Plan.Sturdy) →
      v.now + ttl.nanos < Instant.limit →
      ∀ ending, v.ending? i = some ending → ending.Returns) := by
  intro work i w v hwhole habort hheeded
  have hcall : w.tasks[i]? = some ⟨.acquisition work, none, none, none⟩ :=
    List.getElem?_concat_length ..
  have hhurries : w.Hurries i (w.now + allowance timeout ds) ds work none :=
    ⟨hcall, rfl, hds, Bool.noConfusion, .ready rfl hwhole (Nat.le_refl _)⟩
  have hends : v.EndsBy i (w.now + allowance timeout ds) :=
    (Hastens.run (.inr ⟨_, _, _, hhurries⟩) hheeded habort).endsBy
  refine ⟨hends, fun hplans hacts hfits ending hending => ?_⟩
  obtain ⟨time, ending', hending', -, -, hreturns | ⟨text, rfl⟩⟩ := hends.early ending hending
  · cases hending.symm.trans hending'
    exact hreturns
  · obtain ⟨hbefore, hacts⟩ := List.forall_mem_append.mp hacts
    have hsupplied : w.Supplied Plan.Sturdy :=
      ((supplied_start hplans).run Deed.noConfusion hbefore).act Deed.noConfusion trivial
    obtain ⟨t, ht, hfit⟩ :=
      (Task.Fits.fresh (Process.within_start hds.lasts)).run hsupplied hcall hacts
    rw [ending?, ht, Option.bind_some] at hending'
    exact absurd (hfit.broken text hending') (Nat.not_le.mpr hfits)

/-- The store never answers, and the call takes all the time it may. -/
theorem lock_returns_in_time_without_answers :
    let hang : Plan := ⟨none, .hang, none⟩
    let plans : Plans := ⟨[hang, hang], [], []⟩
    let work : Acquisition :=
      .start "k" (.ofSecs 9) (.ofNanos 9500000) (.ofList [.ofNanos 2500000] .stop) none
    let acts := [.step 0, .advance 10000000, .step 0, .advance 3000000, .step 0, .step 0,
      .advance 10000000, .step 0]
    let v := ((start plans).act (.spawn (.acquisition work))).run acts
    v.EndsBy 0 23000000 ∧ .ended 23000000 0 (.failed (.retriesExhausted 2 .timeout)) ∈ v.history ∧
      (Ending.failed (.retriesExhausted 2 .timeout)).Returns := by
  intro hang plans work acts v
  obtain ⟨hends, hreturns⟩ := lock_returns_in_time plans [] acts "k" (.ofSecs 9) (.ofNanos 9500000)
    (Retry.Strategy.handsOut_ofList [.ofNanos 2500000]) (by decide) (by simp [acts, start])
    (by decide)
  have hbound : 0 + ((1 + 1) * Instant.roundUp 9500000 + [Instant.roundUp 2500000].sum) =
      23000000 := by decide
  refine ⟨?_, by decide, hreturns (by simp [plans, hang, Plans.All, Plan.Sturdy])
    (by simp [acts, Act.Supplies]) (by decide) _ (by decide)⟩
  rw [← hbound]
  exact hends

end World
end LeaseLock
