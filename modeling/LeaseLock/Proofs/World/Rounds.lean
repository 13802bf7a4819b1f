import Mathlib.Data.List.Induction
import Mathlib.Tactic.Common
import LeaseLock.Proofs.World.Ledger

/-!
The rounds of a renewal.

A round is a refresh of a renewal in a run, from the step by which it is put to the store to the
step by which the renewal takes note of how it went. `Rounds` lists the rounds after which the
renewal goes on, each of which was granted or came too late. At every point of a run a renewal
`Renews` after such rounds or is `Closed`, and `Closes` lists the ways in which it can have ended.
-/

namespace LeaseLock

open World (Act)

/-- The request that renews a lease. -/
def Lease.renewal (lease : Lease) : Request := .refresh lease.key lease.token lease.ttl

/-- What the refresh failed with, if it did. -/
def Trial.refreshFailure? (y : Trial) : Option LockError :=
  match y.response with
  | none => some .timeout
  | some (.granted false) => some .notHeld
  | some (.failed e) => some e
  | some (.granted true) | some (.broken _) => none

/-- Whether the refresh renewed the lease, or it is not known because it came too late. -/
def Trial.Bearable (y : Trial) : Prop :=
  y.response = some (.granted true) ∨ ∃ e, y.refreshFailure? = some e ∧ e.isTimeout = true

/-- Whether a renewal at a stage may begin a refresh at `now`, and when the next tick is due
then. -/
inductive Renewal.Calls (interval : Span) (now : Nat) : Renewal.Stage → Nat → Prop
  | ticked (due : Nat) (hdue : Instant.roundUp due ≤ now) :
      Calls interval now (.ticking due) (Renewal.nextDue interval due now)
  | repeated (due : Nat) : Calls interval now (.repeating due) due

namespace World

/-- The plan for a refresh. -/
def refreshPlan (w : World) : Plan := w.plans.refresh.headD .plain

section

variable (v : World) (x : Renewal) (j : Nat)

/-- Whether task `j` begins a refresh after the acts `before` of a run, while the signal of the
lease has not fired. The renewal has gone on to a stage by the acts `point`, and with the refresh
under way the next tick is due at `due`. -/
structure Opens (stage : Renewal.Stage) (point : List Act) (due : Nat) (before : List Act) :
    Prop where
  after : point <+: before
  calls : Renewal.Calls x.interval (v.run before).now stage due
  unfired : x.lease.stop ∉ (v.run before).fired
  asks : (v.run (before ++ [.step j])).history =
    .asked (v.run before).now j x.lease.renewal :: (v.run before).history

/-- Whether task `j` makes the refresh `y` in a run: its response is what was said to it, no matter
when, or its deadline is over without one. -/
structure Round (stage : Renewal.Stage) (point : List Act) (due : Nat) (y : Trial) : Prop where
  opens : v.Opens x j stage point due y.before
  since : y.before ++ [.step j] <+: y.upto
  said : ∀ response, y.response = some response →
    (v.run y.upto).Said j False (v.run y.before).now x.lease.renewal
      (v.run y.before).refreshPlan response
  late : y.response = none → Instant.timer (v.run y.before).now x.timeout ≤ (v.run y.upto).now

/-- The rounds of a renewal after which it goes on, the latest first. The indices are the stage to
which it goes on and the acts up to its last step. -/
inductive Rounds : List Trial → Renewal.Stage → List Act → Prop
  | fresh : Rounds [] .fresh []
  | begun (before : List Act)
      (after : Instant.after? (v.run before).now x.interval =
        some ((v.run before).now + x.interval.nanos)) :
      Rounds [] (.ticking ((v.run before).now + x.interval.nanos)) (before ++ [.step j])
  | granted {rounds : List Trial} {stage : Renewal.Stage} {due : Nat} {point : List Act} (y : Trial)
      (earlier : Rounds rounds stage point) (round : v.Round x j stage point due y)
      (response : y.response = some (.granted true)) :
      Rounds (y :: rounds) (.ticking due) (y.upto ++ [.step j])
  | late {rounds : List Trial} {stage : Renewal.Stage} {due : Nat} {point : List Act} (y : Trial)
      (e : LockError) (earlier : Rounds rounds stage point)
      (round : v.Round x j stage point due y) (failure : y.refreshFailure? = some e)
      (timeout : e.isTimeout = true) :
      Rounds (y :: rounds) (.repeating due) (y.upto ++ [.step j])

/-- Whether a renewal has a refresh under way that it began after the acts `before`. -/
structure Refreshing (acts : List Act) (rounds : List Trial) (stage : Renewal.Stage)
    (point before : List Act) (due : Nat) (u : Underway) : Prop where
  task : (v.run acts).tasks[j]? = some ⟨.renewal { x with
    stage := .asking due (Instant.timer (v.run before).now x.timeout) }, some u, none, none⟩
  requests : requestsOf j (v.run acts).history =
    List.replicate (rounds.length + 1) x.lease.renewal
  opens : v.Opens x j stage point due before
  since : before ++ [.step j] <+: acts
  request : u.request = x.lease.renewal
  plan : u.plan = (v.run before).refreshPlan
  course : (v.run acts).Course j False (v.run before).now u

/-- Where a renewal is that is not over: between two rounds, or with a refresh under way. -/
inductive Renews (acts : List Act) (rounds : List Trial) (stage : Renewal.Stage)
    (point : List Act) : Prop
  | idle (task : (v.run acts).tasks[j]? = some ⟨.renewal { x with stage }, none, none, none⟩)
      (requests : requestsOf j (v.run acts).history =
        List.replicate rounds.length x.lease.renewal)
      (since : point <+: acts)
  | asking (before : List Act) (due : Nat) (u : Underway)
      (refreshes : v.Refreshing x j acts rounds stage point before due u)

/-- Every way in which a renewal can end after these rounds: all of its rounds, with the one more
that it may have made, and the acts up to the step by which it ends. -/
inductive Closes (rounds : List Trial) (stage : Renewal.Stage) (point : List Act) :
    List Trial → List Act → Ending → Prop
  | invalid (upto : List Act) (begins : stage = .fresh) (zero : x.interval.nanos = 0) :
      Closes rounds stage point rounds upto (.failed (.invalidConfig (.interval x.interval)))
  | overflowed (upto : List Act) (begins : stage = .fresh)
      (full : Instant.limit ≤ (v.run upto).now + x.interval.nanos) :
      Closes rounds stage point rounds upto (.broken Instant.overflowText)
  | stopped (upto : List Act) (fired : x.lease.stop ∈ (v.run upto).fired) :
      Closes rounds stage point rounds upto .done
  | excused {due : Nat} (y : Trial) (e : LockError) (round : v.Round x j stage point due y)
      (failure : y.refreshFailure? = some e) (final : e.isTimeout = false)
      (fired : x.lease.stop ∈ (v.run y.upto).fired) :
      Closes rounds stage point (y :: rounds) y.upto .done
  | failed {due : Nat} (y : Trial) (e : LockError) (round : v.Round x j stage point due y)
      (failure : y.refreshFailure? = some e) (final : e.isTimeout = false)
      (unfired : x.lease.stop ∉ (v.run y.upto).fired) :
      Closes rounds stage point (y :: rounds) y.upto (.failed e)
  | broke {due : Nat} (y : Trial) (text : String) (round : v.Round x j stage point due y)
      (response : y.response = some (.broken text)) :
      Closes rounds stage point (y :: rounds) y.upto (.broken text)

/-- Whether a renewal is over. -/
structure Closed (acts : List Act) (rounds : List Trial) (stage : Renewal.Stage) (point : List Act)
    (all : List Trial) (upto : List Act) (ending : Ending) : Prop where
  closes : v.Closes x j rounds stage point all upto ending
  ends : (v.run (upto ++ [.step j])).history =
    .ended (v.run upto).now j ending :: (v.run upto).history
  since : upto ++ [.step j] <+: acts
  task : ∃ last, (v.run acts).tasks[j]? =
    some ⟨.renewal { x with stage := last }, none, none, some ending⟩
  requests : requestsOf j (v.run acts).history = List.replicate all.length x.lease.renewal

/-- How far a renewal has come. -/
inductive Tracked (acts : List Act) : Prop
  | pending {rounds : List Trial} {stage : Renewal.Stage} {point : List Act}
      (earlier : v.Rounds x j rounds stage point) (renews : v.Renews x j acts rounds stage point)
  | closed {rounds all : List Trial} {stage : Renewal.Stage} {point upto : List Act}
      {ending : Ending} (earlier : v.Rounds x j rounds stage point)
      (closed : v.Closed x j acts rounds stage point all upto ending)

end

variable {v w' : World} {x : Renewal} {j due deadline : Nat} {u : Underway} {stage : Renewal.Stage}
  {acts point before upto : List Act} {rounds all : List Trial} {ending : Ending} {e : LockError}
  {b : Act} {g : Glimpse}

/-! ### How a refresh goes -/

lemma refreshFailure?_of_fails (h : g.Fails .notHeld deadline e) (before upto : List Act) :
    (Trial.mk before upto g.response).refreshFailure? = some e ∧
      (g.response = none → deadline ≤ g.now) := by
  cases h with
  | refused response => simp [Trial.refreshFailure?, response]
  | failed e response => simp [Trial.refreshFailure?, response]
  | late response hdue => simp [Trial.refreshFailure?, response, hdue]

/-- A renewal that goes on has nothing under way. -/
lemma Rounds.not_asking (h : v.Rounds x j rounds stage point) : stage ≠ .asking due deadline := by
  cases h <;> exact Renewal.Stage.noConfusion

/-- A renewal goes on after rounds that were granted or came too late. -/
lemma Rounds.bearable (h : v.Rounds x j rounds stage point) : ∀ y ∈ rounds, y.Bearable := by
  induction h with
  | fresh | begun => exact fun y hy => by cases hy
  | granted y earlier round response ih => exact List.forall_mem_cons.mpr ⟨.inl response, ih⟩
  | late y e earlier round failure timeout ih =>
    exact List.forall_mem_cons.mpr ⟨.inr ⟨e, failure, timeout⟩, ih⟩

lemma unfired_of_glimpse {t : Task} {s : Signal} {w : World}
    (h : (w.glimpse t (some s)).fired = false) : s ∉ w.fired := by
  simpa [glimpse, hasFired] using h

lemma fired_of_glimpse {t : Task} {s : Signal} {w : World}
    (h : (w.glimpse t (some s)).fired = true) : s ∈ w.fired := by
  simpa [glimpse, hasFired] using h

/-- A task that ends is over. -/
lemma closed_of_finish (closes : v.Closes x j rounds stage point all acts ending)
    {stage' : Renewal.Stage} {u : Option Underway}
    (task : (v.run acts).tasks[j]? = some ⟨.renewal { x with stage := stage' }, u, none, none⟩)
    (requests : requestsOf j (v.run acts).history = List.replicate all.length x.lease.renewal)
    (hstep : (v.run acts).act (.step j) =
      (v.run acts).finish j ⟨.renewal { x with stage := stage' }, u, none, none⟩ ending) :
    v.Closed x j (acts ++ [.step j]) rounds stage point all acts ending := by
  have hlt := (List.getElem?_eq_some_iff.mp task).1
  have hrun : v.run (acts ++ [.step j]) =
      (v.run acts).finish j ⟨.renewal { x with stage := stage' }, u, none, none⟩ ending :=
    (run_snoc ..).trans hstep
  refine ⟨closes, ?_, List.prefix_rfl, ⟨stage', ?_⟩, ?_⟩
  · rw [hrun, finish_history]
  · rw [hrun, finish_tasks, List.getElem?_set_self hlt]
  · rw [hrun, requestsOf_other rfl (finish_history ..), requests]

/-- A renewal that turns to the store has a refresh under way. -/
lemma refreshing_of_ask (calls : Renewal.Calls x.interval (v.run acts).now stage due)
    (unfired : x.lease.stop ∉ (v.run acts).fired)
    (task : (v.run acts).tasks[j]? = some ⟨.renewal { x with stage }, none, none, none⟩)
    (requests : requestsOf j (v.run acts).history =
      List.replicate rounds.length x.lease.renewal) (since : point <+: acts)
    (hstep : (v.run acts).act (.step j) = (v.run acts).ask j ⟨.renewal { x with
      stage := .asking due (Instant.timer (v.run acts).now x.timeout) }, none, none, none⟩
        x.lease.renewal) :
    v.Renews x j (acts ++ [.step j]) rounds stage point := by
  have hlt := (List.getElem?_eq_some_iff.mp task).1
  have hrun := (run_snoc v acts (.step j)).trans hstep
  refine .asking acts due (.start x.lease.renewal (v.run acts).refreshPlan (v.run acts).now)
    ⟨?_, ?_, ⟨since, calls, unfired, ?_⟩, List.prefix_rfl, rfl, rfl, ?_⟩
  · rw [hrun]
    exact List.getElem?_set_self hlt
  · rw [hrun, ask_history, requestsOf_cons, requests, List.replicate_succ']
    simp [Event.asked?]
  · rw [hrun]
    rfl
  · rw [hrun]
    exact .start ..

/-- A renewal between two rounds goes on, begins a refresh, or ends. -/
lemma step_of_idle (earlier : v.Rounds x j rounds stage point)
    (task : (v.run acts).tasks[j]? = some ⟨.renewal { x with stage }, none, none, none⟩)
    (requests : requestsOf j (v.run acts).history =
      List.replicate rounds.length x.lease.renewal) (since : point <+: acts) :
    v.Tracked x j (acts ++ [.step j]) := by
  have hlt := (List.getElem?_eq_some_iff.mp task).1
  have hrenewed := renewed_act task rfl rfl
  have hrun := run_snoc v acts (.step j)
  generalize hw : (v.run acts).act (.step j) = w' at hrenewed hrun
  cases hrenewed with
  | rested took =>
    exact .pending earlier (.idle (hrun ▸ task) (hrun ▸ requests)
      (since.trans (List.prefix_append ..)))
  | moved w' moved =>
    obtain ⟨u, -, hu, -⟩ := moved.passes
    cases hu
  | went x' took =>
    cases took with
    | begun due fresh zero after =>
      obtain ⟨-, rfl⟩ := Instant.after?_eq_some.mp after
      cases earlier with
      | fresh =>
        refine .pending (.begun acts after) (.idle ?_ ?_ List.prefix_rfl)
        · rw [hrun]
          exact List.getElem?_set_self hlt
        · rw [hrun]
          exact requests
      | begun | granted | late => cases fresh
    | granted due deadline asking response | late due deadline e asking fails timeout =>
      exact absurd asking earlier.not_asking
  | asked x' r took =>
    cases took with
    | ticked due ticking fired hdue =>
      cases ticking
      exact .pending earlier (refreshing_of_ask (.ticked due hdue) (unfired_of_glimpse fired) task
        requests since hw)
    | repeated due repeating fired =>
      cases repeating
      exact .pending earlier (refreshing_of_ask (.repeated due) (unfired_of_glimpse fired) task
        requests since hw)
  | ended o took =>
    cases took with
    | invalid fresh zero =>
      exact .closed earlier (closed_of_finish (.invalid acts fresh (Span.isZero_iff.mp zero)) task
        requests hw)
    | overflowed fresh zero after =>
      exact .closed earlier (closed_of_finish
        (.overflowed acts fresh (Instant.after?_eq_none.mp after)) task requests hw)
    | stopped due stopping fired =>
      exact .closed earlier (closed_of_finish (.stopped acts (fired_of_glimpse fired)) task requests
        hw)
    | broke due deadline text asking | excused due deadline e asking
    | failed due deadline e asking => exact absurd asking earlier.not_asking

namespace Refreshing

variable {due' : Nat}

/-- Once the renewal has its turn, the refresh is over. -/
lemma round (h : v.Refreshing x j acts rounds stage point before due u)
    (hdue : u.response? = none → Instant.timer (v.run before).now x.timeout ≤ (v.run acts).now) :
    v.Round x j stage point due ⟨before, acts, u.response?⟩ where
  opens := h.opens
  since := h.since
  said _ hresponse := h.request ▸ h.plan ▸ (h.course.of_response hresponse).1
  late := hdue

lemma step (h : v.Refreshing x j acts rounds stage point before due u)
    (earlier : v.Rounds x j rounds stage point) : v.Tracked x j (acts ++ [.step j]) := by
  have hlt := (List.getElem?_eq_some_iff.mp h.task).1
  have hrenewed := renewed_act h.task rfl rfl
  have hrun := run_snoc v acts (.step j)
  have hsince : before ++ [.step j] <+: acts ++ [.step j] := h.since.trans (List.prefix_append ..)
  -- a refresh to which there is a response did not miss its deadline
  have told {r : Response} (hr : u.response? = some r) :
      v.Round x j stage point due ⟨before, acts, u.response?⟩ :=
    h.round fun hnone => by cases hnone.symm.trans hr
  generalize hw : (v.run acts).act (.step j) = w' at hrenewed hrun
  cases hrenewed with
  | rested took =>
    refine .pending earlier (.asking before due u { h with
      task := hrun ▸ h.task, requests := hrun ▸ h.requests, since := hsince, course := ?_ })
    rw [hrun]
    exact h.course
  | moved w' moved =>
    obtain ⟨u', htasks, hrequest, hplan, hcourse⟩ := h.course.moved rfl moved
    refine .pending earlier (.asking before due u' { h with
      task := ?_, requests := ?_, since := hsince, request := hrequest.trans h.request,
      plan := hplan.trans h.plan, course := hrun ▸ hcourse })
    · rw [hrun, htasks, List.getElem?_set_self hlt]
    · rw [hrun, moved.requestsOf_eq, h.requests]
  | went x' took =>
    have task' {stage' : Renewal.Stage} (hx : x' = { x with stage := stage' }) :
        (v.run (acts ++ [.step j])).tasks[j]? =
          some ⟨.renewal { x with stage := stage' }, none, none, none⟩ := by
      rw [hrun, ← hx]
      exact List.getElem?_set_self hlt
    cases took with
    | begun due fresh => cases fresh
    | granted due deadline asking response =>
      cases asking
      exact .pending (.granted _ earlier (told response) response)
        (.idle (task' rfl) (hrun ▸ h.requests) List.prefix_rfl)
    | late due deadline e asking fails timeout =>
      cases asking
      obtain ⟨failure, hdue⟩ := refreshFailure?_of_fails fails before acts
      exact .pending (.late _ e earlier (h.round hdue) failure timeout)
        (.idle (task' rfl) (hrun ▸ h.requests) List.prefix_rfl)
  | asked x' r took =>
    cases took with
    | ticked due ticking => cases ticking
    | repeated due repeating => cases repeating
  | ended o took =>
    cases took with
    | invalid fresh | overflowed fresh => cases fresh
    | stopped due stopping => rcases stopping with stopping | stopping <;> cases stopping
    | broke due deadline text asking response =>
      exact .closed earlier (closed_of_finish (.broke _ text (told response) response)
        h.task h.requests hw)
    | excused due deadline e asking fails final fired =>
      cases asking
      obtain ⟨failure, hdue⟩ := refreshFailure?_of_fails fails before acts
      exact .closed earlier (closed_of_finish (.excused _ e (h.round hdue) failure final
        (fired_of_glimpse fired)) h.task h.requests hw)
    | failed due deadline e asking fails final fired =>
      cases asking
      obtain ⟨failure, hdue⟩ := refreshFailure?_of_fails fails before acts
      exact .closed earlier (closed_of_finish (.failed _ e (h.round hdue) failure final
        (unfired_of_glimpse fired)) h.task h.requests hw)

end Refreshing

/-- If it does not matter when, a request is where it is whatever else happens. -/
lemma Course.other {w : World} {began : Nat} (h : w.Course j False began u)
    (hhistory : ∀ e ∈ w.history, e ∈ w'.history) : w'.Course j False began u := by
  cases h with
  | outward stage early => exact .outward stage False.elim
  | arrived stage exact => exact .arrived stage False.elim
  | homeward due response stage said unbroken exact =>
    exact .homeward due response stage (said.mono hhistory id) unbroken False.elim
  | back response stage said exact =>
    exact .back response stage (said.mono hhistory id) False.elim

/-- What happens elsewhere is none of its business. -/
lemma Renews.other (h : v.Renews x j acts rounds stage point) (hstep : b ≠ .step j)
    (habort : b ≠ .abort j) : v.Renews x j (acts ++ [b]) rounds stage point := by
  have hrun := run_snoc v acts b
  have hrequests : requestsOf j (v.run (acts ++ [b])).history = requestsOf j (v.run acts).history :=
    hrun ▸ requestsOf_act_of_ne hstep
  cases h with
  | idle task requests since =>
    exact .idle (hrun ▸ other_act task hstep habort) (hrequests.trans requests)
      (since.trans (List.prefix_append ..))
  | asking before due u refreshes =>
    exact .asking before due u { refreshes with
      task := hrun ▸ other_act refreshes.task hstep habort
      requests := hrequests.trans refreshes.requests
      since := refreshes.since.trans (List.prefix_append ..)
      course := hrun ▸ refreshes.course.other fun _ he => mem_history_act _ b he }

/-- What is over stays so. -/
lemma Closed.act (h : v.Closed x j acts rounds stage point all upto ending) (b : Act) :
    v.Closed x j (acts ++ [b]) rounds stage point all upto ending := by
  obtain ⟨last, htask⟩ := h.task
  have hrun := run_snoc v acts b
  refine { h with
    since := h.since.trans (List.prefix_append ..), task := ⟨last, ?_⟩, requests := ?_ }
  · rw [hrun, ended_act _ b htask rfl]
  · rw [hrun, ← h.requests]
    exact requestsOf_run_of_ended htask rfl [b]

lemma Closed.ended (h : v.Closed x j acts rounds stage point all upto ending) :
    (v.run acts).ending? j = some ending := by
  obtain ⟨last, htask⟩ := h.task
  rw [ending?, htask]
  rfl

/-- **A renewal is tracked after every act that does not abort it.** -/
theorem Tracked.act (h : v.Tracked x j acts) (habort : b ≠ .abort j) :
    v.Tracked x j (acts ++ [b]) := by
  cases h with
  | closed earlier closed => exact .closed earlier (closed.act b)
  | pending earlier renews =>
    by_cases hstep : b = .step j
    · subst hstep
      cases renews with
      | idle task requests since => exact step_of_idle earlier task requests since
      | asking before due u refreshes => exact refreshes.step earlier
    · exact .pending earlier (renews.other hstep habort)

lemma Tracked.run (h : v.Tracked x j []) (habort : .abort j ∉ acts) : v.Tracked x j acts := by
  induction acts using List.reverseRecOn with
  | nil => exact h
  | append_singleton acts b ih =>
    exact (ih fun hm => habort (List.mem_append_left _ hm)).act fun hb => habort (by simp [hb])

lemma tracked_start {plans : Plans} {before : List Act} {lease : Lease} {interval timeout : Span} :
    let x : Renewal := .start lease interval timeout
    (((start plans).run before).act (.spawn (.renewal x))).Tracked x
      ((start plans).run before).tasks.length [] := by
  intro x
  refine .pending .fresh (.idle List.getElem?_concat_length ?_ List.prefix_rfl)
  exact (asked_run plans before).beyond (Nat.le_refl _)

/-! ### How a renewal ends -/

/-- What the ending of a renewal means, with `all` its rounds, of which the renewal went on after
`rounds`, and `upto` the acts before its last step. -/
def Means (v : World) (x : Renewal) (rounds all : List Trial) (upto : List Act) : Ending → Prop
  | .done => x.lease.stop ∈ (v.run upto).fired
  | .failed e => e.isTimeout = false ∧ x.lease.stop ∉ (v.run upto).fired ∧
      ∃ y, all = y :: rounds ∧ y.upto = upto ∧ y.refreshFailure? = some e
  | .broken text => Instant.limit ≤ (v.run upto).now + x.interval.nanos ∨
      ∃ y, all = y :: rounds ∧ y.upto = upto ∧ y.response = some (.broken text)
  | .leased _ | .aborted => False

lemma Closes.means (h : v.Closes x j rounds stage point all upto ending)
    (hpositive : 0 < x.interval.nanos) : v.Means x rounds all upto ending := by
  cases h with
  | invalid upto begins zero => exact absurd zero (Nat.ne_of_gt hpositive)
  | overflowed upto begins full => exact .inl full
  | stopped upto fired => exact fired
  | excused y e round failure final fired => exact fired
  | failed y e round failure final unfired => exact ⟨final, unfired, y, rfl, rfl, failure⟩
  | broke y text round response => exact .inr ⟨y, rfl, rfl, response⟩

/-- **What the outcome of a renewal means.** Start a renewal with a positive interval at any point
of any run, and let the run go on in any way that does not abort it. If it has ended, then it ended
by one of its steps, what it put to the store was the refresh of its lease, once for each of its
rounds, and every round but the last was granted or failed with a timeout. If the renewal ended
well, the signal of the lease had fired. If it failed, the signal had not fired, the failure is no
timeout, and it is what the last round failed with: what the store said, or `notHeld` if that was
no. Otherwise the store broke down in the last round, or the clock could not name the first tick. -/
theorem renewal_outcome (plans : Plans) (before acts : List Act) (lease : Lease)
    (interval timeout : Span) (ending : Ending) (hpositive : 0 < interval.nanos) :
    let x : Renewal := .start lease interval timeout
    let j := ((start plans).run before).tasks.length
    let v := ((start plans).run before).act (.spawn (.renewal x))
    .abort j ∉ acts → (v.run acts).ending? j = some ending →
    ∃ rounds stage point all upto, v.Rounds x j rounds stage point ∧
      v.Closed x j acts rounds stage point all upto ending ∧
      (∀ y ∈ rounds, y.Bearable) ∧ v.Means x rounds all upto ending := by
  intro x j v habort hended
  have htracked : v.Tracked x j acts := tracked_start.run habort
  cases htracked with
  | pending earlier renews =>
    have hrunning : (v.run acts).ending? j = none := by
      cases renews with
      | idle task => simp [ending?, task]
      | asking before due u refreshes => simp [ending?, refreshes.task]
    cases hrunning.symm.trans hended
  | @closed rounds all stage point upto ending' earlier closed =>
    cases hended.symm.trans closed.ended
    exact ⟨rounds, stage, point, all, upto, earlier, closed, earlier.bearable,
      closed.closes.means hpositive⟩

/-- The first refresh is granted, the second hangs until its deadline, the store fails the third
with a timeout and refuses the fourth. -/
theorem renewal_outcome_of_four_rounds :
    let plans : Plans := ⟨[], [⟨none, .answer true, none⟩, ⟨none, .hang, none⟩,
      ⟨none, .fail .timeout, none⟩, ⟨none, .answer false, none⟩], []⟩
    let lease : Lease := ⟨⟨"k", .named "a", .ofSecs 9⟩, 0⟩
    let x : Renewal := .start lease (.ofMillis 10) (.ofMillis 5)
    let acts := [.step 0, .advance 10000000, .step 0, .step 0, .step 0, .advance 10000000, .step 0,
      .advance 5000000, .step 0, .step 0, .step 0, .step 0, .step 0, .step 0, .step 0]
    let v := (start plans).act (.spawn (.renewal x))
    (v.run acts).ending? 0 = some (.failed .notHeld) ∧
    ∃ rounds stage point y upto,
      v.Rounds x 0 rounds stage point ∧ rounds.length = 3 ∧
      v.Closed x 0 acts rounds stage point (y :: rounds) upto (.failed .notHeld) ∧
      (∀ z ∈ rounds, z.Bearable) ∧ y.refreshFailure? = some .notHeld := by
  intro plans lease x acts v
  have hended : (v.run acts).ending? 0 = some (.failed .notHeld) := by decide
  obtain ⟨rounds, stage, point, all, upto, earlier, closed, bearable, -, -, y, rfl, -, failure⟩ :=
    renewal_outcome plans [] acts lease (.ofMillis 10) (.ofMillis 5) _ (by decide)
      (by simp [acts, start]) hended
  have hlength : (requestsOf 0 (v.run acts).history).length = 4 := by decide
  have hrequests : requestsOf 0 (v.run acts).history =
      List.replicate (y :: rounds).length lease.renewal := closed.requests
  rw [hrequests, List.length_replicate, List.length_cons] at hlength
  exact ⟨hended, rounds, stage, point, y, upto, earlier, Nat.succ.inj hlength, closed, bearable,
    failure⟩

end World
end LeaseLock
