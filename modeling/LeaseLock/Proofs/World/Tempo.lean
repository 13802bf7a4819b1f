import Mathlib.Tactic.Common
import LeaseLock.Proofs.World.Trials

/-!
The tempo of a renewal.

A renewal refreshes its lease at a tick, or at once after a refresh that timed out. Ticks are due at
least an interval apart, whether they are seen late or not, so that it gets ahead of its interval
only by refreshes that timed out: `InTempo` counts the ticks that it has seen, and every act keeps
it.
-/

namespace LeaseLock

open World (Act)

namespace Renewal

variable {x x' : Renewal} {g : Glimpse}

/-- Whether a renewal, at its turn, finds that its refresh has timed out: the deadline is over and
no response there, or the response of the store is a timeout of its own. -/
def timesOut (x : Renewal) (g : Glimpse) : Bool :=
  match x.stage, g.response with
  | .asking _ deadline, none => deadline ≤ g.now
  | .asking .., some (.failed e) => e.isTimeout
  | _, _ => false

/-- A refresh is repeated only if it has timed out. -/
lemma timesOut_of_fails {due deadline : Nat} {e : LockError}
    (stage : x.stage = .asking due deadline) (fails : g.Fails .notHeld deadline e)
    (timeout : e.isTimeout = true) : x.timesOut g = true := by
  unfold timesOut
  rw [stage]
  cases fails with
  | refused response => cases timeout
  | failed e response => simpa [response] using timeout
  | late response hdue => simpa [response] using hdue

/-- When the next tick is due, once there is one to come. -/
def Stage.due? : Stage → Option Nat
  | .fresh => none
  | .ticking due | .repeating due | .asking due _ => some due

/-- How many refreshes the renewal has yet to make for those that timed out. -/
def Stage.owed : Stage → Nat
  | .repeating _ => 1
  | .fresh | .ticking _ | .asking .. => 0

/-- Late or not, the next tick is due an interval after the one before at least. -/
lemma le_nextDue (interval : Span) (due now : Nat) :
    due + interval.nanos ≤ nextDue interval due now := by
  unfold nextDue
  split <;> omega

end Renewal

namespace World

variable {w w' : World} {j began late ticks : Nat} {x : Renewal} {t : Task} {a : Act}
  {stage : Renewal.Stage} {u : Option Underway}

/-! ### Timeouts -/

/-- Whether task `j` is a renewal whose next step is to take note that its refresh has timed out. -/
def timesOut (w : World) (j : Nat) : Bool :=
  (w.tasks[j]?).any fun t => t.ending.isNone && (w.moveRequest j t).isNone &&
    match t.process with
    | .renewal x => x.timesOut (w.glimpse t (some x.lease.stop))
    | _ => false

/-- How many refreshes of task `j` time out by an act. -/
def timeoutsBy (w : World) (j : Nat) : Act → Nat
  | .step i => if i = j ∧ w.timesOut j = true then 1 else 0
  | _ => 0

/-- How many refreshes of task `j` time out in a run. -/
def timeouts (w : World) (j : Nat) : List Act → Nat
  | [] => 0
  | a :: acts => w.timeoutsBy j a + (w.act a).timeouts j acts

/-! ### A renewal in tempo -/

/-- What holds of a renewal that began at `began`, has seen so many ticks and has had so many
refreshes time out. -/
structure InTempo (w : World) (j : Nat) (x : Renewal) (began ticks late : Nat)
    (stage : Renewal.Stage) : Prop where
  passed : began + ticks * x.interval.nanos ≤ w.now
  calls : (requestsOf j w.history).length + stage.owed ≤ ticks + late
  next : ∀ due, stage.due? = some due → began + (ticks + 1) * x.interval.nanos ≤ due

/-- Task `j` is a renewal in tempo, or has ended and was. -/
inductive Measured (w : World) (j : Nat) (x : Renewal) (began late : Nat) : Prop
  | running (ticks : Nat) (stage : Renewal.Stage) (u : Option Underway)
      (task : w.tasks[j]? = some ⟨.renewal { x with stage }, u, none, none⟩)
      (begun : stage ≠ .fresh) (tempo : w.InTempo j x began ticks late stage)
  | ceased (ticks : Nat) (t : Task) (ending : Ending) (task : w.tasks[j]? = some t)
      (ended : t.ending = some ending) (passed : began + ticks * x.interval.nanos ≤ w.now)
      (calls : (requestsOf j w.history).length ≤ ticks + late)

lemma InTempo.mono (h : w.InTempo j x began ticks late stage) {more : Nat} (hle : late ≤ more)
    (hnow : w.now ≤ w'.now) (hrequests : requestsOf j w'.history = requestsOf j w.history) :
    w'.InTempo j x began ticks more stage where
  passed := Nat.le_trans h.passed hnow
  calls := hrequests ▸ Nat.le_trans h.calls (Nat.add_le_add_left hle _)
  next := h.next

/-- A renewal in tempo ends. -/
lemma InTempo.finish (h : w.InTempo j x began ticks late stage) (ht : w.tasks[j]? = some t)
    (ending : Ending) : (w.finish j t ending).Measured j x began late := by
  refine .ceased ticks { t with underway := none, ending := some ending } ending ?_ rfl ?_ ?_
  · rw [finish_tasks, List.getElem?_set_self (List.getElem?_eq_some_iff.mp ht).1]
  · rw [finish_now]
    exact h.passed
  · rw [requestsOf_other rfl (finish_history ..)]
    exact Nat.le_trans (Nat.le_add_right ..) h.calls

/-! ### The steps of a renewal in tempo -/

/-- What a step makes of a renewal: its request moves on, or its turn comes while its request
rests. -/
lemma renewed_step (ht : w.tasks[j]? = some t) (hp : t.process = .renewal x) :
    w.act (.step j) = w ∨ Moved w j t (w.act (.step j)) ∨
      (w.moveRequest j t = none ∧ Renewed w j t x (w.act (.step j))) := by
  simp only [act]
  cases h : w.step j with
  | none => exact .inl rfl
  | some v =>
    obtain ⟨t', ht', -, ⟨-, hm⟩ | ⟨hrest, htu⟩⟩ := step_cases h
    · cases ht.symm.trans ht'
      exact .inr (.inl hm)
    · cases ht.symm.trans ht'
      have hheeds : w.heedsSignalFirst t = false := by rw [heedsSignalFirst, hp]
      exact .inr (.inr ⟨hrest.resolve_left (by simp [hheeds]), htu.renewed hp⟩)

/-- A timeout that a renewal takes note of counts. -/
lemma timeoutsBy_own (ht : w.tasks[j]? = some t) (hend : t.ending = none)
    (hp : t.process = .renewal x) (hrest : w.moveRequest j t = none)
    (hout : x.timesOut (w.glimpse t (some x.lease.stop)) = true) :
    w.timeoutsBy j (.step j) = 1 := by
  have htimes : w.timesOut j = true := by
    rw [timesOut, ht, Option.any_some, hend, hrest, hp]
    exact hout
  rw [timeoutsBy, if_pos ⟨rfl, htimes⟩]

/-- The request of a renewal moves on. -/
lemma InTempo.moved (h : w.InTempo j x began ticks late stage) (begun : stage ≠ .fresh)
    (task : w.tasks[j]? = some ⟨.renewal { x with stage }, u, none, none⟩)
    (hm : Moved w j ⟨.renewal { x with stage }, u, none, none⟩ w') :
    w'.Measured j x began late := by
  obtain ⟨-, u', -, -, htasks, hnow, -⟩ := hm.passes
  refine .running ticks stage (some u') ?_ begun
    (h.mono (Nat.le_refl _) (Nat.le_of_eq hnow.symm) (hm.requestsOf_eq j))
  rw [htasks, List.getElem?_set_self (List.getElem?_eq_some_iff.mp task).1]

/-- A renewal takes note of how its refresh went. -/
lemma InTempo.went (h : w.InTempo j x began ticks late stage) (begun : stage ≠ .fresh)
    (task : w.tasks[j]? = some ⟨.renewal { x with stage }, u, none, none⟩)
    (hrest : w.moveRequest j ⟨.renewal { x with stage }, u, none, none⟩ = none) {x' : Renewal}
    (took : Renewal.Took { x with stage } (w.glimpse ⟨.renewal { x with stage }, u, none, none⟩
      (some x.lease.stop)) (.go x')) :
    (w.setTask j ⟨.renewal x', none, none, none⟩).Measured j x began
      (late + w.timeoutsBy j (.step j)) := by
  have task' : (w.setTask j ⟨.renewal x', none, none, none⟩).tasks[j]? =
      some ⟨.renewal x', none, none, none⟩ :=
    List.getElem?_set_self (List.getElem?_eq_some_iff.mp task).1
  cases took with
  | begun due fresh => exact absurd fresh begun
  | granted due deadline asking response =>
    cases asking
    exact .running ticks _ none task' Renewal.Stage.noConfusion
      ⟨h.passed, Nat.le_trans h.calls (Nat.add_le_add_left (Nat.le_add_right ..) _), h.next⟩
  | late due deadline e asking fails timeout =>
    cases asking
    have hout := timeoutsBy_own task rfl rfl hrest (Renewal.timesOut_of_fails rfl fails timeout)
    exact .running ticks _ none task' Renewal.Stage.noConfusion
      ⟨h.passed, hout ▸ Nat.succ_le_succ h.calls, h.next⟩

/-- A renewal refreshes its lease at a tick, or in place of a refresh that timed out. -/
lemma InTempo.asked (h : w.InTempo j x began ticks late stage)
    (task : w.tasks[j]? = some ⟨.renewal { x with stage }, u, none, none⟩) {x' : Renewal}
    {r : Request}
    (took : Renewal.Took { x with stage } (w.glimpse ⟨.renewal { x with stage }, u, none, none⟩
      (some x.lease.stop)) (.ask x' r)) :
    (w.ask j ⟨.renewal x', u, none, none⟩ r).Measured j x began late := by
  have task' : (w.ask j ⟨.renewal x', u, none, none⟩ r).tasks[j]? =
      some ⟨.renewal x', some (.start r (w.plans.take r).1 w.now), none, none⟩ :=
    List.getElem?_set_self (List.getElem?_eq_some_iff.mp task).1
  have hrequests : requestsOf j (w.ask j ⟨.renewal x', u, none, none⟩ r).history =
      requestsOf j w.history ++ [r] := by
    rw [ask_history, requestsOf_cons, Event.asked?, if_pos rfl, Option.toList_some]
  have hcalls := h.calls
  generalize hturn : Turn.ask x' r = turn at took
  cases took with
  | ticked seen ticking fired hseen =>
    cases hturn
    cases ticking
    have hpassed := h.next seen rfl
    have hdue := Instant.le_roundUp seen
    refine .running (ticks + 1) _ _ task' Renewal.Stage.noConfusion ⟨?_, ?_, fun due hdue' => ?_⟩
    · exact Nat.le_trans hpassed (Nat.le_trans hdue hseen)
    · rw [hrequests, List.length_append]
      simp only [Renewal.Stage.owed, List.length_singleton] at hcalls ⊢
      omega
    · cases hdue'
      have hnext := Renewal.le_nextDue x.interval seen w.now
      rw [Nat.succ_mul (ticks + 1)]
      simp only [glimpse]
      omega
  | repeated due repeating fired =>
    cases hturn
    cases repeating
    refine .running ticks _ _ task' Renewal.Stage.noConfusion ⟨h.passed, ?_, h.next⟩
    rw [hrequests, List.length_append]
    exact hcalls
  | _ => cases hturn

namespace Measured

lemma mono (h : w.Measured j x began late) {more : Nat} (hle : late ≤ more) :
    w.Measured j x began more := by
  cases h with
  | running ticks stage u task begun tempo =>
    exact .running ticks stage u task begun (tempo.mono hle (Nat.le_refl _) rfl)
  | ceased ticks t ending task ended passed calls =>
    exact .ceased ticks t ending task ended passed (Nat.le_trans calls (Nat.add_le_add_left hle _))

/-- Time passes. -/
lemma advance (h : w.Measured j x began late) (d : Nat) :
    (w.act (.advance d)).Measured j x began late := by
  have hnow : w.now ≤ (w.act (.advance d)).now := Nat.le_add_right ..
  cases h with
  | running ticks stage u task begun tempo =>
    exact .running ticks stage u task begun (tempo.mono (Nat.le_refl _) hnow rfl)
  | ceased ticks t ending task ended passed calls =>
    exact .ceased ticks t ending task ended (Nat.le_trans passed hnow) calls

/-- What happens elsewhere is none of its business. -/
lemma other (h : w.Measured j x began late) (hstep : a ≠ .step j) (hadvance : ∀ d, a ≠ .advance d) :
    (w.act a).Measured j x began late := by
  have hnow := Nat.le_of_eq (w.act_now hadvance).symm
  have hrequests := requestsOf_act_of_ne (w := w) hstep
  cases h with
  | running ticks stage u task begun tempo =>
    by_cases habort : a = .abort j
    · subst habort
      rcases w.act_abort j with h | ⟨t, ht, -, h⟩
      · rw [h]
        exact .running ticks stage u task begun tempo
      · rw [h]
        exact tempo.finish ht .aborted
    · exact .running ticks stage u (other_act task hstep habort) begun
        (tempo.mono (Nat.le_refl _) hnow hrequests)
  | ceased ticks t ending task ended passed calls =>
    exact .ceased ticks t ending (w.ended_act a task ended) ended (Nat.le_trans passed hnow)
      (hrequests ▸ calls)

/-- The renewal takes a step. -/
lemma step (h : w.Measured j x began late) :
    (w.act (.step j)).Measured j x began (late + w.timeoutsBy j (.step j)) := by
  have hmore := Nat.le_add_right late (w.timeoutsBy j (.step j))
  have hsame := h.mono hmore
  cases h with
  | ceased ticks t ending task ended passed calls =>
    exact (step_of_ended task ended).symm ▸ hsame
  | running ticks stage u task begun tempo =>
    rcases renewed_step task rfl with hstill | hm | ⟨hrest, hrenewed⟩
    · exact hstill.symm ▸ hsame
    · exact (tempo.moved begun task hm).mono hmore
    · generalize w.act (.step j) = v at hrenewed
      cases hrenewed with
      | rested took => exact hsame
      | moved v hm => exact (tempo.moved begun task hm).mono hmore
      | went x' took => exact tempo.went begun task hrest took
      | asked x' r took => exact (tempo.asked task took).mono hmore
      | ended o took => exact (tempo.finish task (endingOf o)).mono hmore

lemma act (h : w.Measured j x began late) (a : Act) :
    (w.act a).Measured j x began (late + w.timeoutsBy j a) := by
  cases a.view j with
  | advance d => exact h.advance d
  | own => exact h.step
  | other hstep hadvance => exact (h.other hstep hadvance).mono (Nat.le_add_right ..)

lemma run (h : w.Measured j x began late) (acts : List Act) :
    (w.run acts).Measured j x began (late + w.timeouts j acts) := by
  induction acts generalizing w late with
  | nil => exact h
  | cons a acts ih =>
    rw [timeouts, ← Nat.add_assoc]
    exact ih (h.act a)

/-- A renewal in tempo has made no more refreshes than ticks and timeouts account for. -/
lemma calls_le (h : w.Measured j x began late) :
    ∃ ticks, began + ticks * x.interval.nanos ≤ w.now ∧
      (requestsOf j w.history).length ≤ ticks + late := by
  cases h with
  | running ticks stage u task begun tempo =>
    exact ⟨ticks, tempo.passed, Nat.le_trans (Nat.le_add_right ..) tempo.calls⟩
  | ceased ticks t ending task ended passed calls => exact ⟨ticks, passed, calls⟩

end Measured

/-! ### From the beginning -/

/-- A renewal that has not had its first turn is as it was, unless it was aborted. -/
lemma unbegun_run (task : w.tasks[j]? = some t) {acts : List Act} (hstep : .step j ∉ acts) :
    (w.run acts).tasks[j]? = some t ∨
      ∃ t' ending, (w.run acts).tasks[j]? = some t' ∧ t'.ending = some ending := by
  refine run_induction (P := fun v => v.tasks[j]? = some t ∨
    ∃ t' ending, v.tasks[j]? = some t' ∧ t'.ending = some ending) (.inl task)
    fun v a ha hv => ?_
  rcases hv with hv | ⟨t', ending, ht', hended⟩
  · by_cases habort : a = .abort j
    · subst habort
      rcases v.act_abort j with h | ⟨t', ht', -, h⟩
      · exact .inl (h.symm ▸ hv)
      · refine .inr ⟨{ t' with underway := none, ending := some .aborted }, .aborted, ?_, rfl⟩
        rw [h, finish_tasks, List.getElem?_set_self (List.getElem?_eq_some_iff.mp ht').1]
    · exact .inl (other_act hv (fun h => hstep (h ▸ ha)) habort)
  · exact .inr ⟨t', ending, v.ended_act a ht' hended, hended⟩

/-- The first turn of a renewal: the first tick is due an interval later. -/
lemma measured_begun (fresh : x.stage = .fresh)
    (task : w.tasks[j]? = some ⟨.renewal x, none, none, none⟩ ∨
      ∃ t ending, w.tasks[j]? = some t ∧ t.ending = some ending)
    (requests : requestsOf j w.history = []) : (w.act (.step j)).Measured j x w.now 0 := by
  rcases task with task | ⟨t, ending, task, ended⟩
  · have hlt := (List.getElem?_eq_some_iff.mp task).1
    have hrenewed := renewed_act task rfl rfl
    generalize w.act (.step j) = v at hrenewed
    cases hrenewed with
    | rested took =>
      cases took with
      | slept due stage | waited due deadline stage => cases fresh.symm.trans stage
    | moved v hm =>
      obtain ⟨u, -, hu, -⟩ := hm.passes
      cases hu
    | went x' took =>
      cases took with
      | begun due stage zero after =>
        obtain ⟨-, rfl⟩ := Instant.after?_eq_some.mp after
        refine .running 0 _ none (List.getElem?_set_self hlt) Renewal.Stage.noConfusion ⟨?_, ?_, ?_⟩
        · simp [setTask]
        · simp [setTask, requests, Renewal.Stage.owed]
        · rintro due hdue
          cases hdue
          simp [glimpse]
      | granted due deadline stage | late due deadline e stage => cases fresh.symm.trans stage
    | asked x' r took =>
      generalize hturn : Turn.ask x' r = turn at took
      cases took with
      | ticked due stage | repeated due stage => cases fresh.symm.trans stage
      | _ => cases hturn
    | ended o took =>
      refine .ceased 0 _ (endingOf o) (by rw [finish_tasks, List.getElem?_set_self hlt]) rfl ?_ ?_
      · simp
      · rw [requestsOf_other rfl (finish_history ..), requests]
        exact Nat.zero_le _
  · rw [step_of_ended task ended]
    exact .ceased 0 t ending task ended (by simp) (by simp [requests])

/-- **A renewal is paced by its interval.** Start a renewal with a positive interval at any point of
any run, and let it have its first turn. However the run goes on, and whatever the store does: up to
`span` after that first turn, the renewal has put no more refreshes to the store than there are
intervals in `span`, and refreshes of its own that timed out, by their deadline or at the store. -/
theorem renewal_paced (plans : Plans) (before idle acts : List Act) (lease : Lease)
    (interval timeout : Span) (span : Nat) (hpositive : 0 < interval.nanos) :
    let j := ((start plans).run before).tasks.length
    let v := (((start plans).run before).act
      (.spawn (.renewal (.start lease interval timeout)))).run idle
    .step j ∉ idle → (v.run (.step j :: acts)).now ≤ v.now + span →
    (requestsOf j (v.run (.step j :: acts)).history).length ≤
      span / interval.nanos + v.timeouts j (.step j :: acts) := by
  intro j v hidle hspan
  have hfirst : requestsOf j v.history = [] := by
    have hspawn {p : Process} : Act.spawn p ≠ .step j := Act.noConfusion
    rw [requestsOf_run_of_ne hidle, requestsOf_act_of_ne hspawn]
    exact (asked_run plans before).beyond (Nat.le_refl _)
  have hbegun := measured_begun (x := .start lease interval timeout) rfl
    (unbegun_run List.getElem?_concat_length hidle) hfirst
  obtain ⟨ticks, hpassed, hcalls⟩ := (hbegun.run acts).calls_le
  have hticks : ticks ≤ span / interval.nanos := by
    rw [Nat.le_div_iff_mul_le hpositive]
    exact Nat.le_of_add_le_add_left (Nat.le_trans hpassed hspan)
  calc (requestsOf j (v.run (.step j :: acts)).history).length
      ≤ ticks + (0 + (v.act (.step j)).timeouts j acts) := hcalls
    _ ≤ span / interval.nanos + v.timeouts j (.step j :: acts) :=
      Nat.add_le_add hticks (by rw [timeouts, Nat.zero_add]; exact Nat.le_add_left ..)

/-- A tick after five seconds, two refreshes that hang until their deadline, and a third one. -/
theorem renewal_paced_with_two_timeouts :
    let plans : Plans := ⟨[], [⟨none, .hang, none⟩, ⟨none, .hang, none⟩], []⟩
    let lease : Lease := ⟨⟨"k", .named "a", .ofSecs 10⟩, 0⟩
    let x : Renewal := .start lease (.ofSecs 5) (.ofMillis 100)
    let v := ((start plans).act (.spawn (.renewal x))).run [.advance 1000000]
    let acts := [.advance 5000000000, .step 0, .advance 100000000, .step 0, .step 0,
      .advance 100000000, .step 0, .step 0, .advance 100000000]
    .step 0 ∉ [Act.advance 1000000] ∧
    (v.run (.step 0 :: acts)).now ≤ v.now + 5300000000 ∧
    (requestsOf 0 (v.run (.step 0 :: acts)).history).length = 3 ∧
    3 ≤ 5300000000 / 5000000000 + v.timeouts 0 (.step 0 :: acts) ∧
    v.timeouts 0 (.step 0 :: acts) = 2 := by
  intro plans lease x v acts
  have hidle : Act.step 0 ∉ [Act.advance 1000000] := by simp
  have hnow : (v.run (.step 0 :: acts)).now ≤ v.now + 5300000000 := by decide
  have hcalls : (requestsOf 0 (v.run (.step 0 :: acts)).history).length = 3 := by decide
  have hpaced := renewal_paced plans [] [.advance 1000000] acts lease (.ofSecs 5) (.ofMillis 100)
    5300000000 (by decide) hidle hnow
  exact ⟨hidle, hnow, hcalls, hcalls ▸ hpaced, by decide⟩

end World
end LeaseLock
