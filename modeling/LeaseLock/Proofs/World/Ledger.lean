import Mathlib.Data.List.Induction
import Mathlib.Tactic.Common
import LeaseLock.Proofs.World.Trials

/-!
The accounting of an acquisition.

A `Trial` is an attempt of an acquisition in a run, from the step by which its request is put to the
store to the step by which the call takes note of how it went. `Account` lists the attempts that
failed and were followed by a wait, and threads the strategy through them. At every point of a run
an acquisition `Stands` somewhere after such attempts, or is `Concluded` by one more.
-/

namespace LeaseLock

open World (Act)

/-! ### Attempts -/

namespace World

/-- The request with which an acquisition would begin an attempt now. -/
def attempt (w : World) (work : Acquisition) : Request :=
  .acquire work.key (.minted (w.minted + 1)) work.ttl

/-- The plan for it. -/
def acquirePlan (w : World) : Plan := w.plans.acquire.headD .plain

/-- How an attempt that task `i` began in `w₀` can have gone in `w₁`: its response is home, or its
deadline is over without one. -/
inductive Came (w₀ w₁ : World) (work : Acquisition) (i : Nat) (prompt : Prop) :
    Option Response → Prop
  | home (response : Response)
      (said : w₁.Said i prompt w₀.now (w₀.attempt work) w₀.acquirePlan response)
      (exact : prompt → w₁.now = response.home w₀.acquirePlan w₀.now)
      (early : prompt → w₁.now ≤ Instant.timer w₀.now work.timeout) :
      Came w₀ w₁ work i prompt (some response)
  | late (due : Instant.timer w₀.now work.timeout ≤ w₁.now)
      (exact : prompt → w₁.now = Instant.timer w₀.now work.timeout)
      (missed : prompt → w₀.acquirePlan.deed ≠ .hang → w₁.now < w₀.acquirePlan.returns w₀.now) :
      Came w₀ w₁ work i prompt none

/-- Whether task `i` begins an attempt after the acts `before` of a run, and not before `due`. -/
structure Begins (v : World) (work : Acquisition) (i due : Nat) (before : List Act) : Prop where
  asks : (v.run (before ++ [.step i])).history =
    .asked (v.run before).now i ((v.run before).attempt work) :: (v.run before).history
  late : due ≤ (v.run before).now
  exact : v.Heeded i before → (v.run before).now = due

end World

/-- An attempt of an acquisition in a run. -/
structure Trial where
  /-- The acts before the step that begins it. -/
  before : List Act
  /-- The acts before the step by which the call takes note of how it went. -/
  upto : List Act
  /-- The response, unless it did not come in time. -/
  response : Option Response

/-- What the attempt failed with, if it did. -/
def Trial.failure? (x : Trial) (work : Acquisition) : Option LockError :=
  match x.response with
  | none => some .timeout
  | some (.granted false) => some (.acquireFailed work.key)
  | some (.failed e) => some e
  | some (.granted true) | some (.broken _) => none

/-- An acquisition with the strategy at `s`, at some stage. -/
def Acquisition.midway (work : Acquisition) (s : Retry.Strategy) (attempts : UInt32)
    (stage : Acquisition.Stage) : Acquisition :=
  { work with strategy := s, attempts, stage }

namespace World

section

variable (v : World) (work : Acquisition) (i : Nat)

/-- Whether task `i` makes the attempt in a run from `v`, and not before `due`. -/
structure Makes (due : Nat) (x : Trial) : Prop where
  begins : v.Begins work i due x.before
  since : x.before ++ [.step i] <+: x.upto
  came : Came (v.run x.before) (v.run x.upto) work i (v.Heeded i x.upto) x.response

/-- The requests of attempts, of which the latest comes first. -/
def requestsFor (trials : List Trial) : List Request :=
  (trials.map fun x => (v.run x.before).attempt work).reverse

/-- The attempts of an acquisition that failed so that another one is to come, the latest first:
each was begun after the one before was over and the interval was over with which the strategy had
answered. The indices are the strategy as it is then, when the next attempt is due, and the acts up
to the last step. -/
inductive Account : List Trial → Retry.Strategy → Nat → List Act → Prop
  | start : Account [] work.strategy v.now []
  | failed {trials : List Trial} {s s' : Retry.Strategy} {due : Nat} {point : List Act} (x : Trial)
      (e : LockError) (d : Span) (account : Account trials s due point)
      (after : point <+: x.before) (makes : v.Makes work i due x)
      (failure : x.failure? work = some e) (retryable : e.isRetryable = true)
      (next : s.next = (.wait d, s')) :
      Account (x :: trials) s' (Instant.timer (v.run x.upto).now d) (x.upto ++ [.step i])

/-- Whether task `i` is at acquisition `a`, with `u` under way, after these requests. -/
structure Tries (w : World) (i : Nat) (a : Acquisition) (u : Option Underway)
    (requests : List Request) : Prop where
  task : w.tasks[i]? = some ⟨.acquisition a, u, none, none⟩
  requests : requestsOf i w.history = requests

/-- Whether an acquisition has an attempt under way that it began after the acts `before`. -/
structure Asks (acts : List Act) (trials : List Trial) (s : Retry.Strategy) (due : Nat)
    (point : List Act) (c : UInt32) (u : Underway) (before : List Act) : Prop where
  count : c.toNat = min (trials.length + 1) 4294967295
  tries : (v.run acts).Tries i
    (work.midway s c (.asking (.minted ((v.run before).minted + 1))
      (Instant.timer (v.run before).now work.timeout))) (some u)
    (v.requestsFor work trials ++ [(v.run before).attempt work])
  begins : v.Begins work i due before
  after : point <+: before
  since : before ++ [.step i] <+: acts
  request : u.request = (v.run before).attempt work
  plan : u.plan = (v.run before).acquirePlan
  course : (v.run acts).Course i (v.Heeded i acts) (v.run before).now u
  early : v.Heeded i acts → (v.run acts).now ≤ Instant.timer (v.run before).now work.timeout

/-- Where an acquisition stands that is not over: about to make the next attempt, waiting for it to
be due, or with an attempt under way. If it was never kept waiting, then the clock has not gone by
what it waits for. -/
inductive Stands (acts : List Act) (trials : List Trial) (s : Retry.Strategy) (due : Nat)
    (point : List Act) : Prop
  | ready (c : UInt32) (count : c.toNat = min trials.length 4294967295)
      (tries : (v.run acts).Tries i (work.midway s c .ready) none (v.requestsFor work trials))
      (since : point <+: acts) (late : due ≤ (v.run acts).now)
      (exact : v.Heeded i acts → (v.run acts).now = due)
  | resting (c : UInt32) (count : c.toNat = min trials.length 4294967295)
      (tries : (v.run acts).Tries i (work.midway s c (.resting due)) none
        (v.requestsFor work trials))
      (since : point <+: acts) (early : v.Heeded i acts → (v.run acts).now ≤ due)
  | asking (c : UInt32) (u : Underway) (before : List Act)
      (asks : v.Asks work i acts trials s due point c u before)

/-- How an acquisition ends with its attempt number `n`, before which the strategy was at `s`. -/
inductive Settles (x : Trial) (s : Retry.Strategy) (n : Nat) : Ending → Prop
  | leased (stop : Signal) (response : x.response = some (.granted true)) :
      Settles x s n
        (.leased ⟨⟨work.key, .minted ((v.run x.before).minted + 1), work.ttl⟩, stop⟩)
  | broke (text : String) (response : x.response = some (.broken text)) :
      Settles x s n (.broken text)
  | fatal (e : LockError) (failure : x.failure? work = some e) (final : e.isRetryable = false) :
      Settles x s n (.failed e)
  | exhausted (e : LockError) (failure : x.failure? work = some e)
      (retryable : e.isRetryable = true) (stop : s.next.1 = .stop) :
      Settles x s n (.failed (.retriesExhausted (min n 4294967295) e))
  /-- The strategy broke down. -/
  | gaveOut (e : LockError) (text : String) (failure : x.failure? work = some e)
      (retryable : e.isRetryable = true) (broken : s.next.1 = .broken text) :
      Settles x s n (.broken text)

/-- Whether an acquisition is over, with one more attempt after these. The strategy has given no
other answer since than the one that `settles` tells of. -/
structure Concluded (acts : List Act) (trials : List Trial) (s : Retry.Strategy) (due : Nat)
    (point : List Act) (x : Trial) (ending : Ending) : Prop where
  after : point <+: x.before
  makes : v.Makes work i due x
  settles : v.Settles work x s (trials.length + 1) ending
  ends : (v.run (x.upto ++ [.step i])).history =
    .ended (v.run x.upto).now i ending :: (v.run x.upto).history
  since : x.upto ++ [.step i] <+: acts
  task : ∃ c stage, (v.run acts).tasks[i]? =
    some ⟨.acquisition (work.midway s c stage), none, none, some ending⟩
  requests : requestsOf i (v.run acts).history = v.requestsFor work (x :: trials)

end

variable {v w w' : World} {work a : Acquisition} {i due deadline n : Nat} {u : Underway}
  {acts point before : List Act} {trials : List Trial} {s : Retry.Strategy} {c : UInt32}
  {ending : Ending} {e : LockError} {x : Trial} {requests : List Request} {b : Act} {g : Glimpse}

/-! ### Points of a run -/

lemma run_snoc (v : World) (acts : List Act) (b : Act) :
    v.run (acts ++ [b]) = (v.run acts).act b :=
  run_append ..

lemma heeded_snoc : v.Heeded i (acts ++ [b]) ↔ v.Heeded i acts ∧ (v.run acts).Heeds i b := by
  simp [heeded_append, Heeded]

lemma Heeded.of_prefix (h : v.Heeded i acts) (hpoint : point <+: acts) : v.Heeded i point := by
  obtain ⟨rest, rfl⟩ := hpoint
  exact (heeded_append.mp h).1

@[simp] lemma requestsFor_cons : v.requestsFor work (x :: trials) =
    v.requestsFor work trials ++ [(v.run x.before).attempt work] := by
  simp [requestsFor]

@[simp] lemma length_requestsFor : (v.requestsFor work trials).length = trials.length := by
  simp [requestsFor]

/-! ### How an attempt goes -/

lemma Course.came {w₀ : World} {prompt : Prop} (h : w.Course i prompt w₀.now u)
    (request : u.request = w₀.attempt work) (plan : u.plan = w₀.acquirePlan)
    (settled : u.step w.now w.memory = none)
    (early : prompt → w.now ≤ Instant.timer w₀.now work.timeout)
    (due : u.response? = none → Instant.timer w₀.now work.timeout ≤ w.now) :
    Came w₀ w work i prompt u.response? := by
  cases hr : u.response? with
  | some response =>
    obtain ⟨said, exact⟩ := h.of_response hr
    exact .home response (request ▸ plan ▸ said) (plan ▸ exact) early
  | none =>
    refine .late (due hr) (fun hp => Nat.le_antisymm (early hp) (due hr)) fun hp hdeed => ?_
    exact plan ▸ h.lt_returns hp settled hr (plan ▸ hdeed)

/-- An attempt of a call that is not kept waiting is over by its deadline. -/
lemma Came.early {w₀ : World} {prompt : Prop} {response : Option Response}
    (h : Came w₀ w work i prompt response) (hp : prompt) :
    w.now ≤ Instant.timer w₀.now work.timeout := by
  cases h with
  | home response said exact early => exact early hp
  | late due exact => exact Nat.le_of_eq (exact hp)

lemma failure?_of_fails (h : g.Fails (.acquireFailed work.key) deadline e)
    (before upto : List Act) : (Trial.mk before upto g.response).failure? work = some e ∧
      (g.response = none → deadline ≤ g.now) := by
  cases h with
  | refused response => simp [Trial.failure?, response]
  | failed e response => simp [Trial.failure?, response]
  | late response hdue => simp [Trial.failure?, response, hdue]

/-- An acquisition whose signal has not fired ends only with an attempt. -/
lemma asking_of_fin {o : Outcome Grant} (took : a.Took g (.fin o)) (hf : g.fired = false) :
    ∃ token deadline, a.stage = .asking token deadline := by
  cases took with
  | cancelled fired => cases hf.symm.trans fired
  | granted token deadline fired stage | broke token deadline text fired stage
  | fatal token deadline e fired stage | exhausted token deadline e s' fired stage
  | gaveOut token deadline e text s' fired stage => exact ⟨token, deadline, stage⟩

/-- An acquisition that ends by its turn settles its last attempt. -/
lemma settles_of_took {upto : List Act} {o : Outcome Grant}
    (took : (work.midway s c (.asking (.minted ((v.run before).minted + 1)) deadline)).Took g
      (.fin o)) (hf : g.fired = false) (ends : (o.map some).Ends ending)
    (count : c.toNat = min n 4294967295) :
    v.Settles work ⟨before, upto, g.response⟩ s n ending ∧
      (g.response = none → deadline ≤ g.now) := by
  have responded {r : Response} (response : g.response = some r) :
      g.response = none → deadline ≤ g.now := fun hnone => by cases response.symm.trans hnone
  cases took with
  | cancelled fired => cases hf.symm.trans fired
  | granted token deadline fired stage response =>
    cases stage
    cases ends with
    | leased grant stop => exact ⟨.leased stop response, responded response⟩
  | broke token deadline text fired stage response =>
    cases ends
    exact ⟨.broke text response, responded response⟩
  | fatal token deadline e fired stage fails final =>
    cases stage
    cases ends
    obtain ⟨failure, late⟩ := failure?_of_fails fails before upto
    exact ⟨.fatal e failure final, late⟩
  | exhausted token deadline e s' fired stage fails retryable next =>
    cases stage
    cases ends
    obtain ⟨failure, late⟩ := failure?_of_fails fails before upto
    refine ⟨?_, late⟩
    have hstop : s.next.1 = .stop := congrArg Prod.fst next
    exact count ▸ .exhausted e failure retryable hstop
  | gaveOut token deadline e text s' fired stage fails retryable next =>
    cases stage
    cases ends
    obtain ⟨failure, late⟩ := failure?_of_fails fails before upto
    exact ⟨.gaveOut e text failure retryable (congrArg Prod.fst next), late⟩

/-! ### The steps of an acquisition -/

namespace Tries

variable {underway : Option Underway}

lemma lt (h : w.Tries i a underway requests) : i < w.tasks.length :=
  (List.getElem?_eq_some_iff.mp h.task).1

lemma step (h : w.Tries i a underway requests) (hf : w.hasFired a.signal = false) :
    Tried w i ⟨.acquisition a, underway, none, none⟩ a (w.act (.step i)) :=
  tried_act h.task rfl rfl hf

lemma other (h : w.Tries i a underway requests) (hstep : b ≠ .step i) (habort : b ≠ .abort i) :
    (w.act b).Tries i a underway requests :=
  ⟨other_act h.task hstep habort, (requestsOf_act_of_ne hstep).trans h.requests⟩

/-- If the clock goes on without keeping the acquisition waiting, then it waits itself. -/
lemma rests (h : w.Tries i a underway requests) (hf : w.hasFired a.signal = false) {d : Nat}
    (hheeds : w.Heeds i (.advance d)) :
    w.moveRequest i ⟨.acquisition a, underway, none, none⟩ = none ∧
      a.Took (w.glimpse ⟨.acquisition a, underway, none, none⟩ a.signal) .rest ∧
      ∀ wake ∈ wakes ⟨.acquisition a, underway, none, none⟩, w.now + d ≤ wake := by
  obtain ⟨hstep, hwakes⟩ := hheeds
  obtain ⟨settled, took⟩ := tried_rest h.task rfl rfl hf hstep
  exact ⟨settled, took, hwakes _ h.task⟩

/-- The task has something else to do. -/
lemma set (h : w.Tries i a underway requests) (b : Acquisition) (u : Option Underway)
    (tasks : w'.tasks = w.tasks.set i ⟨.acquisition b, u, none, none⟩)
    (history : requestsOf i w'.history = requestsOf i w.history) : w'.Tries i b u requests :=
  ⟨by rw [tasks, List.getElem?_set_self h.lt], history.trans h.requests⟩

end Tries

/-- How far an acquisition has come: it is somewhere after its failed attempts, or over. -/
inductive Accounted (v : World) (work : Acquisition) (i : Nat) (acts : List Act) : Prop
  | pending {trials : List Trial} {s : Retry.Strategy} {due : Nat} {point : List Act}
      (account : v.Account work i trials s due point)
      (stands : v.Stands work i acts trials s due point)
  | concluded {trials : List Trial} {s : Retry.Strategy} {due : Nat} {point : List Act} {x : Trial}
      {ending : Ending} (account : v.Account work i trials s due point)
      (concluded : v.Concluded work i acts trials s due point x ending)

/-- An acquisition that is about to make an attempt makes it. -/
lemma step_of_ready (hf : (v.run acts).hasFired work.signal = false)
    (count : c.toNat = min trials.length 4294967295)
    (tries : (v.run acts).Tries i (work.midway s c .ready) none (v.requestsFor work trials))
    (since : point <+: acts) (late : due ≤ (v.run acts).now)
    (exact : v.Heeded i acts → (v.run acts).now = due) :
    v.Stands work i (acts ++ [.step i]) trials s due point := by
  have htried := tries.step hf
  have hrun := run_snoc v acts (.step i)
  generalize (v.run acts).act (.step i) = w' at htried hrun
  cases htried with
  | rested settled took =>
    cases took with
    | waited token deadline fired stage | slept wake fired stage => cases stage
  | moved w' moved =>
    obtain ⟨u, -, hu, -⟩ := moved.passes
    cases hu
  | went b settled took =>
    cases took with
    | retried token deadline e d s' fired stage | woke wake fired stage => cases stage
  | asked b r took =>
    cases took with
    | asked fired stage =>
      refine .asking (Retry.bump c) (.start ((v.run acts).attempt work) (v.run acts).acquirePlan
        (v.run acts).now) acts ⟨?_, ⟨?_, ?_⟩, ⟨?_, late, exact⟩, since, List.prefix_rfl, rfl, rfl, ?_,
          fun _ => ?_⟩
      · rw [Retry.toNat_bump, count]
        omega
      · rw [hrun]
        exact List.getElem?_set_self tries.lt
      · rw [hrun, ask_history, requestsOf_cons, tries.requests]
        simp [Event.asked?, attempt, glimpse, Acquisition.midway]
      · rw [hrun]
        rfl
      · rw [hrun]
        exact .start ..
      · rw [hrun]
        exact Instant.le_timer ..
  | ended w' o ending settled took =>
    obtain ⟨token, deadline, stage⟩ := asking_of_fin took hf
    cases stage

/-- An acquisition that waits for the next attempt to be due stops when it is. -/
lemma step_of_resting (hf : (v.run acts).hasFired work.signal = false)
    (count : c.toNat = min trials.length 4294967295)
    (tries : (v.run acts).Tries i (work.midway s c (.resting due)) none
      (v.requestsFor work trials))
    (since : point <+: acts) (early : v.Heeded i acts → (v.run acts).now ≤ due) :
    v.Stands work i (acts ++ [.step i]) trials s due point := by
  have htried := tries.step hf
  have hrun := run_snoc v acts (.step i)
  have hheeded (h : v.Heeded i (acts ++ [.step i])) : v.Heeded i acts := (heeded_snoc.mp h).1
  have hsince : point <+: acts ++ [.step i] := since.trans (List.prefix_append ..)
  generalize (v.run acts).act (.step i) = w' at htried hrun
  cases htried with
  | rested settled took =>
    exact .resting c count (hrun ▸ tries) hsince fun h => hrun ▸ early (hheeded h)
  | moved w' moved =>
    obtain ⟨u, -, hu, -⟩ := moved.passes
    cases hu
  | went b settled took =>
    cases took with
    | retried token deadline e d s' fired stage => cases stage
    | woke wake fired stage hdue =>
      cases stage
      refine .ready c count ?_ hsince (hrun ▸ hdue) fun h => ?_
      · rw [hrun]
        exact tries.set _ _ rfl rfl
      · rw [hrun]
        exact Nat.le_antisymm (early (hheeded h)) hdue
  | asked b r took =>
    cases took with
    | asked fired stage => cases stage
  | ended w' o ending settled took =>
    obtain ⟨token, deadline, stage⟩ := asking_of_fin took hf
    cases stage

namespace Asks

/-- Once the call has its turn, the attempt is over. -/
lemma makes (h : v.Asks work i acts trials s due point c u before)
    (settled : u.step (v.run acts).now (v.run acts).memory = none)
    (hdue : u.response? = none →
      Instant.timer (v.run before).now work.timeout ≤ (v.run acts).now) :
    v.Makes work i due ⟨before, acts, u.response?⟩ :=
  ⟨h.begins, h.since, h.course.came h.request h.plan settled h.early hdue⟩

/-- An acquisition with an attempt under way waits, or takes note of how the attempt went. -/
lemma step (h : v.Asks work i acts trials s due point c u before)
    (hf : (v.run acts).hasFired work.signal = false)
    (account : v.Account work i trials s due point) : v.Accounted work i (acts ++ [.step i]) := by
  have htried := h.tries.step hf
  have hrun := run_snoc v acts (.step i)
  have hheeded (hp : v.Heeded i (acts ++ [.step i])) : v.Heeded i acts := (heeded_snoc.mp hp).1
  have hsince : before ++ [.step i] <+: acts ++ [.step i] := h.since.trans (List.prefix_append ..)
  generalize (v.run acts).act (.step i) = w' at htried hrun
  cases htried with
  | rested settled took =>
    refine .pending account (.asking c u before { h with
      tries := hrun ▸ h.tries, since := hsince, course := ?_, early := fun hp => ?_ })
    · rw [hrun]
      exact h.course.mono rfl (fun _ he => he) hheeded
    · rw [hrun]
      exact h.early (hheeded hp)
  | moved w' moved =>
    obtain ⟨u', htasks, hrequest, hplan, hcourse⟩ := h.course.moved rfl moved
    obtain ⟨-, -, -, -, -, hnow, -, -⟩ := moved.passes
    refine .pending account (.asking c u' before { h with
      tries := ?_, since := hsince, request := hrequest.trans h.request,
      plan := hplan.trans h.plan, course := ?_, early := fun hp => ?_ })
    · rw [hrun]
      exact h.tries.set _ _ htasks (moved.requestsOf_eq i)
    · rw [hrun]
      exact hcourse.mono rfl (fun _ he => he) hheeded
    · rw [hrun, hnow]
      exact h.early (hheeded hp)
  | went b settled took =>
    cases took with
    | woke wake fired stage => cases stage
    | retried token deadline e d s' fired stage fails retryable next =>
      cases stage
      obtain ⟨failure, hdue⟩ := failure?_of_fails fails before acts
      have hmakes := h.makes (rests_of_settled settled rfl) hdue
      refine .pending (.failed _ e d account h.after hmakes failure retryable next)
        (.resting c h.count ?_ List.prefix_rfl fun _ => ?_)
      · rw [hrun, requestsFor_cons]
        exact h.tries.set _ _ rfl rfl
      · rw [hrun]
        exact Instant.le_timer ..
  | asked b r took =>
    cases took with
    | asked fired stage => cases stage
  | ended w' o ending settled took ends tasks history =>
    obtain ⟨settles, hdue⟩ := settles_of_took took hf ends h.count
    have hmakes := h.makes (rests_of_settled settled rfl) hdue
    have htask := congrArg (·[i]?) tasks
    simp only [List.getElem?_set_self h.tries.lt] at htask
    refine .concluded account ⟨h.after, hmakes, settles, hrun ▸ history, List.prefix_rfl,
      ⟨c, _, hrun ▸ htask⟩, ?_⟩
    rw [hrun, requestsOf_other rfl history, h.tries.requests, requestsFor_cons]

end Asks

namespace Stands

lemma step (h : v.Stands work i acts trials s due point)
    (hf : (v.run acts).hasFired work.signal = false)
    (account : v.Account work i trials s due point) : v.Accounted work i (acts ++ [.step i]) := by
  cases h with
  | ready c count tries since late exact =>
    exact .pending account (step_of_ready hf count tries since late exact)
  | resting c count tries since early =>
    exact .pending account (step_of_resting hf count tries since early)
  | asking c u before asks => exact asks.step hf account

/-- The clock goes on. -/
lemma advance (h : v.Stands work i acts trials s due point)
    (hf : (v.run acts).hasFired work.signal = false) (d : Nat) :
    v.Stands work i (acts ++ [.advance d]) trials s due point := by
  have hrun := run_snoc v acts (.advance d)
  have longer {first : List Act} (hfirst : first <+: acts) : first <+: acts ++ [.advance d] :=
    hfirst.trans (List.prefix_append ..)
  cases h with
  | ready c count tries since late exact =>
    have htries := tries.other (b := .advance d) Act.noConfusion Act.noConfusion
    refine .ready c count (hrun ▸ htries) (longer since) ?_ fun hp => ?_
    · rw [hrun]
      exact Nat.le_trans late (Nat.le_add_right ..)
    · -- an acquisition that is ready has its turn at once
      obtain ⟨-, took, -⟩ := tries.rests hf (heeded_snoc.mp hp).2
      cases took with
      | waited token deadline fired stage | slept wake fired stage => cases stage
  | resting c count tries since early =>
    have htries := tries.other (b := .advance d) Act.noConfusion Act.noConfusion
    refine .resting c count (hrun ▸ htries) (longer since) fun hp => ?_
    obtain ⟨-, -, hwakes⟩ := tries.rests hf (heeded_snoc.mp hp).2
    rw [hrun]
    exact hwakes due (by simp [wakes, Acquisition.midway, Acquisition.wake?])
  | asking c u before asks =>
    have htries := asks.tries.other (b := .advance d) Act.noConfusion Act.noConfusion
    refine .asking c u before { asks with
      tries := hrun ▸ htries, since := longer asks.since, course := ?_, early := fun hp => ?_ }
    · rw [hrun]
      refine asks.course.advance (fun hp => (heeded_snoc.mp hp).1) fun hp => ?_
      obtain ⟨settled, took, hwakes⟩ := asks.tries.rests hf (heeded_snoc.mp hp).2
      refine ⟨rests_of_settled settled rfl, ?_, fun wake hwake => hwakes wake ?_⟩
      · cases took with
        | waited token deadline fired stage response => exact response
        | slept wake fired stage => cases stage
      · rw [Option.mem_def] at hwake
        simp [wakes, hwake]
    · obtain ⟨-, -, hwakes⟩ := asks.tries.rests hf (heeded_snoc.mp hp).2
      rw [hrun]
      exact hwakes _ (by simp [wakes, Acquisition.midway, Acquisition.wake?])

/-- What happens elsewhere is none of its business. -/
lemma other (h : v.Stands work i acts trials s due point) (hstep : b ≠ .step i)
    (habort : b ≠ .abort i) (hadvance : ∀ d, b ≠ .advance d) :
    v.Stands work i (acts ++ [b]) trials s due point := by
  have hrun := run_snoc v acts b
  have hnow : (v.run (acts ++ [b])).now = (v.run acts).now := by
    rw [hrun, act_now _ hadvance]
  have hheeded (hp : v.Heeded i (acts ++ [b])) : v.Heeded i acts := (heeded_snoc.mp hp).1
  have longer {first : List Act} (hfirst : first <+: acts) : first <+: acts ++ [b] :=
    hfirst.trans (List.prefix_append ..)
  cases h with
  | ready c count tries since late exact =>
    exact .ready c count (hrun ▸ tries.other hstep habort) (longer since) (hnow ▸ late)
      fun hp => hnow ▸ exact (hheeded hp)
  | resting c count tries since early =>
    exact .resting c count (hrun ▸ tries.other hstep habort) (longer since)
      fun hp => hnow ▸ early (hheeded hp)
  | asking c u before asks =>
    refine .asking c u before { asks with
      tries := hrun ▸ asks.tries.other hstep habort, since := longer asks.since, course := ?_,
      early := fun hp => hnow ▸ asks.early (hheeded hp) }
    exact asks.course.mono hnow (fun e he => hrun ▸ mem_history_act _ b he) hheeded

end Stands

lemma Concluded.ended {point : List Act}
    (h : v.Concluded work i acts trials s due point x ending) :
    (v.run acts).ending? i = some ending := by
  obtain ⟨c, stage, htask⟩ := h.task
  rw [ending?, htask]
  rfl

/-- What is over stays so. -/
lemma Concluded.act {point : List Act} (h : v.Concluded work i acts trials s due point x ending)
    (b : Act) : v.Concluded work i (acts ++ [b]) trials s due point x ending := by
  obtain ⟨c, stage, htask⟩ := h.task
  have hrun := run_snoc v acts b
  refine { h with
    since := h.since.trans (List.prefix_append ..), task := ⟨c, stage, ?_⟩, requests := ?_ }
  · rw [hrun, ended_act _ b htask rfl]
  · rw [hrun, ← h.requests]
    exact requestsOf_run_of_ended htask rfl [b]

/-- **An acquisition is accounted for after every act that does not abort it.** -/
theorem Accounted.act (h : v.Accounted work i acts)
    (hf : (v.run acts).hasFired work.signal = false) (habort : b ≠ .abort i) :
    v.Accounted work i (acts ++ [b]) := by
  cases h with
  | concluded account concluded => exact .concluded account (concluded.act b)
  | pending account stands =>
    cases b.view i with
    | advance d => exact .pending account (stands.advance hf d)
    | own => exact stands.step hf account
    | other hstep hadvance => exact .pending account (stands.other hstep habort hadvance)

/-- A signal that has not fired after an act has not fired before it. -/
lemma unfired_of_act {signal : Option Signal} (h : (w.act b).hasFired signal = false) :
    w.hasFired signal = false := by
  cases signal with
  | none => rfl
  | some s =>
    simp only [hasFired, List.contains_eq_mem, decide_eq_false_iff_not] at h ⊢
    exact fun hm => h (w.mem_fired_act b hm)

lemma Accounted.run (h : v.Accounted work i []) (hf : (v.run acts).hasFired work.signal = false)
    (habort : .abort i ∉ acts) : v.Accounted work i acts := by
  induction acts using List.reverseRecOn with
  | nil => exact h
  | append_singleton acts b ih =>
    have hb : b ≠ .abort i := fun hb => habort (by simp [hb])
    have hbefore : (v.run acts).hasFired work.signal = false := unfired_of_act (run_snoc .. ▸ hf)
    exact (ih hbefore fun hm => habort (List.mem_append_left _ hm)).act hbefore hb

end World
end LeaseLock
