import Mathlib.Tactic.Common
import LeaseLock.Proofs.World.Effect
import LeaseLock.Proofs.World.Tasks

/-!
The pace of a renewal.

The clock goes by whole milliseconds and passes by nothing that the renewal waits for, and each
refresh is there and back within a given time. Then each refresh comes to the store before the
write of the one before it runs out: `InTime` is what the renewal needs, at each of its stages, of
the instant at which its lease expires.
-/

namespace LeaseLock

/-- When the event has task `i` put a request to the store. -/
def Event.askedAt? (i : Nat) : Event → Option Nat
  | .asked time j _ => if j = i then some time else none
  | _ => none

/-- When task `i` put its last request to the store. -/
def askedAt? (i : Nat) (history : List Event) : Option Nat := history.findSome? (·.askedAt? i)

lemma askedAt?_cons (i : Nat) (e : Event) (history : List Event) :
    askedAt? i (e :: history) = (e.askedAt? i).or (askedAt? i history) := by
  unfold askedAt?
  rw [List.findSome?_cons]
  cases e.askedAt? i <;> rfl

/-- Whether a response says that the store broke down. -/
def Underway.Stage.isBroken : Underway.Stage → Bool
  | .back (.broken _) => true
  | _ => false

namespace Renewal

variable {r : Renewal} {d : Nat}

/-- Whether a renewal waits long enough, and comes often enough, for refreshes that take up
to `d`. -/
structure Steady (r : Renewal) (d : Nat) : Prop where
  positive : 0 < r.interval.nanos
  patient : d < r.timeout.nanos
  often : max (Instant.roundUp r.interval.nanos) d + d < r.lease.ttl.nanos

lemma Steady.stage (h : r.Steady d) (stage : Stage) : Steady { r with stage } d :=
  ⟨h.positive, h.patient, h.often⟩

/-- Whether the tick came late or not, the next one is due an interval from now at the latest. -/
lemma roundUp_nextDue_le {interval : Span} {due now : Nat} (hwhole : 1000000 ∣ now)
    (hdue : Instant.roundUp due ≤ now) :
    Instant.roundUp (nextDue interval due now) ≤ now + Instant.roundUp interval.nanos := by
  have hle : nextDue interval due now ≤ now + interval.nanos := by
    have := Instant.le_roundUp due
    unfold nextDue
    split <;> omega
  calc Instant.roundUp (nextDue interval due now)
      ≤ Instant.roundUp (now + interval.nanos) := Instant.roundUp_mono hle
    _ = now + Instant.roundUp interval.nanos := Instant.roundUp_add hwhole _

end Renewal

namespace World

variable {w w' : World} {j : Nat} {t : Task} {a : Act} {d : Nat}

/-! ### Time and the steps of a task -/

/-- Only task `j` puts requests of task `j` to the store. -/
lemma askedAt?_act (w : World) (hstep : a ≠ .step j) :
    askedAt? j (w.act a).history = askedAt? j w.history := by
  have other {e : Event} (he : e.askedAt? j = none) (h : (w.act a).history = e :: w.history) :
      askedAt? j (w.act a).history = askedAt? j w.history := by
    rw [h, askedAt?_cons, he, Option.none_or]
  cases w.act_effect a with
  | still memory history => rw [history]
  | noted e quiet memory history =>
    exact other (by cases e <;> first | rfl | exact quiet.elim) history
  | asked i t p r act task turn memory history =>
    have hij : i ≠ j := fun hij => hstep (hij ▸ act)
    exact other (by simp [Event.askedAt?, hij]) history
  | served i t u yes act task underway stage serve history => exact other rfl history
  | intruded r yes act serve history => exact other rfl history
  | expired key memory history => exact other rfl history

/-- Whether the clock moves, if it does, by whole milliseconds, when task `j` has nothing left to
do, and not past an instant that task `j` waits for. -/
def Punctual (w : World) (j : Nat) : Act → Prop
  | .advance x => 1000000 ∣ x ∧ w.step j = none ∧
    ∀ t ∈ w.tasks[j]?, ∀ wake ∈ wakes t, w.now + x ≤ wake
  | _ => True

/-- Whether the request that task `j` has under way comes to the store, is served there and comes
back within `d`. -/
def Prompt (w : World) (j d : Nat) : Prop :=
  ∀ t ∈ w.tasks[j]?, ∀ u ∈ t.underway, ∀ time ∈ askedAt? j w.history,
    w.now ≤ time + d ∧ u.plan.deed = .serve ∧ u.stage.isBroken = false

/-- Whether a run keeps to the times of task `j`, whose requests take up to `d`. -/
def Timely (w : World) (j d : Nat) : List Act → Prop
  | [] => w.Prompt j d
  | a :: acts => w.Prompt j d ∧ w.Punctual j a ∧ (w.act a).Timely j d acts

instance : Decidable (w.Punctual j a) :=
  match a with
  | .advance x => inferInstanceAs (Decidable (1000000 ∣ x ∧ w.step j = none ∧
      ∀ t ∈ w.tasks[j]?, ∀ wake ∈ wakes t, w.now + x ≤ wake))
  | .step _ | .spawn _ | .abort _ | .fire _ | .newSignal | .expire _ | .intrude _ | .plan _ =>
    .isTrue trivial

instance : Decidable (w.Prompt j d) :=
  inferInstanceAs (Decidable (∀ t ∈ w.tasks[j]?, ∀ u ∈ t.underway,
    ∀ time ∈ askedAt? j w.history,
      w.now ≤ time + d ∧ u.plan.deed = .serve ∧ u.stage.isBroken = false))

instance Timely.decidable : (w : World) → (acts : List Act) → Decidable (w.Timely j d acts)
  | w, [] => inferInstanceAs (Decidable (w.Prompt j d))
  | w, a :: acts =>
    have := Timely.decidable (w.act a) acts
    inferInstanceAs (Decidable (w.Prompt j d ∧ w.Punctual j a ∧ (w.act a).Timely j d acts))

lemma Timely.prompt {acts : List Act} (h : w.Timely j d acts) : w.Prompt j d := by
  cases acts with
  | nil => exact h
  | cons a acts => exact h.1

lemma Timely.split {first rest : List Act} (h : w.Timely j d (first ++ rest)) :
    w.Timely j d first ∧ (w.run first).Timely j d rest := by
  induction first generalizing w with
  | nil => exact ⟨h.prompt, h⟩
  | cons a first ih => exact ⟨⟨h.1, h.2.1, (ih h.2.2).1⟩, (ih h.2.2).2⟩

/-! ### A renewal in time -/

/-- What a renewal at one of its stages needs of the instant at which its lease expires, if its
refreshes take up to `d`. -/
inductive InTime (w : World) (j : Nat) (t : Task) (r : Renewal) (d expires : Nat) :
    Renewal.Stage → Prop
  | fresh (idle : t.underway = none)
      (early : w.now + Instant.roundUp r.interval.nanos + d < expires) :
      InTime w j t r d expires .fresh
  | ticking (due : Nat) (idle : t.underway = none) (early : w.now + d < expires)
      (next : Instant.roundUp due + d < expires) : InTime w j t r d expires (.ticking due)
  /-- The refresh that was asked for at `time` has yet to be served. -/
  | unserved (due deadline time : Nat) (u : Underway) (underway : t.underway = some u)
      (out : (∃ arrival, u.stage = .outward arrival) ∨ u.stage = .arrived)
      (asked : askedAt? j w.history = some time) (since : time ≤ w.now)
      (patient : time + d < deadline)
      (next : Instant.roundUp due ≤ time + Instant.roundUp r.interval.nanos)
      (early : time + d < expires) : InTime w j t r d expires (.asking due deadline)
  | served (due deadline time : Nat) (u : Underway) (underway : t.underway = some u)
      (home : (∃ arrival, u.stage = .homeward arrival (.granted true)) ∨
        u.stage = .back (.granted true))
      (asked : askedAt? j w.history = some time) (patient : time + d < deadline)
      (next : Instant.roundUp due ≤ time + Instant.roundUp r.interval.nanos)
      (early : time + r.lease.ttl.nanos ≤ expires) : InTime w j t r d expires (.asking due deadline)

/-- What a turn that a renewal takes in time can be. -/
inductive Goes (w : World) (r : Renewal) (d expires : Nat) : Turn Renewal Unit → Prop
  | rest : Goes w r d expires .rest
  | ticking (due : Nat) (early : w.now + d < expires) (next : Instant.roundUp due + d < expires) :
      Goes w r d expires (.go { r with stage := .ticking due })
  | asking (due : Nat) (early : w.now + d < expires)
      (next : Instant.roundUp due ≤ w.now + Instant.roundUp r.interval.nanos) :
      Goes w r d expires (r.ask w.now due)

namespace InTime

variable {r : Renewal} {stage : Renewal.Stage} {expires : Nat}

/-- The lease is held meanwhile. -/
lemma live (h : w.InTime j t r d expires stage) (ht : w.tasks[j]? = some t)
    (hprompt : w.Prompt j d) (hr : r.Steady d) : w.now < expires := by
  cases h with
  | fresh idle early => omega
  | ticking due idle early next => omega
  | unserved due deadline time u underway out asked since patient next early =>
    have := (hprompt t ht u underway time asked).1
    omega
  | served due deadline time u underway home asked patient next early =>
    have := (hprompt t ht u underway time asked).1
    have := hr.often
    omega

/-- A later end of the lease does no harm. -/
lemma mono (h : w.InTime j t r d expires stage) {later : Nat} (hle : expires ≤ later)
    (hnow : w'.now = w.now) (hasked : askedAt? j w'.history = askedAt? j w.history) :
    w'.InTime j t r d later stage := by
  cases h with
  | fresh idle early => exact .fresh idle (by omega)
  | ticking due idle early next => exact .ticking due idle (by omega) (by omega)
  | unserved due deadline time u underway out asked since patient next early =>
    exact .unserved due deadline time u underway out (hasked ▸ asked) (by omega) patient next
      (by omega)
  | served due deadline time u underway home asked patient next early =>
    exact .served due deadline time u underway home (hasked ▸ asked) patient next (by omega)

/-- The deadline of a refresh is not over, and if there is a response, the store granted it. -/
lemma pending {due deadline : Nat} (h : w.InTime j t r d expires (.asking due deadline))
    (ht : w.tasks[j]? = some t) (hprompt : w.Prompt j d) :
    w.now < deadline ∧ ∀ response, t.underway.bind (·.response?) = some response →
      response = .granted true := by
  cases h with
  | unserved _ _ time u underway out asked since patient next early =>
    have := (hprompt t ht u underway time asked).1
    refine ⟨by omega, fun response hresponse => ?_⟩
    rcases out with ⟨arrival, hu⟩ | hu <;> simp [underway, Underway.response?, hu] at hresponse
  | served _ _ time u underway home asked patient next early =>
    have := (hprompt t ht u underway time asked).1
    refine ⟨by omega, fun response hresponse => ?_⟩
    rcases home with ⟨arrival, hu⟩ | hu <;> simp [underway, Underway.response?, hu] at hresponse
    exact hresponse.symm

/-- Once the store has granted a refresh, there is time for the next. -/
lemma refreshed {due deadline : Nat} (h : w.InTime j t r d expires (.asking due deadline))
    (ht : w.tasks[j]? = some t) (hprompt : w.Prompt j d) (hr : r.Steady d)
    {response : Response} (hresponse : t.underway.bind (·.response?) = some response) :
    w.now + d < expires ∧ Instant.roundUp due + d < expires := by
  cases h with
  | unserved _ _ time u underway out asked since patient next early =>
    rcases out with ⟨arrival, hu⟩ | hu <;> simp [underway, Underway.response?, hu] at hresponse
  | served _ _ time u underway home asked patient next early =>
    have := (hprompt t ht u underway time asked).1
    have := hr.often
    omega

/-- A renewal that takes its turn in time rests, goes on or asks for the next refresh: it comes
upon no failure, and the deadline of its refresh is never over. -/
lemma goes (h : w.InTime j t r d expires r.stage) (ht : w.tasks[j]? = some t)
    (hprompt : w.Prompt j d) (hr : r.Steady d) (hwhole : 1000000 ∣ w.now)
    (hstop : r.lease.stop ∉ w.fired) (hlimit : expires < Instant.limit)
    {turn : Turn Renewal Unit} (took : r.Took (w.glimpse t (some r.lease.stop)) turn) :
    w.Goes r d expires turn := by
  have unfired : (w.glimpse t (some r.lease.stop)).fired ≠ true := by
    simpa [glimpse, hasFired] using hstop
  have unfailed {due deadline : Nat} {e : LockError} (stage : r.stage = .asking due deadline) :
      ¬ (w.glimpse t (some r.lease.stop)).Fails .notHeld deadline e := by
    obtain ⟨hdeadline, hresponse⟩ := (stage ▸ h).pending ht hprompt
    intro fails
    cases fails with
    | refused response => cases hresponse _ response
    | failed e response => cases hresponse _ response
    | late response due => exact absurd hdeadline (Nat.not_lt.mpr due)
  have hle := Instant.le_roundUp r.interval.nanos
  -- what `InTime` says of the stage that a turn needs excludes every turn but three
  cases took with
  | invalid stage zero =>
    have := hr.positive
    simp only [Span.isZero_iff] at zero
    omega
  | begun due stage zero after =>
    obtain ⟨-, rfl⟩ := Instant.after?_eq_some.mp after
    rw [stage] at h
    cases h with
    | fresh idle early =>
      have hround := Instant.roundUp_add hwhole r.interval.nanos
      exact .ticking _ (by omega) (by simp only [glimpse]; omega)
  | overflowed stage zero after =>
    have := Instant.after?_eq_none.mp after
    rw [stage] at h
    cases h with
    | fresh idle early =>
      simp only [glimpse] at this
      omega
  | stopped due stage fired | excused due deadline e stage fails timeout fired =>
    exact absurd fired unfired
  | ticked due stage fired hdue =>
    rw [stage] at h
    cases h with
    | ticking _ idle early next => exact .asking _ early (Renewal.roundUp_nextDue_le hwhole hdue)
  | slept | waited => exact .rest
  | repeated due stage fired =>
    rw [stage] at h
    cases h
  | granted due deadline stage response =>
    obtain ⟨early, next⟩ := (stage ▸ h).refreshed ht hprompt hr response
    exact .ticking due early next
  | broke due deadline text stage response =>
    cases ((stage ▸ h).pending ht hprompt).2 _ response
  | late due deadline e stage fails timeout | failed due deadline e stage fails timeout fired =>
    exact absurd fails (unfailed stage)

end InTime

end World
end LeaseLock
