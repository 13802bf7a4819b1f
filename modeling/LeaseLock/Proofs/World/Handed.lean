import Mathlib.Tactic.Common
import LeaseLock.Proofs.Shared.Flights
import LeaseLock.Proofs.World.Sound

/-!
Where leases come from.

A lease comes into a caller's hands by the caller's own acquisition or by way of a flight, and
a flight has it from the task that was its work. So the store granted every lease that was
handed out.
-/

namespace LeaseLock.World

variable {w w' : World} {i : Nat} {t : Task}

/-- Every lease that anyone has got or will find on a flight was acquired. -/
structure Handed (w : World) : Prop where
  ended : ∀ lease, w.HandedOut lease → w.Acquired lease.toGrant
  landed : ∀ group number lease, (w.flightsOf group).outcome? number = some (.ok lease) →
    w.Acquired lease.toGrant

lemma handed_start (plans : Plans) : (start plans).Handed where
  ended lease := by rintro ⟨time, i, h⟩; cases h
  landed group number lease h := by cases h

lemma Acquired.mono {grant : Grant} (h : w.Acquired grant)
    (hsub : ∀ e ∈ w.history, e ∈ w'.history) : w'.Acquired grant := by
  obtain ⟨time, i, hm⟩ := h
  exact ⟨time, i, hsub _ hm⟩

lemma acquired_of_latest? {grant : Grant}
    (h : latest? i w.history = some (.acquire grant.key grant.token grant.ttl, some true)) :
    w.Acquired grant := by
  obtain ⟨time, hm⟩ := served_of_latest? h
  exact ⟨time, i, hm⟩

/-- Only a task that ends with a lease brings one home. -/
lemma eq_leased_of_outcomeOf {ending : Ending} {lease : Lease}
    (h : outcomeOf ending = .ok lease) : ending = .leased lease := by
  cases ending <;> cases h
  rfl

namespace Handed

/-- A world in which no lease is handed out that was not before. -/
lemma grow (hw : w.Handed) (hsub : ∀ e ∈ w.history, e ∈ w'.history)
    (hended : ∀ lease, w'.HandedOut lease → w.HandedOut lease)
    (hflights : ∀ group, w'.flightsOf group = w.flightsOf group) : w'.Handed where
  ended lease h := (hw.ended lease (hended lease h)).mono hsub
  landed group number lease h := by
    rw [hflights] at h
    exact (hw.landed group number lease h).mono hsub

lemma same (hw : w.Handed) (hhistory : w'.history = w.history)
    (hflights : ∀ group, w'.flightsOf group = w.flightsOf group) : w'.Handed :=
  hw.grow (fun e he => hhistory ▸ he) (fun lease h => by rwa [HandedOut, hhistory] at h)
    hflights

lemma noted (hw : w.Handed) {e : Event} (hhistory : w'.history = e :: w.history)
    (he : ∀ time i lease, e ≠ .ended time i (.leased lease))
    (hflights : ∀ group, w'.flightsOf group = w.flightsOf group) : w'.Handed := by
  refine hw.grow (fun x hx => hhistory ▸ List.mem_cons_of_mem e hx) ?_ hflights
  rintro lease ⟨time, i, hm⟩
  rw [hhistory] at hm
  rcases List.mem_cons.mp hm with heq | hm
  · exact absurd heq.symm (he time i lease)
  · exact ⟨time, i, hm⟩

lemma setFlights (hw : w.Handed) {group : String} {f : Flights Shared}
    (h : ∀ number lease, f.outcome? number = some (.ok lease) →
      w.Acquired lease.toGrant) : (w.setFlights group f).Handed where
  ended := hw.ended
  landed g number lease hl := by
    rw [setFlights_flightsOf] at hl
    split at hl
    · exact h number lease hl
    · exact hw.landed g number lease hl

lemma fire (hw : w.Handed) (s : Signal) : (w.fire s).Handed := by
  rcases w.fire_cases s with ⟨-, h⟩ | ⟨-, h⟩
  · rw [h]
    exact hw
  · exact hw.noted h (fun _ _ _ => Event.noConfusion) (w.fire_flightsOf s)

/-- A task ends with a lease only if that was acquired; its flight gets what it ends with. -/
lemma finish (hw : w.Handed) {ending : Ending}
    (he : ∀ lease, ending = .leased lease → w.Acquired lease.toGrant) :
    (w.finish i t ending).Handed := by
  let w₁ := (w.setTask i { t with underway := none, ending := some ending }).record
    (.ended w.now i ending)
  have grown {grant : Grant} (h : w.Acquired grant) : w₁.Acquired grant :=
    h.mono fun e he => List.mem_cons_of_mem _ he
  have hw₁ : w₁.Handed := by
    refine ⟨?_, fun group number lease h => grown (hw.landed group number lease h)⟩
    rintro lease ⟨time, j, hm⟩
    rcases List.mem_cons.mp hm with heq | hm
    · cases heq
      exact grown (he lease rfl)
    · exact grown (hw.ended lease ⟨time, j, hm⟩)
  unfold World.finish
  split
  · next duty hduty =>
    refine hw₁.setFlights fun number lease h => ?_
    rcases Flights.outcome?_of_land h with heq | h
    · exact grown (he lease (eq_leased_of_outcomeOf heq.symm))
    · exact hw₁.landed duty.group number lease h
  · exact hw₁

end Handed

lemma Moved.handed (hw : w.Handed) (h : Moved w i t w') : w'.Handed := by
  cases h with
  | served u yes m underway stage deed serve =>
    exact hw.noted (e := .served w.now i u.request yes) rfl (fun _ _ _ => Event.noConfusion)
      fun _ => rfl
  | _ => exact hw.same rfl fun _ => rfl

lemma Turned.handed (hw : w.Handed) (hs : t.Sound w.fired (latest? i w.history))
    (h : Turned w i t w') : w'.Handed := by
  cases h with
  | went p turn => exact hw.same rfl fun _ => rfl
  | fired p signal turn => exact (hw.fire signal).same rfl fun _ => rfl
  | asked p r turn =>
    exact hw.noted (ask_history ..) (fun _ _ _ => Event.noConfusion) fun _ => rfl
  | leased grant turn =>
    have hsignal : w.newSignal.2.Handed := hw.same rfl fun _ => rfl
    refine hsignal.finish fun lease hl => ?_
    cases hl
    exact acquired_of_latest? ((Task.took_of_turn? turn).leased hs)
  | told c number lease process stage hfired outcome? =>
    refine hw.finish fun lease' hl => ?_
    cases hl
    exact hw.landed c.group number lease outcome?
  | done | failed | broke | refused | cancelled | toldFailure =>
    exact hw.finish fun lease hl => by cases hl
  | joined c work row process stage row? =>
    refine (hw.setFlights fun number lease h => ?_).same rfl fun _ => rfl
    exact hw.landed c.group number lease (Flights.outcome?_of_enter h)
  | entered c work process stage row? =>
    refine (hw.setFlights fun number lease h => ?_).same rfl fun _ => rfl
    exact hw.landed c.group number lease (Flights.outcome?_of_enter h)
  | launched c number work process stage =>
    refine (hw.setFlights fun number lease h => ?_).same rfl fun _ => rfl
    exact hw.landed c.group number lease (Flights.outcome?_of_launch h)

lemma Handed.act (hw : w.Handed) (hs : w.Sound) (a : Act) : (w.act a).Handed := by
  cases a with
  | step i =>
    rcases w.act_step i with h | ⟨t, ht, -, hm | htu⟩
    · rwa [h]
    · exact hm.handed hw
    · exact htu.handed hw (hs.tasks i t ht)
  | abort i =>
    rcases w.act_abort i with h | ⟨t, -, -, h⟩
    · rwa [h]
    · rw [h]
      exact hw.finish fun lease hl => by cases hl
  | fire s => exact hw.fire s
  | expire key =>
    exact hw.noted (e := .expired w.now key) rfl (fun _ _ _ => Event.noConfusion) fun _ => rfl
  | intrude r =>
    simp only [World.act]
    split
    · next yes m h =>
      exact hw.noted (e := .intruded w.now r yes) rfl (fun _ _ _ => Event.noConfusion)
        fun _ => rfl
    · exact hw.same rfl fun _ => rfl
  | advance d => exact hw.same rfl fun _ => rfl
  | spawn process => exact hw.same rfl fun _ => rfl
  | newSignal => exact hw.same rfl fun _ => rfl
  | plan plans => exact hw.same rfl fun _ => rfl

/-- **The store granted every lease that was handed out.** -/
theorem Handed.run (hw : w.Handed) (hs : w.Sound) {acts : List Act}
    (ha : ∀ a ∈ acts, a.Lawful) : (w.run acts).Handed := by
  induction acts generalizing w with
  | nil => exact hw
  | cons a acts ih =>
    exact ih (hw.act hs a) (hs.act (ha a List.mem_cons_self))
      fun b hb => ha b (List.mem_cons_of_mem a hb)

end LeaseLock.World
