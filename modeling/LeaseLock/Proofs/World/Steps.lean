import Mathlib.Tactic.Common
import LeaseLock.Proofs.Store.Serve
import LeaseLock.World.Run

/-!
What a task does when it takes a step.

`Moved` lists every way in which a request can move on, and `Turned` every way in which the
call of a task can take its turn. Proofs about runs look at steps only through `step_cases`.
-/

namespace LeaseLock

/-! ### The turn of a machine, whatever its kind -/

/-- An outcome with another value. -/
def Outcome.map {α β : Type} (f : α → β) : Outcome α → Outcome β
  | .ok value => .ok (f value)
  | .failed e => .failed e
  | .broken text => .broken text

/-- A turn of a machine as one of a larger machine. -/
def Turn.map {σ τ α β : Type} (wrap : σ → τ) (f : α → β) : Turn σ α → Turn τ β
  | .rest => .rest
  | .go s => .go (wrap s)
  | .fire s signal => .fire (wrap s) signal
  | .ask s r => .ask (wrap s) r
  | .fin outcome => .fin (outcome.map f)

/-- What the call of a task does at its turn, unless it is a caller's or refused. -/
def Task.turn? (w : World) (t : Task) : Option (Turn Process (Option Grant)) :=
  match t.process with
  | .errand e => some ((e.turn (w.glimpse t none)).map .errand id)
  | .acquisition a => some ((a.turn (w.glimpse t a.signal)).map .acquisition some)
  | .renewal r => some ((r.turn (w.glimpse t (some r.lease.stop))).map .renewal fun _ => none)
  | .caller _ | .refused _ => none

namespace World

variable {w w' : World} {i : Nat} {t : Task}

lemma perform_map {σ α : Type} (w : World) (i : Nat) (t : Task) (wrap : σ → Process)
    (f : α → Option Grant) (turn : Turn σ α) :
    w.perform i t wrap f turn = w.perform i t id id (turn.map wrap f) := by
  rcases turn with _ | _ | _ | _ | (_ | _ | _) <;> rfl

/-- Every way in which the request of a task can move on. -/
inductive Moved (w : World) (i : Nat) (t : Task) : World → Prop
  | arrived (u : Underway) (due : Nat) (underway : t.underway = some u)
      (stage : u.stage = .outward due) (hdue : due ≤ w.now) :
      Moved w i t (w.setTask i { t with underway := some { u with stage := .arrived } })
  | served (u : Underway) (yes : Bool) (m : Memory) (underway : t.underway = some u)
      (stage : u.stage = .arrived) (deed : u.plan.deed = .serve)
      (serve : w.memory.Served w.now u.request (some yes) m) :
      Moved w i t (({ w with memory := m }.setTask i
        { t with underway := some (u.respond w.now (.granted yes)) }).record
          (.served w.now i u.request yes))
  /-- The store would have to name an instant that no clock can. -/
  | overflowed (u : Underway) (underway : t.underway = some u) (stage : u.stage = .arrived)
      (deed : u.plan.deed = .serve) (serve : w.memory.Served w.now u.request none w.memory) :
      Moved w i t (w.setTask i
        { t with underway := some { u with stage := .back (.broken Instant.overflowText) } })
  | answered (u : Underway) (yes : Bool) (underway : t.underway = some u)
      (stage : u.stage = .arrived) (deed : u.plan.deed = .answer yes) :
      Moved w i t (w.setTask i { t with underway := some (u.respond w.now (.granted yes)) })
  | failed (u : Underway) (e : LockError) (underway : t.underway = some u)
      (stage : u.stage = .arrived) (deed : u.plan.deed = .fail e) :
      Moved w i t (w.setTask i { t with underway := some (u.respond w.now (.failed e)) })
  | broke (u : Underway) (underway : t.underway = some u) (stage : u.stage = .arrived)
      (deed : u.plan.deed = .breakDown) :
      Moved w i t (w.setTask i
        { t with underway := some { u with stage := .back (.broken Underway.breakdownText) } })
  | returned (u : Underway) (due : Nat) (response : Response) (underway : t.underway = some u)
      (stage : u.stage = .homeward due response) (hdue : due ≤ w.now) :
      Moved w i t (w.setTask i { t with underway := some { u with stage := .back response } })

/-- Every way in which the call of a task can take its turn. -/
inductive Turned (w : World) (i : Nat) (t : Task) : World → Prop
  | went (p : Process) (turn : t.turn? w = some (.go p)) :
      Turned w i t (w.setTask i { t with process := p, underway := none })
  | fired (p : Process) (signal : Signal) (turn : t.turn? w = some (.fire p signal)) :
      Turned w i t ((w.fire signal).setTask i { t with process := p })
  | asked (p : Process) (r : Request) (turn : t.turn? w = some (.ask p r)) :
      Turned w i t (w.ask i { t with process := p } r)
  | leased (grant : Grant) (turn : t.turn? w = some (.fin (.ok (some grant)))) :
      Turned w i t (w.newSignal.2.finish i t (.leased { grant with stop := w.signals }))
  | done (turn : t.turn? w = some (.fin (.ok none))) : Turned w i t (w.finish i t .done)
  | failed (e : LockError) (turn : t.turn? w = some (.fin (.failed e))) :
      Turned w i t (w.finish i t (.failed e))
  | broke (text : String) (turn : t.turn? w = some (.fin (.broken text))) :
      Turned w i t (w.finish i t (.broken text))
  | refused (e : LockError) (process : t.process = .refused e) :
      Turned w i t (w.finish i t (.failed e))
  | joined (c : Caller) (work : Acquisition) (row : Flights.Row)
      (process : t.process = .caller c) (stage : c.stage = .entering work)
      (row? : (w.flightsOf c.group).table.find? work.key = some row) :
      Turned w i t ((w.setFlights c.group ((w.flightsOf c.group).enter work.key).2).setTask i
        { t with process := .caller { c with stage := .waiting row.number } })
  | entered (c : Caller) (work : Acquisition) (process : t.process = .caller c)
      (stage : c.stage = .entering work)
      (row? : (w.flightsOf c.group).table.find? work.key = none) :
      Turned w i t ((w.setFlights c.group ((w.flightsOf c.group).enter work.key).2).setTask i
        { t with process :=
            .caller { c with stage := .launching (w.flightsOf c.group).all.length work } })
  | launched (c : Caller) (number : Nat) (work : Acquisition) (process : t.process = .caller c)
      (stage : c.stage = .launching number work) :
      Turned w i t (((w.setFlights c.group ((w.flightsOf c.group).launch number)).setTask i
        { t with process := .caller { c with stage := .waiting number } }).spawn
          (.acquisition work) (some ⟨c.group, number⟩)).2
  | cancelled (c : Caller) (number : Nat) (process : t.process = .caller c)
      (stage : c.stage = .waiting number) (hfired : w.hasFired c.signal = true) :
      Turned w i t (w.finish i t (.failed .cancelled))
  | told (c : Caller) (number : Nat) (lease : Lease) (process : t.process = .caller c)
      (stage : c.stage = .waiting number) (hfired : w.hasFired c.signal = false)
      (outcome? : (w.flightsOf c.group).outcome? number = some (.ok lease)) :
      Turned w i t (w.finish i t (.leased lease))
  | toldFailure (c : Caller) (number : Nat) (e : LockError) (process : t.process = .caller c)
      (stage : c.stage = .waiting number) (hfired : w.hasFired c.signal = false)
      (outcome? : (w.flightsOf c.group).outcome? number = some (.error e)) :
      Turned w i t (w.finish i t (.failed e))

/-- A turn of a machine is one of the ways of `Turned`. -/
lemma turned_of_perform {turn : Turn Process (Option Grant)} (ht : t.turn? w = some turn)
    (h : w.perform i t id id turn = some w') : Turned w i t w' := by
  rcases turn with _ | p | ⟨p, signal⟩ | ⟨p, r⟩ | ((_ | grant) | e | text)
  · exact absurd h (by simp [perform])
  all_goals
    obtain rfl := Option.some.inj h
  · exact .went p ht
  · exact .fired p signal ht
  · exact .asked p r ht
  · exact .done ht
  · exact .leased grant ht
  · exact .failed e ht
  · exact .broke text ht

lemma turned_of_callerTurn {c : Caller} (hp : t.process = .caller c)
    (h : w.callerTurn i t c = some w') : Turned w i t w' := by
  unfold callerTurn at h
  split at h
  · next work hs =>
    unfold Flights.enter at h
    cases hrow : (w.flightsOf c.group).table.find? work.key with
    | some row =>
      have := Turned.joined c work row hp hs hrow (i := i)
      simp only [Flights.enter, hrow] at this h
      exact Option.some.inj h ▸ this
    | none =>
      have := Turned.entered c work hp hs hrow (i := i)
      simp only [Flights.enter, hrow] at this h
      exact Option.some.inj h ▸ this
  · next number work hs => exact Option.some.inj h ▸ .launched c number work hp hs
  · next number hs =>
    split at h
    · next hf => exact Option.some.inj h ▸ .cancelled c number hp hs hf
    · next hf =>
      obtain ⟨outcome, ho, rfl⟩ := Option.map_eq_some_iff.mp h
      rcases outcome with e | lease
      · exact .toldFailure c number e hp hs (by simpa using hf) ho
      · exact .told c number lease hp hs (by simpa using hf) ho

lemma turned_of_turn (h : w.turn i t = some w') : Turned w i t w' := by
  unfold turn at h
  split at h
  · next e hp => exact turned_of_perform (by simp [Task.turn?, hp]) (perform_map .. ▸ h)
  · next a hp => exact turned_of_perform (by simp [Task.turn?, hp]) (perform_map .. ▸ h)
  · next r hp => exact turned_of_perform (by simp [Task.turn?, hp]) (perform_map .. ▸ h)
  · next c hp => exact turned_of_callerTurn hp h
  · next e hp => exact Option.some.inj h ▸ .refused e hp

lemma moved_of_moveRequest (h : w.moveRequest i t = some w') : Moved w i t w' := by
  obtain ⟨u, hu, h⟩ := Option.bind_eq_some_iff.mp h
  obtain ⟨⟨u', m, served⟩, hstep, h⟩ := Option.bind_eq_some_iff.mp h
  unfold Underway.step at hstep
  split at hstep
  · next due hs =>
    split at hstep
    · next hdue =>
      cases hstep
      exact Option.some.inj h ▸ .arrived u due hu hs hdue
    · cases hstep
  · next hs =>
    split at hstep
    · next hd =>
      split at hstep
      · next yes m' hserve =>
        cases hstep
        exact Option.some.inj h ▸ .served u yes m hu hs hd (Memory.served_of_serve hserve)
      · next m' hserve =>
        cases hstep
        have hserved := Memory.served_of_serve hserve
        obtain rfl := hserved.eq_of_overflow
        exact Option.some.inj h ▸ .overflowed u hu hs hd hserved
    · next yes hd =>
      cases hstep
      exact Option.some.inj h ▸ .answered u yes hu hs hd
    · next e hd =>
      cases hstep
      exact Option.some.inj h ▸ .failed u e hu hs hd
    · cases hstep
    · next hd =>
      cases hstep
      exact Option.some.inj h ▸ .broke u hu hs hd
  · next due response hs =>
    split at hstep
    · next hdue =>
      cases hstep
      exact Option.some.inj h ▸ .returned u due response hu hs hdue
    · cases hstep
  · cases hstep

/-- **A step of a task that has not ended moves its request on, or gives its call a turn.** The
call has its turn only if it looks at its signal first or its request cannot move. -/
theorem step_cases (h : w.step i = some w') :
    ∃ t, w.tasks[i]? = some t ∧ t.ending = none ∧
      ((w.heedsSignalFirst t = false ∧ Moved w i t w') ∨
        ((w.heedsSignalFirst t = true ∨ w.moveRequest i t = none) ∧ Turned w i t w')) := by
  obtain ⟨t, ht, h⟩ := Option.bind_eq_some_iff.mp h
  refine ⟨t, ht, ?_⟩
  split at h
  · cases h
  · next hend =>
    refine ⟨by simpa using hend, ?_⟩
    split at h
    · next hheeds => exact .inr ⟨.inl hheeds, turned_of_turn h⟩
    · next hheeds =>
      cases hm : w.moveRequest i t with
      | some w₁ =>
        rw [hm] at h
        obtain rfl : w₁ = w' := Option.some.inj h
        exact .inl ⟨by simpa using hheeds, moved_of_moveRequest hm⟩
      | none =>
        rw [hm] at h
        exact .inr ⟨.inr rfl, turned_of_turn h⟩

/-- A task that takes a step does one of these things, or cannot do anything. -/
lemma act_step (w : World) (i : Nat) : w.act (.step i) = w ∨
    ∃ t, w.tasks[i]? = some t ∧ t.ending = none ∧
      (Moved w i t (w.act (.step i)) ∨ Turned w i t (w.act (.step i))) := by
  simp only [act]
  cases h : w.step i with
  | none => exact .inl rfl
  | some w' =>
    obtain ⟨t, ht, hend, ⟨-, hm⟩ | ⟨-, htu⟩⟩ := step_cases h
    · exact .inr ⟨t, ht, hend, .inl hm⟩
    · exact .inr ⟨t, ht, hend, .inr htu⟩

/-- A task is aborted, unless it has ended or never was. -/
lemma act_abort (w : World) (i : Nat) : w.act (.abort i) = w ∨
    ∃ t, w.tasks[i]? = some t ∧ t.ending = none ∧ w.act (.abort i) = w.finish i t .aborted := by
  simp only [act]
  split
  · next t ht =>
    split
    · exact .inl rfl
    · next hend => exact .inr ⟨t, ht, by simpa using hend, rfl⟩
  · exact .inl rfl

end World
end LeaseLock
