import Mathlib.Tactic.Common
import LeaseLock.Proofs.Call.Turns
import LeaseLock.Proofs.World.Frame
import LeaseLock.Proofs.World.Steps
import LeaseLock.World.History

/-!
How the tasks of a world agree with its history.

A task has at most one request under way, the last one that it put to the store, and the
response that its call gets to see is the answer that the history has. So the end of a call
tells what the store answered last. `Task.Sound` says this of one task; it outlives every step.
-/

namespace LeaseLock

/-! ### The last request of a task -/

lemma latest?_cons (i : Nat) (e : Event) (history : List Event) :
    latest? i (e :: history) = (e.request? i).or (latest? i history) := by
  unfold latest?
  rw [List.findSome?_cons]
  cases e.request? i <;> rfl

lemma latest?_of_none {i : Nat} {e : Event} (h : e.request? i = none) (history : List Event) :
    latest? i (e :: history) = latest? i history := by
  rw [latest?_cons, h, Option.none_or]

/-- A request that counts as answered was served. -/
lemma served_of_latest? {i : Nat} {history : List Event} {r : Request} {yes : Bool}
    (h : latest? i history = some (r, some yes)) :
    ∃ time, .served time i r yes ∈ history := by
  obtain ⟨e, he, hr⟩ := List.exists_of_findSome?_eq_some h
  cases e <;> simp [Event.request?] at hr
  obtain ⟨rfl, rfl, rfl⟩ := hr
  exact ⟨_, he⟩

/-! ### What calls put to the store -/

namespace Process

/-- The requests that a call may put to the store. -/
def Puts : Process → Request → Prop
  | .errand e, r => ∃ token, r = Errand.request e.kind token
  | .acquisition a, r => ∃ token, r = .acquire a.key token a.ttl
  | .renewal x, r => r = .refresh x.lease.key x.lease.token x.lease.ttl
  | .caller _, _ | .refused _, _ => False

/-- The request to which a call awaits the response. -/
def Awaits : Process → Request → Prop
  | .errand e, r => ∃ token, e.stage = .asked token ∧ r = Errand.request e.kind token
  | .acquisition a, r => ∃ token deadline, a.stage = .asking token deadline ∧
      r = .acquire a.key token a.ttl
  | .renewal x, r => (∃ due deadline, x.stage = .asking due deadline) ∧
      r = .refresh x.lease.key x.lease.token x.lease.ttl
  | .caller _, _ | .refused _, _ => False

/-- Whether a call is a renewal before its first turn. -/
def Unbegun : Process → Prop
  | .renewal x => x.stage = .fresh
  | _ => False

variable {p : Process} {r : Request}

lemma Awaits.puts (h : p.Awaits r) : p.Puts r := by
  cases p with
  | errand e =>
    obtain ⟨token, -, hr⟩ := h
    exact ⟨token, hr⟩
  | acquisition a =>
    obtain ⟨token, -, -, hr⟩ := h
    exact ⟨token, hr⟩
  | renewal x => exact h.2
  | caller | refused => exact h

lemma Awaits.begun (h : p.Awaits r) : ¬ p.Unbegun := by
  cases p with
  | renewal x =>
    obtain ⟨⟨due, deadline, hs⟩, -⟩ := h
    simp [Unbegun, hs]
  | _ => exact id

end Process

/-- What a turn leaves of a call that goes on. -/
def Turn.next? {σ α : Type} : Turn σ α → Option σ
  | .go s | .fire s _ | .ask s _ => some s
  | .rest | .fin _ => none

/-- Every turn of the machine of a task. -/
inductive Task.Took (w : World) (t : Task) : Turn Process (Option Grant) → Prop
  | errand (e : Errand) (turn : Turn Errand (Option Grant)) (process : t.process = .errand e)
      (took : e.Took (w.glimpse t none) turn) : Took w t (turn.map .errand id)
  | acquisition (a : Acquisition) (turn : Turn Acquisition Grant)
      (process : t.process = .acquisition a) (took : a.Took (w.glimpse t a.signal) turn) :
      Took w t (turn.map .acquisition some)
  | renewal (x : Renewal) (turn : Turn Renewal Unit) (process : t.process = .renewal x)
      (took : x.Took (w.glimpse t (some x.lease.stop)) turn) :
      Took w t (turn.map .renewal fun _ => none)

section turn?

variable {w : World} {t : Task} {turn : Turn Process (Option Grant)} {p : Process} {r : Request}

lemma Task.took_of_turn? (h : t.turn? w = some turn) : t.Took w turn := by
  unfold Task.turn? at h
  split at h
  · next e hp => exact Option.some.inj h ▸ .errand e _ hp (e.turn_took _)
  · next a hp => exact Option.some.inj h ▸ .acquisition a _ hp (a.turn_took _)
  · next x hp => exact Option.some.inj h ▸ .renewal x _ hp (x.turn_took _)
  · cases h
  · cases h

/-- A call that goes on may put the same requests to the store as before. -/
lemma Task.Took.next (h : t.Took w turn) (hp : turn.next? = some p) :
    p.Puts = t.process.Puts ∧ ¬ p.Unbegun := by
  cases h with
  | errand e turn process took =>
    rw [process]
    cases took <;> cases hp <;> exact ⟨rfl, id⟩
  | acquisition a turn process took =>
    rw [process]
    cases took <;> cases hp <;> exact ⟨rfl, id⟩
  | renewal x turn process took =>
    rw [process]
    cases took <;> cases hp <;> exact ⟨rfl, by simp [Process.Unbegun]⟩

/-- A call that puts a request to the store awaits the response, and a token that it presents
as a new one is fresh. -/
lemma Task.Took.ask (h : t.Took w (.ask p r)) :
    p.Awaits r ∧ ∀ token, r.presents? = some token → token = .minted (w.minted + 1) := by
  generalize hturn : Turn.ask p r = turn at h
  cases h with
  | errand e turn process took =>
    cases took <;> cases hturn
    refine ⟨⟨_, rfl, rfl⟩, fun token ht => ?_⟩
    cases hk : e.kind <;> rw [hk] at ht <;> cases ht
    rfl
  | acquisition a turn process took =>
    cases took <;> cases hturn
    exact ⟨⟨_, _, rfl, rfl⟩, fun token ht => by cases ht; rfl⟩
  | renewal x turn process took =>
    cases took <;> cases hturn <;>
      exact ⟨⟨⟨_, _, rfl⟩, rfl⟩, fun token ht => by cases ht⟩

/-- A call fires a signal only while it awaits nothing. -/
lemma Task.Took.fire {signal : Signal} (h : t.Took w (.fire p signal)) :
    ¬ t.process.Awaits r := by
  generalize hturn : Turn.fire p signal = turn at h
  cases h with
  | errand e turn process took =>
    rw [process]
    cases took <;> cases hturn
    next stage => simp [Process.Awaits, stage]
  | acquisition a turn process took => cases took <;> cases hturn
  | renewal x turn process took => cases took <;> cases hturn

end turn?

/-! ### A task and the history -/

/-- The store's answer, if that is what a response is. -/
def Response.answer? : Response → Option Bool
  | .granted yes => some yes
  | .failed _ | .broken _ => none

/-- The answer that a request brings home. -/
def Underway.Stage.answer? : Underway.Stage → Option Bool
  | .outward _ | .arrived => none
  | .homeward _ response | .back response => response.answer?

@[simp] lemma Underway.respond_answer? (u : Underway) (now : Nat) (response : Response) :
    (u.respond now response).stage.answer? = response.answer? := by
  unfold Underway.respond
  cases u.plan.after <;> rfl

@[simp] lemma Underway.start_answer? (r : Request) (plan : Plan) (now : Nat) :
    (Underway.start r plan now).stage.answer? = none := by
  unfold Underway.start
  cases plan.before <;> rfl

/-- How the end of a call agrees with the last answer of the store. -/
structure Process.Settled (p : Process) (fired : List Signal)
    (last : Option (Request × Option Bool)) (ending : Ending) : Prop where
  /-- An owner who was refused is told that the lease is not held, if anything. -/
  refused : ∀ r, last = some (r, some false) → r.presents? = none →
    ending = .failed .notHeld ∨ ending = .aborted ∨
      ending = .done ∧ ∃ x, p = .renewal x ∧ x.lease.stop ∈ fired
  unlocked : ∀ lease stage, p = .errand ⟨.unlock lease, stage⟩ → ending = .done →
    last = some (.release lease.key lease.token, some true)

/-- How a task agrees with the last request that the history has of it. -/
structure Task.Sound (t : Task) (fired : List Signal) (last : Option (Request × Option Bool)) :
    Prop where
  awaits : ∀ u, t.underway = some u → t.process.Awaits u.request
  told : ∀ u, t.underway = some u → last = some (u.request, u.stage.answer?)
  honest : ∀ u, t.underway = some u → u.plan.Honest
  puts : ∀ r answer, last = some (r, answer) → t.process.Puts r
  unbegun : t.process.Unbegun → last = none
  settled : ∀ ending, t.ending = some ending → t.process.Settled fired last ending

namespace Task.Sound

variable {w : World} {t : Task} {fired : List Signal} {last : Option (Request × Option Bool)}

/-- A task whose call awaits the response to the request under way. -/
lemma of_underway {u : Underway} (hend : t.ending = none) (hu : t.underway = some u)
    (haw : t.process.Awaits u.request) (hp : u.plan.Honest) :
    t.Sound fired (some (u.request, u.stage.answer?)) where
  awaits v hv := by rw [hu] at hv; cases hv; exact haw
  told v hv := by rw [hu] at hv; cases hv; rfl
  honest v hv := by rw [hu] at hv; cases hv; exact hp
  puts r answer hl := by cases hl; exact haw.puts
  unbegun hb := absurd hb haw.begun
  settled ending he := by rw [hend] at he; cases he

/-- A task before its first request. -/
lemma of_fresh (p : Process) (duty : Option Duty) : (⟨p, none, duty, none⟩ : Task).Sound fired none
    where
  awaits u hu := by cases hu
  told u hu := by cases hu
  honest u hu := by cases hu
  puts r answer hl := by cases hl
  unbegun _ := rfl
  settled ending he := by cases he

/-- More signals do no harm. -/
lemma mono {more : List Signal} (hs : t.Sound fired last) (hsub : ∀ s ∈ fired, s ∈ more) :
    t.Sound more last where
  awaits := hs.awaits
  told := hs.told
  honest := hs.honest
  puts := hs.puts
  unbegun := hs.unbegun
  settled ending he :=
    { unlocked := (hs.settled ending he).unlocked
      refused r hl hr := by
        rcases (hs.settled ending he).refused r hl hr with h | h | ⟨h, x, hx, hm⟩
        · exact .inl h
        · exact .inr (.inl h)
        · exact .inr (.inr ⟨h, x, hx, hsub _ hm⟩) }

/-- A call that goes on without a request. -/
lemma go (hs : t.Sound fired last) (hend : t.ending = none) {p : Process}
    (hp : p.Puts = t.process.Puts ∧ ¬ p.Unbegun) :
    ({ t with process := p, underway := none } : Task).Sound fired last where
  awaits u hu := by cases hu
  told u hu := by cases hu
  honest u hu := by cases hu
  puts r answer hl := by
    rw [hp.1]
    exact hs.puts r answer hl
  unbegun hb := absurd hb hp.2
  settled ending he := by rw [hend] at he; cases he

lemma finish (hs : t.Sound fired last) {ending : Ending}
    (he : t.process.Settled fired last ending) :
    ({ t with underway := none, ending := some ending } : Task).Sound fired last where
  awaits u hu := by cases hu
  told u hu := by cases hu
  honest u hu := by cases hu
  puts := hs.puts
  unbegun := hs.unbegun
  settled e h := by cases h; exact he

/-- The response that a call sees is the answer that the history has. -/
lemma response (hs : t.Sound fired last) {signal : Option Signal} {response : Response}
    (h : (w.glimpse t signal).response = some response) :
    ∃ r, t.process.Awaits r ∧ last = some (r, response.answer?) := by
  obtain ⟨u, hu, hr⟩ := Option.bind_eq_some_iff.mp h
  refine ⟨u.request, hs.awaits u hu, ?_⟩
  unfold Underway.response? at hr
  split at hr
  · next r hstage =>
    cases hr
    rw [hs.told u hu, hstage]
    rfl
  · cases hr

end Task.Sound

/-! ### The end of a call -/

/-- The ending of a task whose call ends with an outcome. -/
inductive Outcome.Ends : Outcome (Option Grant) → Ending → Prop
  | leased (grant : Grant) (stop : Signal) : Ends (.ok (some grant)) (.leased { grant with stop })
  | done : Ends (.ok none) .done
  | failed (e : LockError) : Ends (.failed e) (.failed e)
  | broke (text : String) : Ends (.broken text) (.broken text)

section ends

variable {w : World} {t : Task} {last : Option (Request × Option Bool)} {ending : Ending}
  {outcome : Outcome (Option Grant)}

lemma Process.settled_aborted (p : Process) (fired : List Signal) :
    p.Settled fired last .aborted where
  refused _ _ _ := .inr (.inl rfl)
  unlocked _ _ _ h := by cases h

/-- The end of a call whose request the store has not answered. -/
lemma Process.settled_unanswered {p : Process} {fired : List Signal} {r : Request}
    (hl : last = some (r, none)) (hd : ending ≠ .done) : p.Settled fired last ending where
  refused _ hl' _ := by rw [hl] at hl'; cases hl'
  unlocked _ _ _ h := absurd h hd

/-- The end of a call that puts nothing to the store. -/
lemma Task.Sound.settled_of_idle {fired : List Signal} (hs : t.Sound fired last)
    (hp : ∀ r, ¬ t.process.Puts r) : t.process.Settled fired last ending where
  refused r hl _ := absurd (hs.puts r _ hl) (hp r)
  unlocked lease stage h _ := by
    refine absurd ?_ (hp (.release lease.key lease.token))
    rw [h]
    exact ⟨lease.token, rfl⟩

lemma Task.Took.settled_errand {e : Errand} {turn : Turn Errand (Option Grant)}
    (hp : t.process = .errand e) (took : e.Took (w.glimpse t none) turn)
    (hturn : turn = .fin outcome) (hs : t.Sound w.fired last) (he : outcome.Ends ending) :
    t.process.Settled w.fired last ending := by
  cases took with
  | granted token stage response =>
    obtain ⟨r, haw, hl⟩ := hs.response response
    rw [hp] at haw
    obtain ⟨token', -, hr⟩ := haw
    refine ⟨fun r' hl' _ => ?_, fun lease stage' hpl hd => ?_⟩
    · rw [hl] at hl'
      cases hl'
    · rw [hp] at hpl
      cases hpl
      rw [hl, hr]
      rfl
  | refused token stage response =>
    obtain ⟨r, haw, hl⟩ := hs.response response
    rw [hp] at haw
    obtain ⟨token', -, hr⟩ := haw
    cases hturn
    cases he
    refine ⟨fun r' hl' hnew => .inl ?_, fun lease stage' hpl hd => by cases hd⟩
    rw [hl] at hl'
    cases hl'
    cases hk : e.kind with
    | attempt key ttl =>
      rw [hr, hk] at hnew
      cases hnew
    | refresh lease => rfl
    | unlock lease => rfl
  | failed token error stage response =>
    obtain ⟨r, -, hl⟩ := hs.response response
    cases hturn
    cases he
    exact Process.settled_unanswered hl (by simp)
  | broke token text stage response =>
    obtain ⟨r, -, hl⟩ := hs.response response
    cases hturn
    cases he
    exact Process.settled_unanswered hl (by simp)
  | signalled | asked | waited => cases hturn

/-- An acquisition puts only requests that present new tokens. -/
lemma Task.Sound.settled_acquisition {fired : List Signal} {a : Acquisition}
    (hp : t.process = .acquisition a) (hs : t.Sound fired last) :
    t.process.Settled fired last ending where
  refused r hl hnew := by
    have hputs := hs.puts r _ hl
    rw [hp] at hputs
    obtain ⟨token, rfl⟩ := hputs
    cases hnew
  unlocked lease stage h := by rw [hp] at h; cases h

lemma Task.Took.settled_renewal {x : Renewal} {turn : Turn Renewal Unit} {o : Outcome Unit}
    (hp : t.process = .renewal x) (took : x.Took (w.glimpse t (some x.lease.stop)) turn)
    (hturn : turn = .fin o) (hs : t.Sound w.fired last)
    (he : (o.map fun _ => (none : Option Grant)).Ends ending) :
    t.process.Settled w.fired last ending := by
  refine ⟨fun r hl _ => ?_, fun lease stage h => by rw [hp] at h; cases h⟩
  have begun (stage : x.stage = .fresh) : False := by
    have := hs.unbegun (by rw [hp]; exact stage)
    rw [hl] at this
    cases this
  have stopped (fired : (w.glimpse t (some x.lease.stop)).fired = true) :
      x.lease.stop ∈ w.fired := by
    simpa [World.glimpse, World.hasFired] using fired
  cases took with
  | invalid stage zero => exact (begun stage).elim
  | overflowed stage zero after => exact (begun stage).elim
  | stopped due stage fired | excused due deadline e stage fails timeout fired =>
    cases hturn
    cases he
    exact .inr (.inr ⟨rfl, x, hp, stopped fired⟩)
  | broke due deadline text stage response =>
    obtain ⟨r', -, hl'⟩ := hs.response response
    rw [hl] at hl'
    cases hl'
  | failed due deadline e stage fails timeout fired =>
    cases hturn
    cases he
    cases fails with
    | refused response => exact .inl rfl
    | failed e response =>
      obtain ⟨r', -, hl'⟩ := hs.response response
      rw [hl] at hl'
      cases hl'
    | late response due => cases timeout
  | begun | ticked | slept | repeated | waited | granted | late => cases hturn

/-- **The end of a call tells what the store answered last.** -/
theorem Task.Took.settled (h : t.Took w (.fin outcome)) (hs : t.Sound w.fired last)
    (he : outcome.Ends ending) : t.process.Settled w.fired last ending := by
  generalize hturn : Turn.fin outcome = turn at h
  cases h with
  | errand e turn process took =>
    cases turn with
    | fin o =>
      cases o <;> cases hturn <;> exact settled_errand process took rfl hs he
    | _ => cases hturn
  | acquisition a turn process took => exact hs.settled_acquisition process
  | renewal x turn process took =>
    cases turn with
    | fin o =>
      cases hturn
      exact settled_renewal process took rfl hs he
    | _ => cases hturn

/-- A call that ends with a grant was granted it. -/
lemma Task.Took.leased {grant : Grant} (h : t.Took w (.fin (.ok (some grant))))
    (hs : t.Sound w.fired last) :
    last = some (.acquire grant.key grant.token grant.ttl, some true) := by
  generalize hturn : Turn.fin (Outcome.ok (some grant)) = turn at h
  cases h with
  | errand e turn process took =>
    cases took with
    | granted token stage response =>
      obtain ⟨r, haw, hl⟩ := hs.response response
      rw [process] at haw
      obtain ⟨token', hstage, hr⟩ := haw
      rw [stage] at hstage
      cases hstage
      rw [hl, hr]
      cases hk : e.kind <;> rw [hk] at hturn <;> cases hturn
      rfl
    | _ => cases hturn
  | acquisition a turn process took =>
    cases took with
    | granted token deadline fired stage response =>
      obtain ⟨r, haw, hl⟩ := hs.response response
      rw [process] at haw
      obtain ⟨token', deadline', hstage, hr⟩ := haw
      rw [stage] at hstage
      cases hstage
      cases hturn
      rw [hl, hr]
      rfl
    | _ => cases hturn
  | renewal x turn process took =>
    cases took <;> cases hturn

end ends

end LeaseLock
