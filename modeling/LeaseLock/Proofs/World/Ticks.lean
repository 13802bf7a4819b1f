import Mathlib.Tactic.Common
import LeaseLock.Proofs.World.Heed
import LeaseLock.Proofs.World.Renewing

/-!
The steps of a renewal that is heeded.

`Renewed` lists every way in which a step can take a renewal on, and `Underway.Passes` every way in
which its refresh can move on. If the renewal is never kept waiting, all that it does after its
first tick happens at whole milliseconds, and no deadline of a refresh goes by: `OnTime`.
-/

namespace LeaseLock

/-! ### Instants -/

namespace Instant

lemma dvd_roundUp (t : Nat) : 1000000 ∣ roundUp t := Nat.dvd_mul_left ..

end Instant

/-! ### Requests that are not kept waiting -/

namespace Underway

variable {u u' : Underway} {now : Nat}

/-- Every way in which a request under way can move on, with the store at `m`. -/
inductive Passes (u : Underway) (now : Nat) (m : Memory) : Underway → Prop
  | arrived (due : Nat) (stage : u.stage = .outward due) (hdue : due ≤ now) :
      Passes u now m { u with stage := .arrived }
  | responded (response : Response) (stage : u.stage = .arrived) (deed : u.plan.deed ≠ .hang)
      (unbroken : ∀ text, response ≠ .broken text) : Passes u now m (u.respond now response)
  | overflowed (stage : u.stage = .arrived) (deed : u.plan.deed ≠ .hang)
      (serve : m.Served now u.request none m) :
      Passes u now m { u with stage := .back (.broken Instant.overflowText) }
  | broke (stage : u.stage = .arrived) (deed : u.plan.deed = .breakDown) :
      Passes u now m { u with stage := .back (.broken breakdownText) }
  | returned (due : Nat) (response : Response) (stage : u.stage = .homeward due response)
      (hdue : due ≤ now) : Passes u now m { u with stage := .back response }

lemma Passes.request {m : Memory} (h : u.Passes now m u') : u'.request = u.request := by
  cases h <;> rfl

/-- The response that a request brings home. -/
def Stage.carries : Stage → Option Response
  | .homeward _ response | .back response => some response
  | .outward _ | .arrived => none

lemma Passes.carries {m : Memory} (h : u.Passes now m u') (hu' : u'.stage.carries = none) :
    u.stage.carries = none := by
  cases h with
  | arrived due stage hdue | responded _ stage | overflowed stage | broke stage =>
    rw [stage]
    rfl
  | returned due response stage hdue => cases hu'

/-- Whether the request of a renewal brings home that the store broke down only if that was
planned, or the clock cannot name the instant up to which the lease would last. -/
def Frank (u : Underway) (lease : Lease) (now : Nat) : Prop :=
  u.request = .refresh lease.key lease.token lease.ttl ∧
    ∀ text, u.stage.carries = some (.broken text) →
      u.plan.deed = .breakDown ∨ Instant.limit ≤ now + lease.ttl.nanos

lemma Frank.start (lease : Lease) (plan : Plan) (now : Nat) :
    (start (.refresh lease.key lease.token lease.ttl) plan now).Frank lease now := by
  refine ⟨rfl, fun text h => ?_⟩
  unfold Underway.start at h
  cases hbefore : plan.before <;> simp [hbefore, Stage.carries] at h

lemma Frank.passes {lease : Lease} {m : Memory} (h : u.Frank lease now)
    (hp : u.Passes now m u') : u'.Frank lease now := by
  refine ⟨hp.request.trans h.1, fun text hcarries => ?_⟩
  cases hp with
  | arrived due stage hdue => cases hcarries
  | responded response stage deed unbroken =>
    unfold respond at hcarries
    cases hafter : u.plan.after <;> simp [hafter, Stage.carries, unbroken] at hcarries
  | overflowed stage deed serve =>
    rw [h.1] at serve
    cases serve with
    | refreshOverflow own full => exact .inr full
  | broke stage deed => exact .inl deed
  | returned due response stage hdue =>
    refine h.2 text ?_
    rw [stage]
    exact hcarries

lemma Frank.later {lease : Lease} (h : u.Frank lease now) {later : Nat} (hle : now ≤ later) :
    u.Frank lease later :=
  ⟨h.1, fun text hcarries => (h.2 text hcarries).imp_right fun hfull =>
    Nat.le_trans hfull (Nat.add_le_add_right hle _)⟩

/-- Where a request can be that moves on as soon as it can: what happens to it happens at whole
milliseconds. -/
inductive Sharp (u : Underway) (now : Nat) : Prop
  | outward (due : Nat) (stage : u.stage = .outward due) (whole : 1000000 ∣ due)
      (early : now ≤ due)
  | hung (stage : u.stage = .arrived) (deed : u.plan.deed = .hang)
  | arrived (stage : u.stage = .arrived) (whole : 1000000 ∣ now)
  | homeward (due : Nat) (response : Response) (stage : u.stage = .homeward due response)
      (whole : 1000000 ∣ due) (early : now ≤ due)
  | back (response : Response) (stage : u.stage = .back response) (whole : 1000000 ∣ now)

lemma Sharp.start (hwhole : 1000000 ∣ now) (r : Request) (plan : Plan) :
    (start r plan now).Sharp now := by
  unfold Underway.start
  cases plan.before with
  | none => exact .arrived rfl hwhole
  | some d => exact .outward _ rfl (Instant.dvd_roundUp _) (Instant.le_timer now d)

lemma Sharp.passes {m : Memory} (h : u.Sharp now) (hp : u.Passes now m u') : u'.Sharp now := by
  -- a request that has come to the store and does not hang has come at a whole millisecond
  have whole (stage : u.stage = .arrived) (deed : u.plan.deed ≠ .hang) : 1000000 ∣ now := by
    cases h with
    | arrived stage' whole => exact whole
    | hung stage' hang => exact absurd hang deed
    | outward _ stage' | homeward _ _ stage' | back _ stage' => cases stage.symm.trans stage'
  cases hp with
  | arrived due stage hdue =>
    cases h with
    | outward due' stage' whole early =>
      cases stage.symm.trans stage'
      obtain rfl := Nat.le_antisymm early hdue
      exact .arrived rfl whole
    | hung stage' | arrived stage' | homeward _ _ stage' | back _ stage' =>
      cases stage.symm.trans stage'
  | responded response stage deed unbroken =>
    unfold respond
    cases u.plan.after with
    | none => exact .back response rfl (whole stage deed)
    | some d => exact .homeward _ response rfl (Instant.dvd_roundUp _) (Instant.le_timer now d)
  | overflowed stage deed serve => exact .back _ rfl (whole stage deed)
  | broke stage deed => exact .back _ rfl (whole stage (by rw [deed]; exact Deed.noConfusion))
  | returned due response stage hdue =>
    cases h with
    | homeward due' response' stage' whole early =>
      cases stage.symm.trans stage'
      obtain rfl := Nat.le_antisymm early hdue
      exact .back response rfl whole
    | outward _ stage' | hung stage' | arrived stage' | back _ stage' =>
      cases stage.symm.trans stage'

/-- A request that has come to the store gets no further only if it hangs there. -/
lemma hangs_of_rest {m : Memory} (hstage : u.stage = .arrived) (h : u.step now m = none) :
    u.plan.deed = .hang := by
  simp only [step, hstage] at h
  split at h
  · split at h <;> cases h
  · cases h
  · cases h
  · next deed => exact deed
  · cases h

/-- A request that can but wait has time to, up to the instant that it waits for. -/
lemma Sharp.later (h : u.Sharp now) {m : Memory} (hstep : u.step now m = none)
    (hresponse : u.response? = none) {later : Nat} (hwake : ∀ wake ∈ u.wake?, later ≤ wake) :
    u.Sharp later := by
  cases h with
  | outward due stage whole early =>
    exact .outward due stage whole (hwake due (by simp [wake?, stage]))
  | hung stage deed => exact .hung stage deed
  | arrived stage whole => exact .hung stage (hangs_of_rest stage hstep)
  | homeward due response stage whole early =>
    exact .homeward due response stage whole (hwake due (by simp [wake?, stage]))
  | back response stage whole => simp [response?, stage] at hresponse

/-- A response comes home at a whole millisecond. -/
lemma Sharp.whole (h : u.Sharp now) {response : Response} (hr : u.response? = some response) :
    1000000 ∣ now := by
  cases h with
  | back _ stage whole => exact whole
  | outward _ stage | hung stage | arrived stage | homeward _ _ stage =>
    simp [response?, stage] at hr

end Underway

namespace World

variable {w w' : World} {j : Nat} {t t' : Task} {a : Act} {x x' : Renewal} {p : Process}

lemma Moved.passes (h : Moved w j t w') : ∃ u u', t.underway = some u ∧
    u.Passes w.now w.memory u' ∧ w'.tasks = w.tasks.set j { t with underway := some u' } ∧
    w'.now = w.now ∧ w'.fired = w.fired ∧ ∀ k, askedAt? k w'.history = askedAt? k w.history := by
  have hang {d : Deed} {u : Underway} (hd : u.plan.deed = d) (hne : d ≠ .hang) :
      u.plan.deed ≠ .hang := hd ▸ hne
  cases h with
  | arrived u due underway stage hdue =>
    exact ⟨u, _, underway, .arrived due stage hdue, rfl, rfl, rfl, fun _ => rfl⟩
  | served u yes m underway stage deed serve =>
    exact ⟨u, _, underway, .responded _ stage (hang deed Deed.noConfusion)
      fun _ => Response.noConfusion, rfl, rfl, rfl, fun _ => rfl⟩
  | overflowed u underway stage deed serve =>
    exact ⟨u, _, underway, .overflowed stage (hang deed Deed.noConfusion) serve, rfl, rfl, rfl,
      fun _ => rfl⟩
  | answered u yes underway stage deed =>
    exact ⟨u, _, underway, .responded _ stage (hang deed Deed.noConfusion)
      fun _ => Response.noConfusion, rfl, rfl, rfl, fun _ => rfl⟩
  | failed u e underway stage deed =>
    exact ⟨u, _, underway, .responded _ stage (hang deed Deed.noConfusion)
      fun _ => Response.noConfusion, rfl, rfl, rfl, fun _ => rfl⟩
  | broke u underway stage deed =>
    exact ⟨u, _, underway, .broke stage deed, rfl, rfl, rfl, fun _ => rfl⟩
  | returned u due response underway stage hdue =>
    exact ⟨u, _, underway, .returned due response stage hdue, rfl, rfl, rfl, fun _ => rfl⟩

/-! ### The steps of a renewal -/

/-- How a task ends whose renewal ends. -/
def endingOf : Outcome Unit → Ending
  | .ok () => .done
  | .failed e => .failed e
  | .broken text => .broken text

/-- Every way in which a step can take a renewal on. -/
inductive Renewed (w : World) (j : Nat) (t : Task) (x : Renewal) : World → Prop
  | rested (took : x.Took (w.glimpse t (some x.lease.stop)) .rest) : Renewed w j t x w
  | moved (w' : World) (moved : Moved w j t w') : Renewed w j t x w'
  | went (x' : Renewal) (took : x.Took (w.glimpse t (some x.lease.stop)) (.go x')) :
      Renewed w j t x (w.setTask j { t with process := .renewal x', underway := none })
  | asked (x' : Renewal) (r : Request)
      (took : x.Took (w.glimpse t (some x.lease.stop)) (.ask x' r)) :
      Renewed w j t x (w.ask j { t with process := .renewal x' } r)
  | ended (o : Outcome Unit) (took : x.Took (w.glimpse t (some x.lease.stop)) (.fin o)) :
      Renewed w j t x (w.finish j t (endingOf o))

lemma turn?_renewal (hp : t.process = .renewal x) {turn : Turn Process (Option Grant)}
    (h : t.turn? w = some turn) :
    ∃ own, turn = own.map .renewal (fun _ => none) ∧
      x.Took (w.glimpse t (some x.lease.stop)) own := by
  cases Task.took_of_turn? h with
  | renewal x' own process took =>
    cases hp.symm.trans process
    exact ⟨own, rfl, took⟩
  | errand e own process | acquisition e own process => cases hp.symm.trans process

lemma Turned.renewed (hp : t.process = .renewal x) (h : Turned w j t w') :
    Renewed w j t x w' := by
  have own {turn : Turn Process (Option Grant)} (turns : t.turn? w = some turn) :=
    turn?_renewal hp turns
  cases h with
  | went p turn =>
    obtain ⟨own, hown, took⟩ := own turn
    cases own <;> cases hown
    exact .went _ took
  | asked p r turn =>
    obtain ⟨own, hown, took⟩ := own turn
    cases own <;> cases hown
    exact .asked _ _ took
  | fired p signal turn =>
    obtain ⟨own, hown, took⟩ := own turn
    cases took <;> cases hown
  | leased grant turn =>
    obtain ⟨own, hown, took⟩ := own turn
    cases took <;> cases hown
  | done turn =>
    obtain ⟨own, hown, took⟩ := own turn
    rcases own with _ | _ | _ | _ | (_ | _ | _) <;> cases hown
    exact .ended (.ok ()) took
  | failed e turn =>
    obtain ⟨own, hown, took⟩ := own turn
    rcases own with _ | _ | _ | _ | (_ | _ | _) <;> cases hown
    exact .ended (.failed e) took
  | broke text turn =>
    obtain ⟨own, hown, took⟩ := own turn
    rcases own with _ | _ | _ | _ | (_ | _ | _) <;> cases hown
    exact .ended (.broken text) took
  | refused e process | joined c work row process | entered c work process
  | launched c number work process | cancelled c number process | told c number lease process
  | toldFailure c number e process => cases hp.symm.trans process

/-- **A step of a renewal is one of the ways of `Renewed`.** -/
theorem renewed_act (ht : w.tasks[j]? = some t) (hend : t.ending = none)
    (hp : t.process = .renewal x) : Renewed w j t x (w.act (.step j)) := by
  simp only [act]
  cases h : w.step j with
  | none => exact .rested (took_rest ht hend hp h)
  | some v =>
    obtain ⟨t', ht', -, ⟨-, hm⟩ | ⟨-, htu⟩⟩ := step_cases h
    · cases ht.symm.trans ht'
      exact .moved v hm
    · cases ht.symm.trans ht'
      exact htu.renewed hp

/-- A renewal goes on with the same lease, interval and timeout. -/
lemma Follows.renewal (h : w.Follows t p) (hp : t.process = .renewal x) :
    ∃ stage, p = .renewal { x with stage } := by
  cases h with
  | same => exact ⟨x.stage, hp⟩
  | next turn p turns next =>
    obtain ⟨own, rfl, took⟩ := turn?_renewal hp turns
    cases took <;> cases next <;> exact ⟨_, rfl⟩
  | joined c work number process | entered c work number process
  | launched c work number process => cases hp.symm.trans process

/-- Only a renewal goes on as one. -/
lemma Follows.of_renewal (h : w.Follows t (.renewal x')) :
    ∃ x stage, t.process = .renewal x ∧ x' = { x with stage } := by
  generalize hp : Process.renewal x' = p at h
  cases h with
  | same => exact ⟨x', x'.stage, hp.symm, rfl⟩
  | next turn p turns next =>
    cases Task.took_of_turn? turns with
    | renewal x own process took =>
      cases took <;> cases next <;> cases hp <;> exact ⟨x, _, process, rfl⟩
    | errand e own process took => cases took <;> cases next <;> cases hp
    | acquisition e own process took => cases took <;> cases next <;> cases hp
  | joined | entered | launched => cases hp

/-! ### A renewal that is not kept waiting -/

/-- Whether the act, if it spawns a renewal, spawns it before its first turn. -/
def Act.StartsFresh : Act → Prop
  | .spawn (.renewal x) => x.stage = .fresh
  | _ => True

instance : Decidable a.StartsFresh :=
  match a with
  | .spawn (.renewal x) => inferInstanceAs (Decidable (x.stage = .fresh))
  | .spawn (.errand _) | .spawn (.acquisition _) | .spawn (.caller _) | .spawn (.refused _)
  | .step _ | .advance _ | .abort _ | .fire _ | .newSignal | .expire _ | .intrude _ | .plan _ =>
    .isTrue trivial

/-- A renewal is new only by being spawned. -/
lemma spawned_renewal (h : w.tasks[j]? = none) (ht' : (w.act a).tasks[j]? = some t')
    (hp : t'.process = .renewal x) :
    a = .spawn (.renewal x) ∧ t' = ⟨.renewal x, none, none, none⟩ := by
  have hlen : w.tasks.length ≤ j := List.getElem?_eq_none_iff.mp h
  cases w.staffed_act a with
  | same tasks =>
    rw [tasks, h] at ht'
    cases ht'
  | changed i y y' new act task tasks follows added =>
    rw [tasks, List.getElem?_append_right (by simpa using hlen)] at ht'
    obtain ⟨b, hb⟩ := added t' (List.mem_of_getElem? ht')
    cases hp.symm.trans hb
  | spawned p act tasks =>
    rw [tasks, List.getElem?_append_right hlen] at ht'
    obtain rfl := List.mem_singleton.mp (List.mem_of_getElem? ht')
    cases hp
    exact ⟨act, rfl⟩

/-- A renewal that runs was just spawned, or ran before. -/
lemma renewal_cases (ht' : (w.act a).tasks[j]? = some t') (hend' : t'.ending = none)
    (hp' : t'.process = .renewal x') :
    (w.tasks[j]? = none ∧ a = .spawn (.renewal x') ∧ t' = ⟨.renewal x', none, none, none⟩) ∨
      ∃ t x, w.tasks[j]? = some t ∧ t.ending = none ∧ t.process = .renewal x ∧
        x'.lease = x.lease := by
  cases ht : w.tasks[j]? with
  | none => exact .inl ⟨rfl, spawned_renewal ht ht' hp'⟩
  | some t =>
    obtain ⟨s, hs, hfollows⟩ := w.follows_act a ht
    cases ht'.symm.trans hs
    obtain ⟨x, stage, hp, rfl⟩ := (hp' ▸ hfollows).of_renewal
    exact .inr ⟨t, x, rfl, running_of_act ht ht' hend', hp, rfl⟩

/-- Where a renewal can be that is never kept waiting. -/
inductive OnTime (w : World) (j : Nat) (t : Task) (x : Renewal) : Renewal.Stage → Prop
  | fresh (idle : t.underway = none) : OnTime w j t x .fresh
  | ticking (due : Nat) (idle : t.underway = none)
      (early : w.now ≤ Instant.roundUp due ∨ 1000000 ∣ w.now) : OnTime w j t x (.ticking due)
  | repeating (due : Nat) (idle : t.underway = none) (whole : 1000000 ∣ w.now) :
      OnTime w j t x (.repeating due)
  /-- The refresh under way was asked for at `time`, and its deadline is not over. -/
  | asking (due time : Nat) (u : Underway) (underway : t.underway = some u) (sharp : u.Sharp w.now)
      (frank : u.Frank x.lease w.now) (asked : askedAt? j w.history = some time)
      (whole : 1000000 ∣ time) (since : time ≤ w.now)
      (early : w.now ≤ Instant.timer time x.timeout) :
      OnTime w j t x (.asking due (Instant.timer time x.timeout))

/-- Task `j` is on time, if it is a renewal. -/
def Paced (w : World) (j : Nat) : Prop :=
  ∀ t x, w.tasks[j]? = some t → t.ending = none → t.process = .renewal x → w.OnTime j t x x.stage

lemma OnTime.congr {stage : Renewal.Stage} (h : w.OnTime j t x stage) (hnow : w'.now = w.now)
    (hasked : askedAt? j w'.history = askedAt? j w.history) : w'.OnTime j t x stage := by
  cases h with
  | fresh idle => exact .fresh idle
  | ticking due idle early => exact .ticking due idle (hnow ▸ early)
  | repeating due idle whole => exact .repeating due idle (hnow ▸ whole)
  | asking due time u underway sharp frank asked whole since early =>
    exact .asking due time u underway (hnow ▸ sharp) (hnow ▸ frank) (hasked ▸ asked) whole
      (hnow ▸ since) (hnow ▸ early)

/-- A tick is seen at a whole millisecond. -/
lemma OnTime.whole_of_ticked {due : Nat} (h : w.OnTime j t x (.ticking due))
    (hdue : Instant.roundUp due ≤ w.now) : 1000000 ∣ w.now := by
  cases h with
  | ticking _ idle early =>
    rcases early with early | whole
    · exact Nat.le_antisymm early hdue ▸ Instant.dvd_roundUp due
    · exact whole

/-- Whatever ends the wait for a refresh, does so at a whole millisecond. -/
lemma OnTime.whole_of_told {due deadline : Nat} (h : w.OnTime j t x (.asking due deadline))
    (htold : deadline ≤ w.now ∨ ∃ response, t.underway.bind (·.response?) = some response) :
    1000000 ∣ w.now := by
  cases h with
  | asking _ time u underway sharp frank asked whole since early =>
    rcases htold with hdeadline | ⟨response, hresponse⟩
    · exact Nat.le_antisymm early hdeadline ▸ Instant.dvd_roundUp _
    · rw [underway] at hresponse
      exact sharp.whole hresponse

/-- A renewal that goes on is on time again. -/
lemma OnTime.went (hx : w.OnTime j t x x.stage)
    (took : x.Took (w.glimpse t (some x.lease.stop)) (.go x')) :
    w.OnTime j { t with process := .renewal x', underway := none } x' x'.stage := by
  cases took with
  | begun due stage zero after =>
    obtain ⟨-, rfl⟩ := Instant.after?_eq_some.mp after
    refine .ticking _ rfl (.inl ?_)
    exact Nat.le_trans (Nat.le_add_right _ _) (Instant.le_roundUp _)
  | granted due deadline stage response =>
    have hwhole := (stage ▸ hx).whole_of_told (.inr ⟨_, response⟩)
    exact .ticking due rfl (.inr hwhole)
  | late due deadline e stage fails timeout =>
    refine .repeating due rfl ((stage ▸ hx).whole_of_told ?_)
    cases fails with
    | refused response => exact .inr ⟨_, response⟩
    | failed e response => exact .inr ⟨_, response⟩
    | late response hdeadline => exact .inl hdeadline

/-- A refresh is asked for at a whole millisecond, and has until its deadline. -/
lemma OnTime.asks {r : Request} (hx : w.OnTime j t x x.stage)
    (took : x.Took (w.glimpse t (some x.lease.stop)) (.ask x' r)) :
    1000000 ∣ w.now ∧ r = .refresh x.lease.key x.lease.token x.lease.ttl ∧
      ∃ due, x' = { x with stage := .asking due (Instant.timer w.now x.timeout) } := by
  generalize hturn : Turn.ask x' r = turn at took
  cases took with
  | ticked due stage fired hdue =>
    cases hturn
    exact ⟨(stage ▸ hx).whole_of_ticked hdue, rfl, _, rfl⟩
  | repeated due stage fired =>
    cases hturn
    rw [stage] at hx
    cases hx with
    | repeating _ idle whole => exact ⟨whole, rfl, _, rfl⟩
  | _ => cases hturn

/-- A renewal that takes a step is on time again, unless it ends by it. -/
lemma Renewed.onTime (h : Renewed w j t x w') (ht : w.tasks[j]? = some t)
    (hp : t.process = .renewal x) (hx : w.OnTime j t x x.stage) (ht' : w'.tasks[j]? = some t')
    (hend' : t'.ending = none) (hp' : t'.process = .renewal x') : w'.OnTime j t' x' x'.stage := by
  have hlt := (List.getElem?_eq_some_iff.mp ht).1
  cases h with
  | rested took =>
    cases ht.symm.trans ht'
    cases hp.symm.trans hp'
    exact hx
  | moved v hm =>
    obtain ⟨u, u', hu, hpasses, htasks, hnow, -, hasked⟩ := hm.passes
    rw [htasks, List.getElem?_set_self hlt] at ht'
    cases ht'
    cases hp.symm.trans hp'
    generalize x.stage = stage at hx ⊢
    cases hx with
    | fresh idle | ticking _ idle | repeating _ idle => cases hu.symm.trans idle
    | asking due time v underway sharp frank asked whole since early =>
      cases hu.symm.trans underway
      exact .asking due time u' rfl (hnow ▸ sharp.passes hpasses) (hnow ▸ frank.passes hpasses)
        ((hasked j).trans asked) whole (hnow ▸ since) (hnow ▸ early)
  | went y took =>
    rw [setTask_tasks, List.getElem?_set_self hlt] at ht'
    cases ht'
    cases hp'
    exact (hx.went took).congr rfl rfl
  | asked y r took =>
    obtain ⟨hwhole, rfl, due, rfl⟩ := hx.asks took
    have htask {t' : Task} {r : Request} : (w.ask j t' r).tasks[j]? =
        some { t' with underway := some (.start r (w.plans.take r).1 w.now) } :=
      List.getElem?_set_self hlt
    have hasked {t' : Task} {r : Request} : askedAt? j (w.ask j t' r).history = some w.now := by
      rw [ask_history, askedAt?_cons, Event.askedAt?, if_pos rfl]
      rfl
    cases htask.symm.trans ht'
    cases hp'
    exact .asking due w.now _ rfl (.start hwhole _ _) (.start x.lease _ _) hasked hwhole
      (Nat.le_refl _) (Instant.le_timer _ _)
  | ended o took =>
    rw [finish_tasks, List.getElem?_set_self hlt] at ht'
    cases ht'
    cases hend'

/-- A request that cannot move on rests where it is. -/
lemma rests_of_settled (settled : w.moveRequest j t = none) {u : Underway}
    (hu : t.underway = some u) :
    u.step w.now w.memory = none := by
  cases hnext : u.step w.now w.memory with
  | none => rfl
  | some next => simp [moveRequest, hu, hnext] at settled

/-- A refresh rests if its renewal can take no step. -/
lemma underway_rests (ht : w.tasks[j]? = some t) (hend : t.ending = none)
    (hp : t.process = .renewal x) (hstep : w.step j = none) {u : Underway}
    (hu : t.underway = some u) : u.step w.now w.memory = none := by
  obtain ⟨hmove, -⟩ : w.moveRequest j t = none ∧ w.turn j t = none := by
    simpa [World.step, ht, hend, heedsSignalFirst, hp] using hstep
  exact rests_of_settled hmove hu

namespace Paced

/-- The renewal takes a step. -/
lemma step (hw : w.Paced j) : (w.act (.step j)).Paced j := by
  intro t' x' ht' hend' hp'
  rcases renewal_cases ht' hend' hp' with ⟨-, hact, -⟩ | ⟨t, x, ht, hend, hp, -⟩
  · cases hact
  · exact (renewed_act ht hend hp).onTime ht hp (hw t x ht hend hp) ht' hend' hp'

/-- The clock goes on while the renewal can but wait. -/
lemma advance (hw : w.Paced j) {d : Nat} (hh : w.Heeds j (.advance d)) :
    (w.act (.advance d)).Paced j := by
  intro t x ht hend hp
  replace ht : w.tasks[j]? = some t := ht
  have hx := hw t x ht hend hp
  obtain ⟨hstep, hwakes⟩ := hh
  have hwake : ∀ wake ∈ wakes t, w.now + d ≤ wake := hwakes t ht
  have htook := took_rest ht hend hp hstep
  generalize hstage : x.stage = stage at hx ⊢
  cases hx with
  | fresh idle => exact .fresh idle
  | ticking due idle early =>
    refine .ticking due idle (.inl (hwake _ ?_))
    simp [wakes, hend, hp, Renewal.wake?, hstage]
  | repeating due idle whole =>
    cases htook with
    | slept due' stage | waited due' deadline stage => cases hstage.symm.trans stage
  | asking due time u underway sharp frank asked whole since early =>
    have hresponse : u.response? = none := by
      cases htook with
      | slept due' stage => cases hstage.symm.trans stage
      | waited due' deadline stage response =>
        simpa [glimpse, underway] using response
    have hmove := underway_rests ht hend hp hstep underway
    have hle : w.now ≤ w.now + d := Nat.le_add_right _ _
    refine .asking due time u underway (sharp.later hmove hresponse fun wake hu => hwake wake ?_)
      (frank.later hle) asked whole (Nat.le_trans since hle) (hwake _ ?_)
    · rw [Option.mem_def] at hu
      simp [wakes, hend, underway, hu]
    · simp [wakes, hend, hp, Renewal.wake?, hstage]

/-- What happens elsewhere is none of its business. -/
lemma other (hw : w.Paced j) (ha : a.StartsFresh) (hstep : a ≠ .step j)
    (hadvance : ∀ d, a ≠ .advance d) : (w.act a).Paced j := by
  have hnow := w.act_now hadvance
  have hasked := w.askedAt?_act hstep
  intro t' x ht' hend' hp'
  cases ht : w.tasks[j]? with
  | none =>
    obtain ⟨rfl, rfl⟩ := spawned_renewal ht ht' hp'
    rw [show x.stage = .fresh from ha]
    exact .fresh rfl
  | some t =>
    by_cases habort : a = .abort j
    · subst habort
      rcases w.act_abort j with h | ⟨y, hy, -, h⟩
      · rw [h] at ht' ⊢
        exact hw t' x ht' hend' hp'
      · rw [h, finish_tasks, List.getElem?_set_self (List.getElem?_eq_some_iff.mp ht).1] at ht'
        cases ht'
        cases hend'
    · cases ht'.symm.trans (other_act ht hstep habort)
      exact (hw _ x ht hend' hp').congr hnow hasked

lemma act (hw : w.Paced j) (ha : a.StartsFresh) (hh : w.Heeds j a) : (w.act a).Paced j := by
  cases a.view j with
  | advance d => exact hw.advance hh
  | own => exact hw.step
  | other hstep hadvance => exact hw.other ha hstep hadvance

lemma run (hw : w.Paced j) {acts : List Act} (ha : ∀ a ∈ acts, a.StartsFresh)
    (hh : w.Heeded j acts) : (w.run acts).Paced j := by
  induction acts generalizing w with
  | nil => exact hw
  | cons a acts ih =>
    exact ih (hw.act (ha a List.mem_cons_self) hh.1)
      (fun b hb => ha b (List.mem_cons_of_mem a hb)) hh.2

end Paced

lemma paced_start (plans : Plans) (j : Nat) : (start plans).Paced j := by
  intro t x ht
  cases ht

end World
end LeaseLock
