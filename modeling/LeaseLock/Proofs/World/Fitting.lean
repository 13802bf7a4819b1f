import Mathlib.Tactic.Common
import LeaseLock.Proofs.Retry.Answers
import LeaseLock.Proofs.World.KeepAlive
import LeaseLock.Proofs.World.Trials

/-!
Calls that fit the clock.

The clock has an end, and a call breaks down if it needs an instant beyond that. It never needs one
more than its own durations after the present: the lifetimes that it asks the store for, and the
interval of its renewals. `Task.Fits` says so of a task, at a store that does not break down of
itself, and every act keeps it.
-/

namespace LeaseLock

/-! ### What a call needs -/

/-- Whether a request asks for nothing that lasts longer than `d`. -/
def Request.Within (d : Nat) (r : Request) : Prop :=
  ∀ key token ttl, r.write? = some (key, token, ttl) → ttl.nanos ≤ d

/-- Whether a call needs no instant more than `d` after the present. -/
structure Process.Within (d : Nat) (p : Process) : Prop where
  puts : ∀ r, p.Puts r → r.Within d
  lasts : ∀ a, p = .acquisition a → a.strategy.Lasts
  interval : ∀ x, p = .renewal x → x.interval.nanos ≤ d

/-- Whether a request under way is of that kind, and brings home that the store broke down only if
that was planned, or if the clock is within `d` of its end. -/
structure Underway.Within (d now : Nat) (u : Underway) : Prop where
  request : u.request.Within d
  broken : ∀ text, u.stage.carries = some (.broken text) →
    u.plan.deed = .breakDown ∨ Instant.limit ≤ now + d

/-- Whether a task has not broken down unless the clock is within `d` of its end, and is not about
to either. -/
structure Task.Fits (d now : Nat) (t : Task) : Prop where
  within : t.process.Within d
  underway : ∀ u, t.underway = some u → u.Within d now
  broken : ∀ text, t.ending = some (.broken text) → Instant.limit ≤ now + d
  leased : t.process.isCaller = false → ∀ lease, t.ending = some (.leased lease) →
    lease.ttl.nanos ≤ d

namespace Underway.Within

variable {u u' : Underway} {d now : Nat}

lemma start {r : Request} (h : r.Within d) (plan : Plan) : (start r plan now).Within d now := by
  refine ⟨h, fun text hcarries => ?_⟩
  unfold Underway.start at hcarries
  cases hbefore : plan.before <;> simp [hbefore, Stage.carries] at hcarries

lemma passes {m : Memory} (h : u.Within d now) (hp : u.Passes now m u') : u'.Within d now := by
  refine ⟨hp.request ▸ h.request, fun text hcarries => ?_⟩
  cases hp with
  | arrived due stage hdue => cases hcarries
  | responded response stage deed unbroken =>
    unfold respond at hcarries
    cases hafter : u.plan.after <;> simp [hafter, Stage.carries, unbroken] at hcarries
  | overflowed stage deed serve =>
    right
    generalize hr : u.request = r at serve
    have hwithin : r.Within d := hr ▸ h.request
    cases serve with
    | acquireOverflow free full | refreshOverflow own full =>
      exact Nat.le_trans full (Nat.add_le_add_left (hwithin _ _ _ rfl) now)
  | broke stage deed => exact .inl deed
  | returned due response stage hdue =>
    refine h.broken text ?_
    rw [stage]
    exact hcarries

lemma later (h : u.Within d now) {later : Nat} (hle : now ≤ later) : u.Within d later :=
  ⟨h.request, fun text hcarries => (h.broken text hcarries).imp_right fun hfull =>
    Nat.le_trans hfull (Nat.add_le_add_right hle _)⟩

end Underway.Within

namespace World

variable {w w' : World} {i : Nat} {t : Task} {a : Act} {d : Nat} {p : Process}

/-- A call goes on as one that needs no more. -/
lemma Follows.within (hf : w.Follows t p) (h : t.process.Within d) : p.Within d where
  puts r hr := h.puts r (hf.puts ▸ hr)
  lasts b hb := by
    cases hf with
    | same => exact h.lasts b hb
    | next turn p turns next =>
      cases Task.took_of_turn? turns with
      | errand e own process took => cases took <;> cases next <;> cases hb
      | renewal x own process took => cases took <;> cases next <;> cases hb
      | acquisition a own process took =>
        have hlasts := h.lasts a process
        cases took with
        | asked fired stage | woke wake fired stage hdue =>
          cases next
          cases hb
          exact hlasts
        | retried token deadline e d strategy fired stage fails retryable hnext =>
          cases next
          cases hb
          exact hlasts.next hnext
        | _ => cases next
    | joined | entered | launched => cases hb
  interval x hx := by
    subst hx
    obtain ⟨y, stage, hy, rfl⟩ := hf.of_renewal
    exact h.interval y hy

end World

/-- A call breaks down only with the store, or at the end of the clock. -/
lemma Process.Within.broken {w : World} {t : Task} {d : Nat} {text : String}
    (h : t.process.Within d) (took : t.Took w (.fin (.broken text))) :
    t.underway.bind (·.response?) = some (.broken text) ∨ Instant.limit ≤ w.now + d := by
  generalize hturn : Turn.fin (Outcome.broken text) = turn at took
  cases took with
  | errand e own process took =>
    cases took with
    | broke token text' stage response =>
      cases hturn
      exact .inl response
    | _ => cases hturn
  | acquisition a own process took =>
    cases took with
    | broke token deadline text' fired stage response =>
      cases hturn
      exact .inl response
    | gaveOut token deadline e text' strategy fired stage fails retryable next =>
      -- the strategy is asked for the first time from where it is
      refine absurd (congrArg Prod.fst next) (h.lasts a process 0 (fun k hk => ?_) text')
      exact absurd hk (Nat.not_lt_zero k)
    | _ => cases hturn
  | renewal x own process took =>
    cases took with
    | overflowed stage zero after =>
      exact .inr (Nat.le_trans (Instant.after?_eq_none.mp after)
        (Nat.add_le_add_left (h.interval x process) _))
    | broke due deadline text' stage response =>
      cases hturn
      exact .inl response
    | _ => cases hturn

/-- A call obtains no lease that lasts longer than what it asks for. -/
lemma Process.Within.granted {w : World} {t : Task} {d : Nat} {grant : Grant}
    (h : t.process.Within d) (took : t.Took w (.fin (.ok (some grant)))) : grant.ttl.nanos ≤ d := by
  generalize hturn : Turn.fin (Outcome.ok (some grant)) = turn at took
  cases took with
  | errand e own process took =>
    cases took with
    | granted token stage response =>
      simp only [Turn.map, Outcome.map, id, Turn.fin.injEq, Outcome.ok.injEq] at hturn
      refine h.puts (Errand.request e.kind token) (by rw [process]; exact ⟨token, rfl⟩) grant.key
        grant.token grant.ttl ?_
      cases hk : e.kind <;> rw [hk] at hturn <;> cases hturn
      rfl
    | _ => cases hturn
  | acquisition a own process took =>
    cases took with
    | granted token deadline fired stage response =>
      cases hturn
      exact h.puts (.acquire a.key token a.ttl) (by rw [process]; exact ⟨token, rfl⟩) _ _ _ rfl
    | _ => cases hturn
  | renewal x own process took => cases took <;> cases hturn

namespace Task.Fits

variable {w w' : World} {i : Nat} {t : Task} {a : World.Act} {d : Nat} {p : Process}

lemma later {now later : Nat} (h : t.Fits d now) (hle : now ≤ later) : t.Fits d later :=
  ⟨h.within, fun u hu => (h.underway u hu).later hle,
    fun text ht => Nat.le_trans (h.broken text ht) (Nat.add_le_add_right hle _), h.leased⟩

/-- A call that was just spawned. -/
lemma fresh {now : Nat} (h : p.Within d) : Task.Fits d now ⟨p, none, none, none⟩ :=
  ⟨h, (fun u hu => by cases hu), (fun text ht => by cases ht), fun _ lease hl => by cases hl⟩

/-- A request of the task moves on. -/
lemma moved (h : t.Fits d w.now) (ht : w.tasks[i]? = some t) (hm : World.Moved w i t w') :
    ∃ t', w'.tasks[i]? = some t' ∧ t'.Fits d w.now := by
  obtain ⟨u, u', hu, hpasses, htasks, -⟩ := hm.passes
  refine ⟨{ t with underway := some u' }, ?_, h.within, fun v hv => ?_, h.broken, h.leased⟩
  · rw [htasks, List.getElem?_set_self (List.getElem?_eq_some_iff.mp ht).1]
  · cases hv
    exact (h.underway u hu).passes hpasses

/-- If the call of the task breaks down at its turn, then the clock is about to end. -/
lemma overflows (h : t.Fits d w.now) (hw : w.Supplied Plan.Sturdy) (ht : w.tasks[i]? = some t)
    {text : String} (turn : t.turn? w = some (.fin (.broken text))) :
    Instant.limit ≤ w.now + d := by
  rcases h.within.broken (Task.took_of_turn? turn) with hresponse | hfull
  · obtain ⟨u, hu, hr⟩ := Option.bind_eq_some_iff.mp hresponse
    have hcarries : u.stage.carries = some (.broken text) := by
      unfold Underway.response? at hr
      split at hr
      · next hback =>
        rw [hback]
        exact hr
      · cases hr
    rcases (h.underway u hu).broken text hcarries with hdeed | hfull
    · exact absurd hdeed (hw.underway t (List.mem_of_getElem? ht) u hu)
    · exact hfull
  · exact hfull

/-- The call of the task takes its turn. -/
lemma turned (h : t.Fits d w.now) (hw : w.Supplied Plan.Sturdy) (ht : w.tasks[i]? = some t)
    (hend : t.ending = none) (htu : World.Turned w i t w') :
    ∃ t', w'.tasks[i]? = some t' ∧ t'.Fits d w.now := by
  have hlt := (List.getElem?_eq_some_iff.mp ht).1
  have set {x : Task} {new : List Task} (htasks : w'.tasks = w.tasks.set i x ++ new)
      (hx : x.Fits d w.now) : ∃ t', w'.tasks[i]? = some t' ∧ t'.Fits d w.now :=
    ⟨x, by rw [htasks, List.getElem?_append_left (by simpa using hlt),
      List.getElem?_set_self hlt], hx⟩
  have goes {p : Process} {u : Option Underway} (hp : w.Follows t p)
      (hu : ∀ v, u = some v → v.Within d w.now) :
      Task.Fits d w.now { t with process := p, underway := u } :=
    ⟨hp.within h.within, hu, h.broken, fun _ lease hl => by cases hend.symm.trans hl⟩
  have finished {ending : Ending} (htasks : w'.tasks =
      w.tasks.set i { t with underway := none, ending := some ending })
      (hbroken : ∀ text, ending = .broken text → Instant.limit ≤ w.now + d)
      (hleased : t.process.isCaller = false → ∀ lease, ending = .leased lease →
        lease.ttl.nanos ≤ d) : ∃ t', w'.tasks[i]? = some t' ∧ t'.Fits d w.now :=
    set (htasks.trans (List.append_nil _).symm) ⟨h.within, (fun u hu => by cases hu),
      (fun text ht => hbroken text (Option.some.inj ht)),
      fun hp lease hl => hleased hp lease (Option.some.inj hl)⟩
  cases htu with
  | went p turn =>
    exact set (List.append_nil _).symm (goes (.next _ p turn rfl) fun v hv => by cases hv)
  | fired p signal turn =>
    have htasks : ((w.fire signal).setTask i { t with process := p }).tasks =
        w.tasks.set i { t with process := p } ++ [] := by simp
    exact set htasks (goes (.next _ p turn rfl) h.underway)
  | asked p r turn =>
    have hp : w.Follows t p := .next _ p turn rfl
    have hputs : p.Puts r := (Task.took_of_turn? turn).ask.1.puts
    refine set (List.append_nil _).symm (goes hp fun v hv => ?_)
    cases hv
    exact .start ((hp.within h.within).puts r hputs) _
  | joined c work row process stage =>
    exact set (List.append_nil _).symm (goes (.joined c work _ process stage) h.underway)
  | entered c work process stage =>
    exact set (List.append_nil _).symm (goes (.entered c work _ process stage) h.underway)
  | launched c number work process stage =>
    exact set rfl (goes (.launched c work number process stage) h.underway)
  | leased grant turn =>
    refine finished (w.newSignal.2.finish_tasks i t _) (fun text hb => by cases hb)
      fun _ lease hl => ?_
    cases hl
    exact h.within.granted (Task.took_of_turn? turn)
  | told c number lease process =>
    refine finished (w.finish_tasks i t _) (fun text hb => by cases hb) fun hp => ?_
    rw [process] at hp
    cases hp
  | broke text turn =>
    exact finished (w.finish_tasks i t _) (fun _ _ => h.overflows hw ht turn)
      fun _ lease hl => by cases hl
  | done | failed | refused | cancelled | toldFailure =>
    exact finished (w.finish_tasks i t _) (fun text hb => by cases hb)
      fun _ lease hl => by cases hl

/-- **A task that fits the clock does so after every act.** -/
theorem act (h : t.Fits d w.now) (hw : w.Supplied Plan.Sturdy) (ht : w.tasks[i]? = some t)
    (a : World.Act) : ∃ t', (w.act a).tasks[i]? = some t' ∧ t'.Fits d (w.act a).now := by
  have hle := w.now_le_act a
  have after : (∃ t', (w.act a).tasks[i]? = some t' ∧ t'.Fits d w.now) →
      ∃ t', (w.act a).tasks[i]? = some t' ∧ t'.Fits d (w.act a).now :=
    fun ⟨t', ht', h'⟩ => ⟨t', ht', h'.later hle⟩
  refine after ?_
  by_cases hstep : a = .step i
  · subst hstep
    rcases w.act_step i with hs | ⟨t', ht', hend, hm | htu⟩
    · exact ⟨t, by rw [hs, ht], h⟩
    · cases ht.symm.trans ht'
      exact h.moved ht hm
    · cases ht.symm.trans ht'
      exact h.turned hw ht hend htu
  by_cases habort : a = .abort i
  · subst habort
    rcases w.act_abort i with hs | ⟨t', ht', -, hs⟩
    · exact ⟨t, by rw [hs, ht], h⟩
    · cases ht.symm.trans ht'
      refine ⟨{ t with underway := none, ending := some .aborted }, ?_, h.within,
        (fun u hu => by cases hu), (fun text hb => by cases hb), fun _ lease hl => by cases hl⟩
      rw [hs, World.finish_tasks, List.getElem?_set_self (List.getElem?_eq_some_iff.mp ht).1]
  · exact ⟨t, World.other_act ht hstep habort, h⟩

lemma run (h : t.Fits d w.now) (hw : w.Supplied Plan.Sturdy) (ht : w.tasks[i]? = some t)
    {acts : List World.Act} (hacts : ∀ a ∈ acts, a.Supplies Plan.Sturdy) :
    ∃ t', (w.run acts).tasks[i]? = some t' ∧ t'.Fits d (w.run acts).now := by
  induction acts generalizing w t with
  | nil => exact ⟨t, ht, h⟩
  | cons a acts ih =>
    obtain ⟨t', ht', h'⟩ := h.act hw ht a
    exact ih h' (hw.act Deed.noConfusion (hacts a List.mem_cons_self)) ht'
      fun b hb => hacts b (List.mem_cons_of_mem a hb)

end Task.Fits

/-- An acquisition needs no more than the lifetime that it asks for. -/
lemma Process.within_start {key : String} {ttl timeout : Span} {strategy : Retry.Strategy}
    {signal : Option Signal} (h : strategy.Lasts) :
    (Process.acquisition (.start key ttl timeout strategy signal)).Within ttl.nanos := by
  refine ⟨?_, ?_, fun x hx => by cases hx⟩
  · rintro _ ⟨token, rfl⟩ _ _ _ hw
    cases hw
    exact Nat.le_refl _
  · intro a ha
    cases ha
    exact h

/-! ### Settings -/

namespace Client

variable (c : Client) (key : String) {lease : Lease}

lemma acquire_within : (c.acquire key).Within c.settings.ttl.nanos := by
  unfold acquire
  split
  · exact ⟨fun r hr => hr.elim, (fun a ha => by cases ha), fun x hx => by cases hx⟩
  · exact Process.within_start (Retry.Strategy.lasts_fixed _)

lemma acquire_not_caller : (c.acquire key).isCaller = false := by
  unfold acquire
  split <;> rfl

lemma upkeep_within (hvalid : c.settings.validate = .ok ())
    (hlease : lease.ttl.nanos ≤ c.settings.ttl.nanos) :
    (Process.renewal (c.upkeep lease)).Within c.settings.ttl.nanos := by
  obtain ⟨-, -, -, hinterval⟩ := LockSettings.of_validate hvalid
  refine ⟨?_, (fun a ha => by cases ha), fun x hx => ?_⟩
  · rintro _ rfl _ _ _ hw
    cases hw
    exact hlease
  · cases hx
    exact Nat.le_of_lt hinterval

end Client

namespace World

variable {plans : Plans} {client : Client}

/-- **Settings that are accepted fit the clock until the lifetime of a lease is all that is left of
it.** Take a client with accepted settings, and let it acquire a key at any point of any run at a
store that does not break down of itself. Up to an instant from which another lifetime of the
settings still fits the clock, the call does not break down, whatever becomes of its attempts; and
if it has come to a lease by then, the client can keep it alive, and up to such an instant the
renewal does not break down either. -/
theorem valid_settings_fit_clock (before acts : List Act) (key : String)
    (hvalid : client.settings.validate = .ok ()) (hplans : plans.All Plan.Sturdy)
    (hacts : ∀ a ∈ before ++ acts, a.Supplies Plan.Sturdy) :
    let i := ((start plans).run before).tasks.length
    let v := (((start plans).run before).act (.spawn (client.acquire key))).run acts
    v.now + client.settings.ttl.nanos < Instant.limit →
    (∀ text, v.ending? i ≠ some (.broken text)) ∧
    ∀ lease, v.ending? i = some (.leased lease) → ∃ p, client.keepAlive lease = .ok p ∧
      ∀ more, (∀ a ∈ more, a.Supplies Plan.Sturdy) →
        ((v.act (.spawn p)).run more).now + client.settings.ttl.nanos < Instant.limit →
        ∀ text, ((v.act (.spawn p)).run more).ending? v.tasks.length ≠ some (.broken text) := by
  intro i v hfits
  obtain ⟨hbefore, hacts⟩ := List.forall_mem_append.mp hacts
  have hsupplied : ((start plans).run before).Supplied Plan.Sturdy :=
    (supplied_start hplans).run Deed.noConfusion hbefore
  have hspawned : (((start plans).run before).act (.spawn (client.acquire key))).Supplied
      Plan.Sturdy := hsupplied.act Deed.noConfusion trivial
  have hcall : (((start plans).run before).act (.spawn (client.acquire key))).tasks[i]? =
      some ⟨client.acquire key, none, none, none⟩ := List.getElem?_concat_length ..
  obtain ⟨t, ht, hfit⟩ := (Task.Fits.fresh (client.acquire_within key)).run hspawned hcall hacts
  obtain ⟨t', ht', hcaller, -⟩ := stays_run hcall acts
  cases ht.symm.trans ht'
  have hending {ending : Ending} (h : v.ending? i = some ending) : t.ending = some ending := by
    rwa [ending?, ht, Option.bind_some] at h
  refine ⟨fun text h => absurd (hfit.broken text (hending h)) (Nat.not_le.mpr hfits),
    fun lease hlease => ⟨_, Client.keepAlive_of_validate hvalid, fun more hmore hlast text h => ?_⟩⟩
  have hshort : lease.ttl.nanos ≤ client.settings.ttl.nanos :=
    hfit.leased (hcaller.trans (client.acquire_not_caller key)) lease (hending hlease)
  have hkept : (v.act (.spawn (.renewal (client.upkeep lease)))).Supplied Plan.Sturdy :=
    (hspawned.run Deed.noConfusion hacts).act Deed.noConfusion trivial
  have hrenewal : (v.act (.spawn (.renewal (client.upkeep lease)))).tasks[v.tasks.length]? =
      some ⟨.renewal (client.upkeep lease), none, none, none⟩ := List.getElem?_concat_length ..
  obtain ⟨x, hx, hfit'⟩ :=
    (Task.Fits.fresh (client.upkeep_within hvalid hshort)).run hkept hrenewal hmore
  rw [ending?, hx, Option.bind_some] at h
  exact absurd (hfit'.broken text h) (Nat.not_le.mpr hlast)

/-- With the default settings, a lease is obtained and renewed. -/
theorem valid_settings_fit_clock_past_a_tick :
    let client : Client := ⟨.standard, "clients"⟩
    let lease : Lease := ⟨⟨"k", .minted 1, .ofSecs 30⟩, 0⟩
    let plans : Plans := ⟨[], [⟨none, .serve, some (.ofMillis 5)⟩], []⟩
    let acts := [.step 0, .step 0, .step 0]
    let more := [.step 1, .advance 10000000000, .step 1, .step 1, .advance 5000000, .step 1,
      .step 1]
    let v := ((start plans).act (.spawn (client.acquire "k"))).run acts
    v.ending? 0 = some (.leased lease) ∧ ∃ p, client.keepAlive lease = .ok p ∧
      ∀ text, ((v.act (.spawn p)).run more).ending? 1 ≠ some (.broken text) := by
  intro client lease plans acts more v
  have hleased : v.ending? 0 = some (.leased lease) := by decide
  have hvalid : client.settings.validate = .ok () := by decide
  have hplans : plans.All Plan.Sturdy := by simp [plans, Plans.All, Plan.Sturdy]
  obtain ⟨-, hkeeps⟩ := valid_settings_fit_clock [] acts "k" hvalid hplans
    (by simp [acts, Act.Supplies]) (by decide)
  obtain ⟨p, hp, hrenews⟩ := hkeeps lease hleased
  cases hp.symm.trans (Client.keepAlive_of_validate hvalid)
  have hj : v.tasks.length = 1 := by decide
  have hlasts := hrenews more (by simp [more, Act.Supplies]) (by decide)
  refine ⟨hleased, _, hp, ?_⟩
  rw [← hj]
  exact hlasts

/-- The settings that give the longest lifetime there is are accepted, and an acquisition by them
breaks down as soon as the key is to be had. -/
theorem valid_settings_overflow :
    let settings : LockSettings := .setAll .standard [.ttl .longest]
    let client : Client := ⟨settings, "clients"⟩
    let v := ((start ⟨[], [], []⟩).act (.spawn (client.acquire "k"))).run [.step 0, .step 0, .step 0]
    settings.validate = .ok () ∧ v.ending? 0 = some (.broken Instant.overflowText) ∧
      v.memory.holder v.now "k" = none := by
  decide

end World
end LeaseLock
