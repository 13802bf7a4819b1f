import Mathlib.Tactic.Common
import LeaseLock.Proofs.World.Halt

/-!
A lease that is given up fades.

Nobody but the renewals of a lease writes its entry again. Once the lease was given up they ask for
nothing more, so the last write is that of a refresh which was under way at that instant, and comes
before the deadline of the refresh is over. What was written lasts for the lifetime of the lease.
-/

namespace LeaseLock

/-- Whether a call renews a lease, if it does, as a copy of it, at regular intervals, and lets a
refresh take no longer than `patience`. -/
def Process.Patient (lease : Lease) (patience : Span) : Process → Prop
  | .errand e =>
    match e.kind with
    | .refresh l => l.token ≠ lease.token
    | .attempt .. | .unlock _ => True
  | .renewal x => x.lease.token = lease.token → x.lease = lease ∧ x.timeout ≤ patience
  | .acquisition _ | .caller _ | .refused _ => True

/-- Whether the act, if it spawns a call, spawns such a call. -/
def World.Act.Patient (lease : Lease) (patience : Span) : World.Act → Prop
  | .spawn p => p.Patient lease patience
  | _ => True

/-- What is in the table of a store was there before, or is what the store was asked to write. -/
lemma Memory.Served.written {m m' : Memory} {now : Nat} {r : Request} {yes : Bool} {key : String}
    {e : Entry} (serve : m.Served now r (some yes) m') (he : m'.entries.find? key = some e) :
    m.entries.find? key = some e ∨
      ∃ ttl, r.write? = some (key, e.token, ttl) ∧ e.expires = now + ttl.nanos := by
  have put {k : String} {token : Token} {ttl : Span} (hr : r.write? = some (k, token, ttl))
      (hput : (m.entries.put k ⟨token, now + ttl.nanos⟩).find? key = some e) :
      m.entries.find? key = some e ∨
        ∃ ttl, r.write? = some (key, e.token, ttl) ∧ e.expires = now + ttl.nanos := by
    rw [Table.find?_put] at hput
    split at hput
    · next hk =>
      cases hput
      exact .inr ⟨ttl, hk ▸ hr, rfl⟩
    · exact .inl hput
  have drop {k : String} (hdrop : (m.expire k).entries.find? key = some e) :
      m.entries.find? key = some e := by
    rw [Memory.find?_expire] at hdrop
    split at hdrop
    · cases hdrop
    · exact hdrop
  cases serve with
  | acquired free fits => exact put rfl he
  | refreshed own fits => exact put rfl he
  | released own => exact .inl (drop he)
  | swept dead => exact .inl (drop he)
  | taken | stale | foreign => exact .inl he

namespace World

variable {w w' : World} {i j : Nat} {t : Task} {a : Act} {lease : Lease} {patience : Span}
  {x : Renewal} {p : Process} {bound : Nat}

lemma Follows.patient (h : w.Follows t p) (hp : t.process.Patient lease patience) :
    p.Patient lease patience := by
  cases h with
  | same => exact hp
  | next turn p turns next =>
    cases Task.took_of_turn? turns with
    | errand e turn process took =>
      rw [process] at hp
      cases took <;> cases next <;> exact hp
    | acquisition e turn process took => cases took <;> cases next <;> trivial
    | renewal e turn process took =>
      rw [process] at hp
      cases took <;> cases next <;> exact hp
  | joined | entered | launched => trivial

/-- Every call renews the lease as a copy of it, if it does. -/
def AllPatient (w : World) (lease : Lease) (patience : Span) : Prop :=
  ∀ (j : Nat) (t : Task), w.tasks[j]? = some t → t.process.Patient lease patience

lemma AllPatient.act (hw : w.AllPatient lease patience) (ha : a.Patient lease patience) :
    (w.act a).AllPatient lease patience := by
  intro j t' ht'
  rcases w.task_cases a ht' with ⟨t, ht, hfollows⟩ | rfl | ⟨b, hb⟩
  · exact hfollows.patient (hw j t ht)
  · exact ha
  · rw [hb]
    trivial

lemma AllPatient.run (hw : w.AllPatient lease patience) {acts : List Act}
    (ha : ∀ a ∈ acts, a.Patient lease patience) : (w.run acts).AllPatient lease patience :=
  run_induction (P := fun v => v.AllPatient lease patience) hw fun _ a hmem hv =>
    hv.act (ha a hmem)

/-! ### Who writes the entry of a lease -/

/-- A lease that was acquired, and that nobody renews but by regular renewals. -/
structure Leased (w : World) (lease : Lease) (patience : Span) : Prop where
  regular : w.Regular
  acquired : w.Acquired lease.toGrant
  patient : w.AllPatient lease patience
  /-- Nobody has written more than the lease is good for. -/
  recent : ∀ e, w.memory.entries.find? lease.key = some e → e.token = lease.token →
    e.expires ≤ w.now + lease.ttl.nanos

/-- The request of task `j` is a refresh of the lease that has come to the store. -/
def Refreshes (w : World) (j : Nat) (lease : Lease) : Prop :=
  ∃ t x, w.tasks[j]? = some t ∧ t.ending = none ∧ t.process = .renewal x ∧ x.lease = lease ∧
    ∃ u, t.underway = some u ∧ u.stage = .arrived

namespace Leased

/-- The entry of a lease is as it was, or was written by a renewal just now. -/
lemma written (hw : w.Leased lease patience) (ha : a.Lawful) {e : Entry}
    (he : (w.act a).memory.entries.find? lease.key = some e) (htoken : e.token = lease.token) :
    w.memory.entries.find? lease.key = some e ∨
      (e.expires = w.now + lease.ttl.nanos ∧ ∃ j, a = .step j ∧ w.Refreshes j lease) := by
  cases w.act_effect a with
  | still memory | noted _ _ memory | asked _ _ _ _ _ _ _ memory =>
    rw [memory] at he
    exact .inl he
  | served i t u yes act task underway stage serve history =>
    refine (serve.written he).imp_right fun ⟨ttl, hwrite, hexpires⟩ => ?_
    subst act
    rw [htoken] at hwrite
    have hrunning : t.ending = none := by
      rcases w.act_step i with h | ⟨t', ht', hend, -⟩
      · rw [h] at history
        simp at history
      · cases task.symm.trans ht'
        exact hend
    have hputs := ((hw.regular.sound.tasks i t task).awaits u underway).puts
    have hspent := hw.regular.spent hw.acquired task underway stage
    have hpatient := hw.patient i t task
    have fresh {key : String} {token : Token} {ttl' : Span}
        (hr : u.request = .acquire key token ttl') : False := by
      rw [hr] at hwrite hspent
      simp only [Request.write?, Option.some.injEq, Prod.mk.injEq] at hwrite
      exact hspent (congrArg some hwrite.2.1)
    -- of all calls only a renewal can come with the token of the lease
    cases hp : t.process with
    | errand b =>
      rw [hp] at hputs hpatient
      obtain ⟨token, hr⟩ := hputs
      simp only [Process.Patient] at hpatient
      cases hk : b.kind with
      | attempt key ttl' => exact (fresh (by rw [hr, hk]; rfl)).elim
      | refresh l =>
        rw [hk] at hpatient
        rw [hr, hk] at hwrite
        simp only [Errand.request, Request.write?, Option.some.injEq, Prod.mk.injEq] at hwrite
        exact absurd hwrite.2.1 hpatient
      | unlock l =>
        rw [hr, hk] at hwrite
        cases hwrite
    | acquisition b =>
      rw [hp] at hputs
      obtain ⟨token, hr⟩ := hputs
      exact (fresh hr).elim
    | renewal x =>
      rw [hp] at hputs hpatient
      rw [show u.request = _ from hputs] at hwrite
      simp only [Request.write?, Option.some.injEq, Prod.mk.injEq] at hwrite
      obtain ⟨-, htoken', rfl⟩ := hwrite
      obtain ⟨rfl, -⟩ := hpatient htoken'
      exact ⟨hexpires, i, rfl, t, x, task, hrunning, hp, rfl, u, underway, stage⟩
    | caller b =>
      rw [hp] at hputs
      exact hputs.elim
    | refused b =>
      rw [hp] at hputs
      exact hputs.elim
  | intruded r yes act serve =>
    refine (serve.written he).imp_right fun ⟨ttl, hwrite, _⟩ => ?_
    subst act
    obtain ⟨n, hn⟩ := hw.regular.exists_minted hw.acquired
    have hr : r.token = e.token := by
      cases r <;> cases hwrite <;> rfl
    exact absurd (hr.trans (htoken.trans hn)) (ha n)
  | expired key memory =>
    rw [memory, Memory.find?_expire] at he
    split at he
    · cases he
    · exact .inl he

lemma act (hw : w.Leased lease patience) (ha : a.Lawful) (hp : a.Patient lease patience) :
    (w.act a).Leased lease patience where
  regular := hw.regular.act ha
  acquired := hw.acquired.act a
  patient := hw.patient.act hp
  recent e he htoken := by
    have hle := w.now_le_act a
    rcases hw.written ha he htoken with hold | ⟨hexpires, -⟩
    · have := hw.recent e hold htoken
      omega
    · omega

lemma run (hw : w.Leased lease patience) {acts : List Act} (ha : ∀ a ∈ acts, a.Lawful)
    (hp : ∀ a ∈ acts, a.Patient lease patience) : (w.run acts).Leased lease patience :=
  run_induction (P := fun v => v.Leased lease patience) hw fun _ a hmem hv =>
    hv.act (ha a hmem) (hp a hmem)

/-- A lease that was handed out was written when it was acquired. -/
lemma of_handedOut {plans : Plans} (hplans : plans.Honest) {acts : List Act}
    (ha : ∀ a ∈ acts, a.Lawful) (hp : ∀ a ∈ acts, a.Patient lease patience)
    (handed : ((start plans).run acts).HandedOut lease) :
    ((start plans).run acts).Leased lease patience := by
  obtain ⟨time, k, hm⟩ : ((start plans).run acts).Acquired lease.toGrant :=
    ((handed_start plans).run (sound_start hplans) ha).ended lease handed
  obtain ⟨later, older, hhistory⟩ := List.append_of_mem hm
  obtain ⟨before, a, after, rfl, rfl, hact⟩ := exists_act hhistory (Nat.zero_le _)
  obtain ⟨hbefore, hafter⟩ := List.forall_mem_append.mp ha
  obtain ⟨hbefore', hafter'⟩ := List.forall_mem_append.mp hp
  rw [run_append]
  generalize hv : (start plans).run before = v at hact ⊢
  have hregular : v.Regular := hv ▸ (regular_start hplans).run hbefore
  have hpatient : v.AllPatient lease patience := by
    rw [← hv]
    exact AllPatient.run (fun j t ht => by cases ht) hbefore'
  have hlawful : a.Lawful := hafter a List.mem_cons_self
  have hleased : (v.act a).Leased lease patience := by
    refine ⟨hregular.act hlawful, ⟨time, k, ?_⟩, hpatient.act (hafter' a List.mem_cons_self),
      fun e he htoken => ?_⟩
    · rw [hact]
      exact List.mem_cons_self
    · obtain ⟨-, -, -, -, -, -, hserved⟩ := served_of_history hact
      generalize (v.act a).memory = m at hserved he
      cases hserved with
      | acquired free fits =>
        rw [Table.find?_put, if_pos rfl] at he
        cases he
        exact Nat.add_le_add_right (v.now_le_act a) _
  exact hleased.run (fun b hb => hafter b (List.mem_cons_of_mem a hb))
    fun b hb => hafter' b (List.mem_cons_of_mem a hb)

end Leased

/-! ### After the unlock -/

/-- Every renewal of the lease whose refresh has yet to be served gives it up by `bound`. -/
def Expectant (w : World) (lease : Lease) (bound : Nat) : Prop :=
  ∀ (j : Nat) (t : Task) (x : Renewal) (u : Underway), w.tasks[j]? = some t → t.ending = none →
    t.process = .renewal x → x.lease = lease → t.underway = some u → u.stage.carries = none →
    ∃ due deadline, x.stage = .asking due deadline ∧ deadline ≤ bound

/-- A lease that was given up, and whose entry nobody can write after `bound`. -/
structure Fading (w : World) (lease : Lease) (patience : Span) (bound : Nat) : Prop where
  leased : w.Leased lease patience
  stopped : lease.stop ∈ w.fired
  /-- The renewals of the lease are not kept waiting. -/
  paced : ∀ (j : Nat) (t : Task), w.tasks[j]? = some t → t.process.Listens lease.stop → w.Paced j
  entry : ∀ e, w.memory.entries.find? lease.key = some e → e.token = lease.token →
    e.expires ≤ bound + lease.ttl.nanos
  expectant : w.Expectant lease bound

namespace Fading

/-- No refresh is asked for any more. -/
lemma expectant_step (hw : w.Fading lease patience bound) {t' : Task} {u' : Underway}
    (ht : w.tasks[j]? = some t) (hend : t.ending = none) (hp : t.process = .renewal x)
    (hx : x.lease = lease) (ht' : (w.act (.step j)).tasks[j]? = some t')
    (hu' : t'.underway = some u') (hcarries : u'.stage.carries = none) :
    t'.process = .renewal x ∧ ∃ due deadline, x.stage = .asking due deadline ∧
      deadline ≤ bound := by
  have hlt := (List.getElem?_eq_some_iff.mp ht).1
  have hrenewed := renewed_act ht hend hp
  generalize w.act (.step j) = v at hrenewed ht'
  cases hrenewed with
  | rested took =>
    cases ht.symm.trans ht'
    exact ⟨hp, hw.expectant j t x u' ht hend hp hx hu' hcarries⟩
  | moved v hm =>
    obtain ⟨u, u₁, hu, hpasses, htasks, -⟩ := hm.passes
    rw [htasks, List.getElem?_set_self hlt] at ht'
    cases ht'
    cases hu'
    exact ⟨hp, hw.expectant j t x u ht hend hp hx hu (hpasses.carries hcarries)⟩
  | went x' took =>
    rw [setTask_tasks, List.getElem?_set_self hlt] at ht'
    cases ht'
    cases hu'
  | asked x' r took =>
    have hfired := glimpse_fired (t := t) (hx.symm ▸ hw.stopped)
    exact Bool.noConfusion (hfired.symm.trans took.unfired)
  | ended o took =>
    rw [finish_tasks, List.getElem?_set_self hlt] at ht'
    cases ht'
    cases hu'

lemma expectant_act (hw : w.Fading lease patience bound) (a : Act) :
    (w.act a).Expectant lease bound := by
  intro j t' x' u' ht' hend' hp' hx' hu' hcarries
  rcases renewal_cases ht' hend' hp' with ⟨-, -, rfl⟩ | ⟨t, x, ht, hend, hp, hx⟩
  · cases hu'
  by_cases hstep : a = .step j
  · subst hstep
    obtain ⟨hp'', hasking⟩ := hw.expectant_step ht hend hp (hx.symm.trans hx') ht' hu' hcarries
    cases hp'.symm.trans hp''
    exact hasking
  by_cases habort : a = .abort j
  · subst habort
    rcases w.act_abort j with h | ⟨y, hy, -, h⟩
    · rw [h] at ht'
      exact hw.expectant j t' x' u' ht' hend' hp' hx' hu' hcarries
    · rw [h, finish_tasks, List.getElem?_set_self (List.getElem?_eq_some_iff.mp ht).1] at ht'
      cases ht'
      cases hu'
  · cases ht'.symm.trans (other_act ht hstep habort)
    exact hw.expectant j _ x' u' ht hend' hp' hx' hu' hcarries

/-- A refresh that the store serves comes before its deadline. -/
lemma entry_act (hw : w.Fading lease patience bound) (ha : a.Lawful) {e : Entry}
    (he : (w.act a).memory.entries.find? lease.key = some e) (htoken : e.token = lease.token) :
    e.expires ≤ bound + lease.ttl.nanos := by
  rcases hw.leased.written ha he htoken with hold | ⟨hexpires, j, -, hrefreshes⟩
  · exact hw.entry e hold htoken
  obtain ⟨t, x, ht, hend, hp, hx, u, hu, hstage⟩ := hrefreshes
  have hcarries : u.stage.carries = none := by
    rw [hstage]
    rfl
  obtain ⟨due, deadline, hasking, hbound⟩ := hw.expectant j t x u ht hend hp hx hu hcarries
  have hlistens : t.process.Listens lease.stop := by
    rw [hp]
    exact congrArg Lease.stop hx
  have hon := hw.paced j t ht hlistens t x ht hend hp
  rw [hasking] at hon
  have hearly : w.now ≤ deadline := by
    cases hon with
    | asking _ time u underway sharp frank asked whole since early => exact early
  omega

lemma act (hw : w.Fading lease patience bound) (ha : a.Lawful) (hp : a.Patient lease patience)
    (hfresh : a.StartsFresh)
    (hh : ∀ (j : Nat) (t : Task), w.tasks[j]? = some t → t.process.Listens lease.stop →
      w.Heeds j a) : (w.act a).Fading lease patience bound where
  leased := hw.leased.act ha hp
  stopped := w.mem_fired_act a hw.stopped
  paced j t' ht' hlistens := by
    cases ht : w.tasks[j]? with
    | some t =>
      obtain ⟨s, hs, hfollows⟩ := w.follows_act a ht
      cases ht'.symm.trans hs
      have hlistened := hfollows.listens.mp hlistens
      exact (hw.paced j t ht hlistened).act hfresh (hh j t ht hlistened)
    | none =>
      have hpaced : w.Paced j := fun t x hx => by cases ht.symm.trans hx
      refine hpaced.act hfresh ?_
      -- a task that is yet to come waits for nothing
      cases a with
      | advance d => exact ⟨by simp [World.step, ht], fun t hx => by cases ht.symm.trans hx⟩
      | _ => trivial
  entry e he htoken := hw.entry_act ha he htoken
  expectant := hw.expectant_act a

lemma run (hw : w.Fading lease patience bound) {acts : List Act} (ha : ∀ a ∈ acts, a.Lawful)
    (hp : ∀ a ∈ acts, a.Patient lease patience) (hfresh : ∀ a ∈ acts, a.StartsFresh)
    (hh : ∀ (j : Nat) (t : Task), (w.run acts).tasks[j]? = some t →
      t.process.Listens lease.stop → w.Heeded j acts) :
    (w.run acts).Fading lease patience bound := by
  induction acts generalizing w with
  | nil => exact hw
  | cons a acts ih =>
    have hmem : a ∈ a :: acts := List.mem_cons_self
    have hact := hw.act (ha a hmem) (hp a hmem) (hfresh a hmem) fun j t ht hlistens => by
      obtain ⟨t', ht', hsame⟩ := listens_run ht (a :: acts)
      exact (hh j t' ht' (hsame.mpr hlistens)).1
    exact ih hact (fun b hb => ha b (List.mem_cons_of_mem a hb))
      (fun b hb => hp b (List.mem_cons_of_mem a hb))
      (fun b hb => hfresh b (List.mem_cons_of_mem a hb)) fun j t ht hlistens =>
      (hh j t ht hlistens).2

/-- The lease holds its key no longer than for its lifetime after `bound`. -/
lemma holder_ne (hw : w.Fading lease patience bound) {time : Nat}
    (htime : bound + lease.ttl.nanos ≤ time) :
    w.memory.holder time lease.key ≠ some lease.token := by
  intro h
  obtain ⟨e, he, htoken⟩ := Memory.holder_eq_some.mp h
  obtain ⟨hfind, hlive⟩ := Memory.live?_eq_some.mp he
  have := hw.entry e hfind htoken
  omega

end Fading

/-- **An abandoned unlock heals by itself.** Take any run in which only the store answers, however
late or not at all, and let a task take the first step of unlocking a lease in it that was handed
out. Let nobody refresh the lease but by renewals, with timeouts of at most `patience`, that are not
kept waiting. Then whatever becomes of the unlock, the lease does not hold its key at any instant
from `patience` in whole milliseconds and the lifetime of the lease after that step on; and if no
refresh was under way at that step, from the lifetime of the lease after it on. -/
theorem abandoned_unlock_heals {plans : Plans} {before after : List Act} (hplans : plans.Honest)
    (hlawful : ∀ a ∈ before ++ after, a.Lawful)
    (hacts : ∀ a ∈ before ++ after, a.Patient lease patience ∧ a.StartsFresh)
    (handed : ((start plans).run before).HandedOut lease)
    (hunlock : ((start plans).run before).errand? i = some (.unlock lease)) :
    let w := ((start plans).run before).act (.step i)
    let v := w.run after
    (∀ (j : Nat) (t : Task), v.tasks[j]? = some t → t.process.Listens lease.stop →
      (start plans).Heeded j (before ++ .step i :: after)) →
    ∀ time,
      (w.now + Instant.roundUp patience.nanos + lease.ttl.nanos ≤ time →
        v.memory.holder time lease.key ≠ some lease.token) ∧
      ((∀ j x, w.renewal? j = some x → x.lease = lease →
          ∀ due deadline, x.stage ≠ .asking due deadline) →
        w.now + lease.ttl.nanos ≤ time → v.memory.holder time lease.key ≠ some lease.token) := by
  intro w v hheeded time
  obtain ⟨hlawful, hlawful'⟩ := List.forall_mem_append.mp hlawful
  obtain ⟨hbefore, hafter⟩ := List.forall_mem_append.mp hacts
  have hleased : w.Leased lease patience :=
    (Leased.of_handedOut hplans hlawful (fun a ha => (hbefore a ha).1) handed).act trivial trivial
  have hstopped : lease.stop ∈ w.fired := fired_of_unlock hunlock
  have hpaced : ∀ (j : Nat) (t : Task), w.tasks[j]? = some t → t.process.Listens lease.stop →
      w.Paced j := by
    intro j t ht hlistens
    obtain ⟨t', ht', hsame⟩ := listens_run ht after
    obtain ⟨hheeds, -⟩ := heeded_append.mp (hheeded j t' ht' (hsame.mpr hlistens))
    exact ((paced_start plans j).run (fun a ha => (hbefore a ha).2) hheeds).act trivial trivial
  have holder_ne {bound : Nat} (hbound : w.now ≤ bound) (hexpectant : w.Expectant lease bound)
      (htime : bound + lease.ttl.nanos ≤ time) :
      v.memory.holder time lease.key ≠ some lease.token := by
    have hfading : w.Fading lease patience bound := by
      refine ⟨hleased, hstopped, hpaced, fun e he htoken => ?_, hexpectant⟩
      exact Nat.le_trans (hleased.recent e he htoken) (Nat.add_le_add_right hbound _)
    refine (hfading.run hlawful' (fun a ha => (hafter a ha).1) (fun a ha => (hafter a ha).2)
      fun j t ht hlistens => ?_).holder_ne htime
    exact (heeded_append.mp (hheeded j t ht hlistens)).2.2
  -- a renewal of the lease with a refresh under way asks, and has asked by now
  have asking {j : Nat} {t : Task} {x : Renewal} {u : Underway} (ht : w.tasks[j]? = some t)
      (hend : t.ending = none) (hp : t.process = .renewal x) (hx : x.lease = lease)
      (hu : t.underway = some u) : ∃ due deadline, x.stage = .asking due deadline ∧
        deadline ≤ w.now + Instant.roundUp patience.nanos := by
    have hlistens : t.process.Listens lease.stop := by
      rw [hp]
      exact congrArg Lease.stop hx
    have hon := hpaced j t ht hlistens t x ht hend hp
    have hpatient := hleased.patient j t ht
    rw [hp] at hpatient
    have htimeout : x.timeout.nanos ≤ patience.nanos := (hpatient (congrArg (·.token) hx)).2
    generalize x.stage = stage at hon ⊢
    cases hon with
    | fresh idle | ticking _ idle | repeating _ idle => cases hu.symm.trans idle
    | asking due time v underway sharp frank asked whole since early =>
      refine ⟨due, _, rfl, ?_⟩
      calc Instant.timer time x.timeout
          = time + Instant.roundUp x.timeout.nanos := Instant.roundUp_add whole _
        _ ≤ w.now + Instant.roundUp patience.nanos :=
          Nat.add_le_add since (Instant.roundUp_mono htimeout)
  refine ⟨holder_ne (Nat.le_add_right _ _) fun j t x u ht hend hp hx hu _ =>
    asking ht hend hp hx hu, fun hidle => holder_ne (Nat.le_refl _) ?_⟩
  intro j t x u ht hend hp hx hu _
  obtain ⟨due, deadline, hasking, -⟩ := asking ht hend hp hx hu
  exact absurd hasking (hidle j x (renewal?_eq_some.mpr ⟨t, ht, hend, hp⟩) hx due deadline)

/-- A refresh that is under way reaches the store late and prolongs the lease once more, while the
release gets no answer. The lease outlasts its lifetime after the unlock, but not for longer than
the refresh was waited for. -/
theorem abandoned_unlock_heals_under_way :
    let lease : Lease := ⟨⟨"k", .minted 1, .ofMillis 50⟩, 0⟩
    let plans : Plans := ⟨[], [⟨some (.ofMillis 20), .serve, none⟩], [⟨none, .hang, none⟩]⟩
    let before := [.spawn (.errand (.attempt "k" (.ofMillis 50))), .step 0, .step 0, .step 0,
      .spawn (.renewal (.start lease (.ofMillis 10) (.ofNanos 24500000))), .step 1,
      .advance 10000000, .step 1, .advance 2000000, .spawn (.errand (.unlock lease))]
    let after := [.step 2, .advance 18000000, .step 1, .step 1]
    let w := ((start plans).run before).act (.step 2)
    let v := w.run after
    w.now = 12000000 ∧ v.memory.holder 79999999 "k" = some (.minted 1) ∧
      v.memory.holder 87000000 "k" ≠ some (.minted 1) := by
  intro lease plans before after w v
  have hplans : plans.Honest := by
    simp [plans, Plans.Honest, Plan.Honest]
  have hlawful : ∀ a ∈ before ++ after, a.Lawful := by
    simp [before, after, Act.Lawful]
  have hacts : ∀ a ∈ before ++ after, a.Patient lease (.ofNanos 24500000) ∧ a.StartsFresh := by
    simp [before, after, Act.Patient, Process.Patient, Act.StartsFresh, Renewal.start,
      Errand.attempt, Errand.unlock, Span.le_def]
  have handed : ((start plans).run before).HandedOut lease := ⟨0, 0, by decide⟩
  have hunlock : ((start plans).run before).errand? 2 = some (.unlock lease) := by decide
  have hlength : v.tasks.length = 3 := by decide
  have hheeded : ∀ j < 3, (start plans).Heeded j (before ++ .step 2 :: after) := by decide
  have hheals := abandoned_unlock_heals hplans hlawful hacts handed hunlock
    (fun j t ht _ => hheeded j (hlength ▸ (List.getElem?_eq_some_iff.mp ht).1)) 87000000
  exact ⟨by decide, by decide, hheals.1 (by decide)⟩

end World
end LeaseLock
