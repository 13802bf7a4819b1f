import Mathlib.Tactic.Common
import LeaseLock.Proofs.World.Ticks

/-!
A renewal at a store that answers at once.

If no task is kept waiting, the renewal is at work only at its ticks, and they come at whole
milliseconds. It keeps its lease if no tick comes later than the lease lasts: `Ahead` says this of a
renewal at each of its stages, and `Sustaining` carries it through a run.
-/

namespace LeaseLock

/-- The rounding of a sum is at most the sum of the roundings. -/
lemma Instant.roundUp_add_le (t u : Nat) : roundUp (t + u) ≤ roundUp t + roundUp u := by
  have hmono : roundUp (t + u) ≤ roundUp (roundUp t + u) :=
    roundUp_mono (Nat.add_le_add_right (le_roundUp t) u)
  rwa [roundUp_add (dvd_roundUp t)] at hmono

/-- A tick that is seen when its timer fires does not move the ticks that follow. -/
lemma Renewal.nextDue_of_prompt {interval : Span} {due : Nat} :
    nextDue interval due (Instant.roundUp due) = due + interval.nanos := by
  have hlt := Instant.roundUp_lt due
  have hle : Instant.roundUp due ≤ due + tolerance := by
    unfold tolerance
    omega
  rw [nextDue, if_pos hle]

/-- Whether a renewal comes often enough for its lease, whatever the instant of a tick. -/
structure Renewal.Brisk (x : Renewal) : Prop where
  positive : 0 < x.interval.nanos
  patient : 0 < x.timeout.nanos
  often : Instant.roundUp x.interval.nanos < x.lease.ttl.nanos

namespace World

variable {w w' : World} {j : Nat} {t : Task} {a : Act} {lease : Lease} {e : Entry} {x : Renewal}

/-! ### A renewal at a store that answers at once -/

/-- Where a renewal is whose lease lasts until `expires` and beyond its next tick. -/
inductive Ahead (w : World) (t : Task) (x : Renewal) (expires : Nat) : Renewal.Stage → Prop
  | fresh (idle : t.underway = none)
      (early : Instant.roundUp (w.now + x.interval.nanos) < expires) : Ahead w t x expires .fresh
  | ticking (due : Nat) (idle : t.underway = none) (ahead : w.now ≤ Instant.roundUp due)
      (early : Instant.roundUp due < expires) : Ahead w t x expires (.ticking due)
  | asked (due deadline : Nat) (u : Underway) (underway : t.underway = some u)
      (stage : u.stage = .arrived)
      (request : u.request = .refresh x.lease.key x.lease.token x.lease.ttl)
      (held : w.now < expires) (pending : w.now < deadline) (ahead : w.now ≤ Instant.roundUp due)
      (early : Instant.roundUp due < w.now + x.lease.ttl.nanos) :
      Ahead w t x expires (.asking due deadline)
  | answered (due deadline : Nat) (u : Underway) (underway : t.underway = some u)
      (stage : u.stage = .back (.granted true)) (pending : w.now < deadline)
      (ahead : w.now ≤ Instant.roundUp due) (early : Instant.roundUp due < expires) :
      Ahead w t x expires (.asking due deadline)

namespace Ahead

variable {stage : Renewal.Stage} {expires : Nat}

lemma live (h : w.Ahead t x expires stage) : w.now < expires := by
  cases h with
  | fresh idle early =>
    have := Instant.le_roundUp (w.now + x.interval.nanos)
    omega
  | ticking due idle ahead early => omega
  | answered due deadline u underway stage pending ahead early => omega
  | asked due deadline u underway stage request held => exact held

/-- A later end of the lease does no harm. -/
lemma mono (h : w.Ahead t x expires stage) {later : Nat} (hle : expires ≤ later)
    (hnow : w'.now = w.now) : w'.Ahead t x later stage := by
  cases h with
  | fresh idle early => exact .fresh idle (hnow ▸ Nat.lt_of_lt_of_le early hle)
  | ticking due idle ahead early =>
    exact .ticking due idle (hnow ▸ ahead) (Nat.lt_of_lt_of_le early hle)
  | asked due deadline u underway stage request held pending ahead early =>
    exact .asked due deadline u underway stage request (hnow ▸ Nat.lt_of_lt_of_le held hle)
      (hnow ▸ pending) (hnow ▸ ahead) (hnow ▸ early)
  | answered due deadline u underway stage pending ahead early =>
    exact .answered due deadline u underway stage (hnow ▸ pending) (hnow ▸ ahead)
      (Nat.lt_of_lt_of_le early hle)

/-- No refresh fails: there is no response yet and time left, or it was granted. -/
lemma pending {due deadline : Nat} (h : w.Ahead t x expires (.asking due deadline)) :
    w.now < deadline ∧ ∀ response, t.underway.bind (·.response?) = some response →
      response = .granted true ∧ w.now ≤ Instant.roundUp due ∧ Instant.roundUp due < expires := by
  cases h with
  | asked _ _ u underway stage request held pending =>
    refine ⟨pending, fun response hresponse => ?_⟩
    simp [underway, Underway.response?, stage] at hresponse
  | answered _ _ u underway stage pending ahead early =>
    refine ⟨pending, fun response hresponse => ⟨?_, ahead, early⟩⟩
    simp [underway, Underway.response?, stage] at hresponse
    exact hresponse.symm

/-- A renewal rests, waits for a tick at which the lease still lasts, or refreshes the lease for
long enough. -/
lemma took (h : w.Ahead t x expires x.stage) (hx : x.Brisk) (hstop : x.lease.stop ∉ w.fired)
    (hlimit : expires < Instant.limit) {turn : Turn Renewal Unit}
    (took : x.Took (w.glimpse t (some x.lease.stop)) turn) :
    turn = .rest ∨
      (∃ due, turn = .go { x with stage := .ticking due } ∧ w.now ≤ Instant.roundUp due ∧
        Instant.roundUp due < expires) ∨
      ∃ due, turn = x.ask w.now due ∧ w.now ≤ Instant.roundUp due ∧
        Instant.roundUp due < w.now + x.lease.ttl.nanos := by
  have unfired : (w.glimpse t (some x.lease.stop)).fired ≠ true := by
    simpa [glimpse, hasFired] using hstop
  have unfailed {due deadline : Nat} {error : LockError} (stage : x.stage = .asking due deadline) :
      ¬ (w.glimpse t (some x.lease.stop)).Fails .notHeld deadline error := by
    obtain ⟨hpending, hresponse⟩ := (stage ▸ h).pending
    intro fails
    cases fails with
    | refused response => cases (hresponse _ response).1
    | failed error response => cases (hresponse _ response).1
    | late response due => exact absurd hpending (Nat.not_lt.mpr due)
  have hpositive := hx.positive
  cases took with
  | invalid stage zero =>
    simp only [Span.isZero_iff] at zero
    omega
  | begun due stage zero after =>
    obtain ⟨-, rfl⟩ := Instant.after?_eq_some.mp after
    rw [stage] at h
    cases h with
    | fresh idle early =>
      have hle := Instant.le_roundUp (w.now + x.interval.nanos)
      exact .inr (.inl ⟨_, rfl, Nat.le_trans (Nat.le_add_right _ _) hle, early⟩)
  | overflowed stage zero after =>
    have hfull : Instant.limit ≤ w.now + x.interval.nanos := Instant.after?_eq_none.mp after
    rw [stage] at h
    cases h with
    | fresh idle early =>
      have hle := Instant.le_roundUp (w.now + x.interval.nanos)
      omega
  | ticked due stage fired hdue =>
    rw [stage] at h
    cases h with
    | ticking _ idle ahead early =>
      -- the tick is seen when it comes, so the next one is due an interval after this one was
      obtain hnow : w.now = Instant.roundUp due := Nat.le_antisymm ahead hdue
      have hnext : Renewal.nextDue x.interval due w.now = due + x.interval.nanos := by
        rw [hnow, Renewal.nextDue_of_prompt]
      refine .inr (.inr ⟨due + x.interval.nanos, by rw [← hnext]; rfl, ?_, ?_⟩)
      · rw [hnow]
        exact Instant.roundUp_mono (Nat.le_add_right _ _)
      · calc Instant.roundUp (due + x.interval.nanos)
            ≤ Instant.roundUp due + Instant.roundUp x.interval.nanos := Instant.roundUp_add_le ..
          _ = w.now + Instant.roundUp x.interval.nanos := by rw [hnow]
          _ < w.now + x.lease.ttl.nanos := Nat.add_lt_add_left hx.often _
  | repeated due stage fired =>
    rw [stage] at h
    cases h
  | granted due deadline stage response =>
    obtain ⟨-, ahead, early⟩ := (stage ▸ h).pending.2 _ response
    exact .inr (.inl ⟨due, rfl, ahead, early⟩)
  | broke due deadline text stage response =>
    cases ((stage ▸ h).pending.2 _ response).1
  | slept | waited => exact .inl rfl
  | stopped due stage fired | excused due deadline error stage fails timeout fired =>
    exact absurd fired unfired
  | late due deadline error stage fails timeout | failed due deadline error stage fails timeout =>
    exact absurd fails (unfailed stage)

end Ahead

/-- Task `j` renews a lease, whose entry is `e`, before each time that it runs out. -/
structure Sustains (w : World) (j : Nat) (lease : Lease) (e : Entry) (t : Task)
    (x : Renewal) : Prop where
  entry : w.memory.entries.find? lease.key = some e
  own : e.token = lease.token
  /-- Nobody has written more than the lease is good for. -/
  recent : e.expires ≤ w.now + lease.ttl.nanos
  task : w.tasks[j]? = some t
  running : t.ending = none
  process : t.process = .renewal x
  keeps : x.lease = lease
  brisk : x.Brisk
  ahead : w.Ahead t x e.expires x.stage

namespace Sustains

lemma holder (h : w.Sustains j lease e t x) :
    w.memory.holder w.now lease.key = some lease.token :=
  Memory.holder_eq_some.mpr ⟨e, Memory.live?_eq_some.mpr ⟨h.entry, h.ahead.live⟩, h.own⟩

lemma moved (h : w.Sustains j lease e t x) (hplans : w.Supplied Plan.Immediate)
    (hfits : w.now + lease.ttl.nanos < Instant.limit) (hm : Moved w j t w') :
    ∃ e' t', w'.Sustains j lease e' t' x := by
  have hlt := (List.getElem?_eq_some_iff.mp h.task).1
  have hahead := h.ahead
  have plain {u : Underway} (hu : t.underway = some u) : u.plan = .plain :=
    hplans.underway t (List.mem_of_getElem? h.task) u hu
  -- all that can be under way is a refresh that has come to the store
  have arrived {u : Underway} (hu : t.underway = some u) (hback : ∀ response,
      u.stage ≠ .back response) : u.request = .refresh lease.key lease.token lease.ttl ∧
        u.stage = .arrived ∧ ∃ due deadline, x.stage = .asking due deadline ∧
          w.now < deadline ∧ w.now ≤ Instant.roundUp due ∧
          Instant.roundUp due < w.now + lease.ttl.nanos := by
    generalize x.stage = stage at hahead
    cases hahead with
    | fresh idle | ticking _ idle => cases hu.symm.trans idle
    | asked due deadline v underway hstage request held pending ahead early =>
      cases hu.symm.trans underway
      rw [h.keeps] at request early
      exact ⟨request, hstage, due, deadline, rfl, pending, ahead, early⟩
    | answered due deadline v underway hstage =>
      cases hu.symm.trans underway
      exact absurd hstage (hback _)
  cases hm with
  | served u yes m underway stage deed serve =>
    obtain ⟨hrequest, -, due, deadline, hasking, pending, ahead, early⟩ :=
      arrived underway fun response hback => by cases stage.symm.trans hback
    rw [hrequest] at serve
    obtain ⟨rfl, hentry, -⟩ := serve.refresh_own h.holder
    have hback : (u.respond w.now (.granted true)).stage = .back (.granted true) := by
      unfold Underway.respond
      rw [plain underway]
      rfl
    refine ⟨⟨lease.token, w.now + lease.ttl.nanos⟩, _, hentry, rfl, Nat.le_refl _,
      List.getElem?_set_self hlt, h.running, h.process, h.keeps, h.brisk, ?_⟩
    rw [hasking]
    exact .answered due deadline _ rfl hback pending ahead early
  | overflowed u underway stage deed serve =>
    obtain ⟨hrequest, -⟩ := arrived underway fun response hback => by cases stage.symm.trans hback
    rw [hrequest] at serve
    cases serve with
    | refreshOverflow own full => exact absurd hfits (Nat.not_lt.mpr full)
  | answered u yes underway stage deed | failed u error underway stage deed
  | broke u underway stage deed =>
    rw [plain underway] at deed
    cases deed
  | arrived u due underway stage hdue =>
    obtain ⟨-, hstage, -⟩ := arrived underway fun response hback => by cases stage.symm.trans hback
    cases stage.symm.trans hstage
  | returned u due response underway stage hdue =>
    obtain ⟨-, hstage, -⟩ := arrived underway fun response hback => by cases stage.symm.trans hback
    cases stage.symm.trans hstage

lemma step (h : w.Sustains j lease e t x) (hplans : w.Supplied Plan.Immediate)
    (hstop : lease.stop ∉ w.fired) (hfits : w.now + lease.ttl.nanos < Instant.limit) :
    ∃ e' t' x', (w.act (.step j)).Sustains j lease e' t' x' := by
  have hlt := (List.getElem?_eq_some_iff.mp h.task).1
  have hlimit : e.expires < Instant.limit := Nat.lt_of_le_of_lt h.recent hfits
  have took {turn : Turn Renewal Unit}
      (htook : x.Took (w.glimpse t (some x.lease.stop)) turn) :=
    h.ahead.took h.brisk (h.keeps.symm ▸ hstop) hlimit htook
  have hrenewed := renewed_act h.task h.running h.process
  generalize w.act (.step j) = v at hrenewed ⊢
  cases hrenewed with
  | rested htook => exact ⟨e, t, x, h⟩
  | moved v hm =>
    obtain ⟨e', t', h'⟩ := h.moved hplans hfits hm
    exact ⟨e', t', x, h'⟩
  | went x' htook =>
    rcases took htook with hturn | ⟨due, hturn, ahead, early⟩ | ⟨due, hturn, -⟩
    · cases hturn
    · cases hturn
      exact ⟨e, _, _, h.entry, h.own, h.recent, List.getElem?_set_self hlt, h.running, rfl,
        h.keeps, ⟨h.brisk.positive, h.brisk.patient, h.brisk.often⟩, .ticking due rfl ahead early⟩
    · cases hturn
  | asked x' r htook =>
    rcases took htook with hturn | ⟨due, hturn, -⟩ | ⟨due, hturn, ahead, early⟩
    · cases hturn
    · cases hturn
    · cases hturn
      have hplain : w.plans.refresh.headD .plain = .plain :=
        (Plans.All.take (P := Plan.Immediate) rfl hplans.plans
          (.refresh x.lease.key x.lease.token x.lease.ttl)).1
      have hpending : w.now < Instant.timer w.now x.timeout := by
        have hpatient := h.brisk.patient
        have hle := Instant.le_roundUp (w.now + x.timeout.nanos)
        unfold Instant.timer
        omega
      refine ⟨e, _, _, h.entry, h.own, h.recent, List.getElem?_set_self hlt, h.running, rfl,
        h.keeps, ⟨h.brisk.positive, h.brisk.patient, h.brisk.often⟩,
        .asked due _ _ rfl ?_ rfl h.ahead.live hpending ahead early⟩
      rw [hplain]
      rfl
  | ended o htook =>
    rcases took htook with hturn | ⟨due, hturn, -⟩ | ⟨due, hturn, -⟩ <;> cases hturn

/-- The clock stands still while a refresh is under way, and does not pass by a tick. -/
lemma advance (h : w.Sustains j lease e t x) (hplans : w.Supplied Plan.Immediate) {d : Nat}
    (hh : w.Heeds j (.advance d)) : (w.act (.advance d)).Sustains j lease e t x := by
  obtain ⟨hstep, hwakes⟩ := hh
  have htook := took_rest h.task h.running h.process hstep
  have hahead := h.ahead
  refine ⟨h.entry, h.own, Nat.le_trans h.recent (Nat.add_le_add_right (Nat.le_add_right _ _) _),
    h.task, h.running, h.process, h.keeps, h.brisk, ?_⟩
  generalize hstage : x.stage = stage at hahead ⊢
  cases hahead with
  | fresh idle early =>
    cases htook with
    | slept due stage | waited due deadline stage => cases hstage.symm.trans stage
  | ticking due idle ahead early =>
    refine .ticking due idle (hwakes t h.task _ ?_) early
    simp [wakes, h.running, h.process, Renewal.wake?, hstage]
  | asked due deadline u underway stage request =>
    have hrests := underway_rests h.task h.running h.process hstep underway
    have hdeed : u.plan.deed = .serve := by
      rw [show u.plan = .plain from hplans.underway t (List.mem_of_getElem? h.task) u underway]
      rfl
    simp only [Underway.step, stage, hdeed] at hrests
    split at hrests <;> cases hrests
  | answered due deadline u underway stage =>
    cases htook with
    | slept due stage => cases hstage.symm.trans stage
    | waited due' deadline' stage' response =>
      simp [glimpse, underway, Underway.response?, stage] at response

/-- Whoever else refreshes the lease does no harm. -/
lemma other (h : w.Sustains j lease e t x) (hw : w.Spared lease) (ha : a.Lawful)
    (hs : a.Spares lease) (hstep : a ≠ .step j) (habort : a ≠ .abort j)
    (hadvance : ∀ d, a ≠ .advance d) : ∃ e', (w.act a).Sustains j lease e' t x := by
  have hnow := w.act_now hadvance
  have keep {e' : Entry} (hfind : (w.act a).memory.entries.find? lease.key = some e')
      (hown : e'.token = lease.token) (hle : e.expires ≤ e'.expires)
      (hrecent : e'.expires ≤ w.now + lease.ttl.nanos) : ∃ e', (w.act a).Sustains j lease e' t x :=
    ⟨e', hfind, hown, hnow ▸ hrecent, other_act h.task hstep habort, h.running, h.process, h.keeps,
      h.brisk, h.ahead.mono hle hnow⟩
  rcases hw.entry_act ha hs h.entry h.own h.ahead.live with hfind | ⟨hfind, -⟩
  · exact keep hfind h.own (Nat.le_refl _) h.recent
  · exact keep hfind rfl h.recent (Nat.le_refl _)

end Sustains

/-! ### Runs -/

/-- A run at a store that answers at once that leaves a lease, and task `j` that renews it, alone,
and does not come to the end of the clock. -/
structure Undisturbed (w : World) (j : Nat) (lease : Lease) (acts : List Act) : Prop where
  lawful : ∀ a ∈ acts, a.Lawful
  immediate : ∀ a ∈ acts, a.Supplies Plan.Immediate
  spares : ∀ a ∈ acts, a.Spares lease
  running : .abort j ∉ acts
  heeded : w.Heeded j acts
  fits : (w.run acts).now + lease.ttl.nanos < Instant.limit

lemma Undisturbed.split {first rest : List Act} (h : w.Undisturbed j lease (first ++ rest)) :
    w.Undisturbed j lease first ∧ (w.run first).Undisturbed j lease rest := by
  obtain ⟨hlawful, hlawful'⟩ := List.forall_mem_append.mp h.lawful
  obtain ⟨himmediate, himmediate'⟩ := List.forall_mem_append.mp h.immediate
  obtain ⟨hspares, hspares'⟩ := List.forall_mem_append.mp h.spares
  obtain ⟨hheeded, hheeded'⟩ := heeded_append.mp h.heeded
  have hfits := h.fits
  rw [run_append] at hfits
  have hle := (w.run first).now_le_run rest
  exact ⟨⟨hlawful, himmediate, hspares, fun ha => h.running (List.mem_append_left rest ha),
      hheeded, by omega⟩,
    ⟨hlawful', himmediate', hspares', fun ha => h.running (List.mem_append_right first ha),
      hheeded', hfits⟩⟩

/-- A world in which task `j` keeps a lease at a store that answers at once. -/
structure Sustaining (w : World) (j : Nat) (lease : Lease) : Prop where
  spared : w.Spared lease
  supplied : w.Supplied Plan.Immediate
  sustains : ∃ e t x, w.Sustains j lease e t x

namespace Sustaining

lemma act (hw : w.Sustaining j lease) (ha : a.Lawful) (hplans : a.Supplies Plan.Immediate)
    (hs : a.Spares lease) (habort : a ≠ .abort j) (hh : w.Heeds j a)
    (hfits : w.now + lease.ttl.nanos < Instant.limit) : (w.act a).Sustaining j lease := by
  obtain ⟨e, t, x, hsustains⟩ := hw.sustains
  refine ⟨hw.spared.act ha hs, hw.supplied.act rfl hplans, ?_⟩
  cases a.view j with
  | advance d => exact ⟨e, t, x, hsustains.advance hw.supplied hh⟩
  | own => exact hsustains.step hw.supplied hw.spared.unstopped hfits
  | other hstep hadvance =>
    obtain ⟨e', hsustains'⟩ := hsustains.other hw.spared ha hs hstep habort hadvance
    exact ⟨e', t, x, hsustains'⟩

lemma run (hw : w.Sustaining j lease) {acts : List Act} (hacts : w.Undisturbed j lease acts) :
    (w.run acts).Sustaining j lease := by
  induction acts generalizing w with
  | nil => exact hw
  | cons a acts ih =>
    have hmem : a ∈ a :: acts := List.mem_cons_self
    have hle := w.now_le_run (a :: acts)
    have hfits := hacts.fits
    have hw' := hw.act (hacts.lawful a hmem) (hacts.immediate a hmem) (hacts.spares a hmem)
      (fun ha => hacts.running (ha ▸ hmem)) hacts.heeded.1 (by omega)
    exact ih hw' ⟨fun b hb => hacts.lawful b (List.mem_cons_of_mem a hb),
      fun b hb => hacts.immediate b (List.mem_cons_of_mem a hb),
      fun b hb => hacts.spares b (List.mem_cons_of_mem a hb),
      fun hb => hacts.running (List.mem_cons_of_mem a hb), hacts.heeded.2, hfits⟩

lemma kept (hw : w.Sustaining j lease) : w.Kept j lease := by
  obtain ⟨e, t, x, hsustains⟩ := hw.sustains
  exact ⟨⟨t, hsustains.task, hsustains.running⟩, hsustains.holder⟩

/-- The lease is held at every point of a run, and at every instant between two points. -/
lemma held (hw : w.Sustaining j lease) {acts first rest : List Act}
    (hacts : w.Undisturbed j lease acts) (hsplit : acts = first ++ rest) :
    (w.run first).Kept j lease ∧ ∀ d more, rest = .advance d :: more → ∀ y ≤ d,
      (w.run first).memory.holder ((w.run first).now + y) lease.key = some lease.token := by
  have kept {first rest : List Act} (hsplit : acts = first ++ rest) :
      (w.run first).Kept j lease :=
    (hw.run (hsplit ▸ hacts).split.1).kept
  refine ⟨kept hsplit, ?_⟩
  rintro d more rfl y hy
  have hlater : (w.run (first ++ [.advance d])).Kept j lease :=
    kept (hsplit.trans (List.append_cons ..))
  rw [run_append] at hlater
  exact Memory.holder_of_le (Nat.add_le_add_left hy _) hlater.held

end Sustaining

end World
end LeaseLock
