import Mathlib.Tactic.Common
import LeaseLock.Proofs.World.Pace
import LeaseLock.Proofs.World.Spared

/-!
A renewal keeps its lease.

While everything keeps to the pace of the renewal, each of its steps finds the lease held and leaves
it held for long enough: `Tends` ties the renewal to the entry of its lease. Whatever else happens,
to the entry it can only be a refresh.
-/

namespace LeaseLock

namespace Underway

lemma start_stage (r : Request) (plan : Plan) (now : Nat) :
    (∃ due, (start r plan now).stage = .outward due) ∨ (start r plan now).stage = .arrived := by
  unfold start
  cases plan.before with
  | none => exact .inr rfl
  | some d => exact .inl ⟨_, rfl⟩

lemma respond_stage (u : Underway) (now : Nat) (response : Response) :
    (∃ due, (u.respond now response).stage = .homeward due response) ∨
      (u.respond now response).stage = .back response := by
  unfold respond
  cases u.plan.after with
  | none => exact .inr rfl
  | some d => exact .inl ⟨_, rfl⟩

end Underway

namespace World

variable {w w' : World} {j : Nat} {t : Task} {a : Act} {lease : Lease} {d : Nat}

/-! ### The renewal and its lease -/

/-- Task `j` renews a lease, whose entry is `e`, in time. -/
structure Tends (w : World) (j : Nat) (lease : Lease) (d : Nat) (e : Entry) (t : Task)
    (r : Renewal) : Prop where
  entry : w.memory.entries.find? lease.key = some e
  own : e.token = lease.token
  /-- Nobody has written more than the lease is good for. -/
  recent : e.expires ≤ w.now + lease.ttl.nanos
  task : w.tasks[j]? = some t
  running : t.ending = none
  process : t.process = .renewal r
  lease : r.lease = lease
  steady : r.Steady d
  inTime : w.InTime j t r d e.expires r.stage

namespace Tends

variable {e : Entry} {r : Renewal}

lemma live (h : w.Tends j lease d e t r) (hprompt : w.Prompt j d) : w.now < e.expires :=
  h.inTime.live h.task hprompt h.steady

lemma holder (h : w.Tends j lease d e t r) (hprompt : w.Prompt j d) :
    w.memory.holder w.now lease.key = some lease.token :=
  Memory.holder_eq_some.mpr ⟨e, Memory.live?_eq_some.mpr ⟨h.entry, h.live hprompt⟩, h.own⟩

/-- A change to nothing but the task. -/
lemma set (h : w.Tends j lease d e t r) {t' : Task} {r' : Renewal}
    (htasks : w'.tasks = w.tasks.set j t') (hmemory : w'.memory = w.memory)
    (hnow : w'.now = w.now) (hend : t'.ending = none) (hprocess : t'.process = .renewal r')
    (hlease : r'.lease = r.lease) (hsteady : r'.Steady d)
    (hin : w'.InTime j t' r' d e.expires r'.stage) : w'.Tends j lease d e t' r' where
  entry := hmemory ▸ h.entry
  own := h.own
  recent := hnow ▸ h.recent
  task := by rw [htasks, List.getElem?_set_self (List.getElem?_eq_some_iff.mp h.task).1]
  running := hend
  process := hprocess
  lease := hlease.trans h.lease
  steady := hsteady
  inTime := hin

/-- The refresh under way is one of this lease, and its plan is to be served. -/
lemma underway (h : w.Tends j lease d e t r) (hw : w.Spared lease) (hprompt : w.Prompt j d)
    {u : Underway} (hu : t.underway = some u) :
    (∃ time, askedAt? j w.history = some time) ∧ u.plan.deed = .serve ∧
      u.request = .refresh lease.key lease.token lease.ttl := by
  have hawaits := (hw.regular.sound.tasks j t h.task).awaits u hu
  rw [h.process] at hawaits
  obtain ⟨⟨due, deadline, hstage⟩, hrequest⟩ := hawaits
  rw [h.lease] at hrequest
  have hin := h.inTime
  rw [hstage] at hin
  cases hin with
  | unserved _ _ time _ _ _ asked | served _ _ time _ _ _ asked =>
    exact ⟨⟨time, asked⟩, (hprompt t h.task u hu time asked).2.1, hrequest⟩

end Tends

lemma Moved.tends {e : Entry} {r : Renewal} (h : Moved w j t w') (tends : w.Tends j lease d e t r)
    (hw : w.Spared lease) (hprompt : w.Prompt j d) (hprompt' : w'.Prompt j d) :
    ∃ e' t', w'.Tends j lease d e' t' r := by
  have hlt := (List.getElem?_eq_some_iff.mp tends.task).1
  have hin := tends.inTime
  have unserved {u : Underway} (hu : t.underway = some u) (hdeed : u.plan.deed ≠ .serve) : False :=
    hdeed (tends.underway hw hprompt hu).2.1
  generalize hstage : r.stage = stage at hin
  cases h with
  | arrived u arrival underway stage hdue =>
    refine ⟨e, _, tends.set rfl rfl rfl tends.running tends.process rfl tends.steady ?_⟩
    rw [hstage]
    cases hin with
    | fresh idle | ticking _ idle => cases underway.symm.trans idle
    | unserved due deadline time _ _ out asked since patient next early =>
      exact .unserved due deadline time _ rfl (.inr rfl) asked since patient next early
    | served _ _ _ u' underway' home =>
      obtain rfl := Option.some.inj (underway.symm.trans underway')
      rcases home with ⟨_, home⟩ | home <;> cases stage.symm.trans home
  | served u yes m underway stage deed serve =>
    -- the lease is still held, so the refresh is granted and the entry lasts from now on
    rw [(tends.underway hw hprompt underway).2.2] at serve
    obtain ⟨rfl, hentry, -⟩ := serve.refresh_own (tends.holder hprompt)
    refine ⟨⟨lease.token, w.now + lease.ttl.nanos⟩, _, hentry, rfl, Nat.le_refl _,
      List.getElem?_set_self hlt, tends.running, tends.process, tends.lease, tends.steady, ?_⟩
    rw [hstage]
    cases hin with
    | fresh idle | ticking _ idle => cases underway.symm.trans idle
    | unserved due deadline time _ _ out asked since patient next early =>
      refine .served due deadline time _ rfl (u.respond_stage ..) asked patient next ?_
      rw [tends.lease]
      exact Nat.add_le_add_right since _
    | served _ _ _ u' underway' home =>
      obtain rfl := Option.some.inj (underway.symm.trans underway')
      rcases home with ⟨_, home⟩ | home <;> cases stage.symm.trans home
  | overflowed u underway stage deed serve =>
    -- a store that breaks down sends no answer in time
    obtain ⟨time, asked⟩ := (tends.underway hw hprompt underway).1
    cases (hprompt' _ (List.getElem?_set_self hlt) _ rfl time asked).2.2
  | answered u yes underway stage deed | failed u e' underway stage deed
  | broke u underway stage deed =>
    exact (unserved underway (by rw [deed]; exact Deed.noConfusion)).elim
  | returned u arrival response underway stage hdue =>
    refine ⟨e, _, tends.set rfl rfl rfl tends.running tends.process rfl tends.steady ?_⟩
    rw [hstage]
    cases hin with
    | fresh idle | ticking _ idle => cases underway.symm.trans idle
    | unserved _ _ _ u' underway' out =>
      obtain rfl := Option.some.inj (underway.symm.trans underway')
      rcases out with ⟨_, out⟩ | out <;> cases stage.symm.trans out
    | served due deadline time u' underway' home asked patient next early =>
      obtain rfl := Option.some.inj (underway.symm.trans underway')
      rcases home with ⟨_, home⟩ | home <;> cases stage.symm.trans home
      exact .served due deadline time _ rfl (.inr rfl) asked patient next early

lemma Tends.goes {e : Entry} {r : Renewal} (h : w.Tends j lease d e t r)
    (hprompt : w.Prompt j d) (hwhole : 1000000 ∣ w.now) (hstop : lease.stop ∉ w.fired)
    (hlimit : e.expires < Instant.limit) {turn : Turn Process (Option Grant)}
    (turns : t.turn? w = some turn) :
    ∃ own, turn = own.map .renewal (fun _ => none) ∧ w.Goes r d e.expires own := by
  cases Task.took_of_turn? turns with
  | renewal x own process took =>
    cases h.process.symm.trans process
    exact ⟨own, rfl, h.inTime.goes h.task hprompt h.steady hwhole (h.lease ▸ hstop) hlimit took⟩
  | errand x own process | acquisition x own process => cases h.process.symm.trans process

lemma Turned.tends {e : Entry} {x : Renewal} (h : Turned w j t w') (tends : w.Tends j lease d e t x)
    (hprompt : w.Prompt j d) (hwhole : 1000000 ∣ w.now) (hstop : lease.stop ∉ w.fired)
    (hlimit : e.expires < Instant.limit) : ∃ t' x', w'.Tends j lease d e t' x' := by
  have goes {turn : Turn Process (Option Grant)} (turns : t.turn? w = some turn) :=
    tends.goes hprompt hwhole hstop hlimit turns
  cases h with
  | went p turn =>
    obtain ⟨own, hown, hgoes⟩ := goes turn
    cases hgoes with
    | ticking due early next =>
      cases hown
      exact ⟨_, _, tends.set rfl rfl rfl tends.running rfl rfl (tends.steady.stage _)
        (.ticking due rfl early next)⟩
    | rest | asking => cases hown
  | asked p r turn =>
    obtain ⟨own, hown, hgoes⟩ := goes turn
    cases hgoes with
    | asking due early next =>
      cases hown
      refine ⟨_, _, tends.set rfl rfl rfl tends.running rfl rfl (tends.steady.stage _) ?_⟩
      refine .unserved due _ w.now _ rfl ?_ ?_ (Nat.le_refl _) ?_ next early
      · exact Underway.start_stage ..
      · rw [ask_history, askedAt?_cons, Event.askedAt?, if_pos rfl]
        rfl
      · have := tends.steady.patient
        have := Instant.le_roundUp (w.now + x.timeout.nanos)
        unfold Instant.timer
        omega
    | rest | ticking => cases hown
  | fired p signal turn | leased grant turn | done turn | failed e turn | broke text turn =>
    obtain ⟨own, hown, hgoes⟩ := goes turn
    cases hgoes <;> cases hown
  | refused e process | joined c work row process | entered c work process
  | launched c number work process | cancelled c number process | told c number lease process
  | toldFailure c number e process => cases tends.process.symm.trans process

/-- A renewal that can take no step has begun, and its tick is still to come. -/
lemma took_rest {r : Renewal} (ht : w.tasks[j]? = some t) (hend : t.ending = none)
    (hp : t.process = .renewal r) (h : w.step j = none) :
    r.Took (w.glimpse t (some r.lease.stop)) .rest := by
  obtain ⟨-, hturn⟩ : w.moveRequest j t = none ∧ w.turn j t = none := by
    simpa [step, ht, hend, heedsSignalFirst, hp] using h
  have htook := r.turn_took (w.glimpse t (some r.lease.stop))
  simp only [turn, hp] at hturn
  generalize r.turn (w.glimpse t (some r.lease.stop)) = turn at htook hturn
  rcases turn with _ | _ | _ | _ | (_ | _ | _)
  · exact htook
  all_goals cases hturn

namespace Tends

variable {e : Entry} {r : Renewal}

/-- The clock does not get to the next tick without the renewal. -/
lemma advance (h : w.Tends j lease d e t r) {x : Nat} (hx : w.Punctual j (.advance x)) :
    (w.act (.advance x)).Tends j lease d e t r := by
  obtain ⟨-, hstep, hwakes⟩ := hx
  have htook := took_rest h.task h.running h.process hstep
  have hin := h.inTime
  generalize hstage : r.stage = stage at hin
  refine ⟨h.entry, h.own, Nat.le_trans h.recent (by simp only [World.act]; omega), h.task,
    h.running, h.process, h.lease, h.steady, ?_⟩
  rw [hstage]
  cases hin with
  | fresh idle early =>
    cases htook with
    | slept due stage | waited due deadline stage => cases hstage.symm.trans stage
  | ticking due idle early next =>
    have hwake : w.now + x ≤ Instant.roundUp due := by
      refine hwakes t h.task _ ?_
      simp [wakes, h.running, h.process, Renewal.wake?, hstage]
    exact .ticking due idle (by simp only [World.act]; omega) next
  | unserved due deadline time u underway out asked since patient next early =>
    exact .unserved due deadline time u underway out asked
      (Nat.le_trans since (Nat.le_add_right _ _)) patient next early
  | served due deadline time u underway home asked patient next early =>
    exact .served due deadline time u underway home asked patient next early

/-- Whoever else refreshes the lease does no harm. -/
lemma other (h : w.Tends j lease d e t r) (hw : w.Spared lease) (hprompt : w.Prompt j d)
    (ha : a.Lawful) (hs : a.Spares lease) (hstep : a ≠ .step j) (habort : a ≠ .abort j)
    (hadvance : ∀ x, a ≠ .advance x) : ∃ e', (w.act a).Tends j lease d e' t r := by
  have hnow := w.act_now hadvance
  have hasked := w.askedAt?_act hstep
  have keep {e' : Entry} (hfind : (w.act a).memory.entries.find? lease.key = some e')
      (hown : e'.token = lease.token) (hle : e.expires ≤ e'.expires)
      (hrecent : e'.expires ≤ w.now + lease.ttl.nanos) : ∃ e', (w.act a).Tends j lease d e' t r :=
    ⟨e', hfind, hown, hnow ▸ hrecent, other_act h.task hstep habort, h.running, h.process, h.lease,
      h.steady, h.inTime.mono hle hnow hasked⟩
  rcases hw.entry_act ha hs h.entry h.own (h.live hprompt) with hfind | ⟨hfind, -⟩
  · exact keep hfind h.own (Nat.le_refl _) h.recent
  · exact keep hfind rfl h.recent (Nat.le_refl _)

end Tends

/-! ### Runs -/

/-- A lease that a renewal can keep that starts now, `g` after the last write of its entry, if
its refreshes take up to `d`. -/
structure Keepable (w : World) (lease : Lease) (interval timeout : Span) (written g d : Nat) :
    Prop where
  handed : w.HandedOut lease
  entry : w.memory.entries.find? lease.key = some ⟨lease.token, written + lease.ttl.nanos⟩
  /-- Nobody is about to give it up. -/
  tasks : ∀ t ∈ w.tasks, t.process.Spares lease
  unstopped : lease.stop ∉ w.fired
  now : w.now = written + g
  whole : 1000000 ∣ w.now
  patient : d < timeout.nanos
  first : g + Instant.roundUp interval.nanos + d < lease.ttl.nanos
  later : max (Instant.roundUp interval.nanos) d + d < lease.ttl.nanos

/-- A run that leaves a lease, and task `j` that renews it, alone. -/
structure Calm (w : World) (j : Nat) (lease : Lease) (d : Nat) (acts : List Act) : Prop where
  lawful : ∀ a ∈ acts, a.Lawful
  spares : ∀ a ∈ acts, a.Spares lease
  running : .abort j ∉ acts
  timely : w.Timely j d acts

lemma Calm.split {first rest : List Act} (h : w.Calm j lease d (first ++ rest)) :
    w.Calm j lease d first ∧ (w.run first).Calm j lease d rest := by
  obtain ⟨hlawful, hlawful'⟩ := List.forall_mem_append.mp h.lawful
  obtain ⟨hspares, hspares'⟩ := List.forall_mem_append.mp h.spares
  obtain ⟨hfirst, hrest⟩ := h.timely.split
  exact ⟨⟨hlawful, hspares, fun ha => h.running (List.mem_append_left rest ha), hfirst⟩,
    ⟨hlawful', hspares', fun ha => h.running (List.mem_append_right first ha), hrest⟩⟩

/-- Task `j` is there and goes on, and the lease is held. -/
structure Kept (w : World) (j : Nat) (lease : Lease) : Prop where
  running : ∃ t, w.tasks[j]? = some t ∧ t.ending = none
  held : w.memory.holder w.now lease.key = some lease.token

/-- A world in which task `j` keeps a lease. -/
structure Renewing (w : World) (j : Nat) (lease : Lease) (d : Nat) : Prop where
  spared : w.Spared lease
  whole : 1000000 ∣ w.now
  bounded : w.memory.Bounded
  tends : ∃ e t r, w.Tends j lease d e t r

lemma bounded_act (h : w.memory.Bounded) (a : Act) : (w.act a).memory.Bounded := by
  cases w.act_effect a with
  | still memory | noted _ _ memory | asked _ _ _ _ _ _ _ memory => exact memory ▸ h
  | served i t u yes act task underway stage serve => exact serve.bounded h
  | intruded r yes act serve => exact serve.bounded h
  | expired key memory => exact memory ▸ h.expire key

namespace Renewing

lemma act (hw : w.Renewing j lease d) (ha : a.Lawful) (hs : a.Spares lease) (habort : a ≠ .abort j)
    (hpunctual : w.Punctual j a) (hprompt : w.Prompt j d) (hprompt' : (w.act a).Prompt j d) :
    (w.act a).Renewing j lease d := by
  obtain ⟨e, t, r, htends⟩ := hw.tends
  have hlimit := hw.bounded _ _ htends.entry
  have whole (hadvance : ∀ x, a ≠ .advance x) : 1000000 ∣ (w.act a).now :=
    w.act_now hadvance ▸ hw.whole
  refine ⟨hw.spared.act ha hs, ?_, bounded_act hw.bounded a, ?_⟩
  · by_cases hadvance : ∃ x, a = .advance x
    · obtain ⟨x, rfl⟩ := hadvance
      exact Nat.dvd_add hw.whole hpunctual.1
    · exact whole fun x hx => hadvance ⟨x, hx⟩
  · by_cases hadvance : ∃ x, a = .advance x
    · obtain ⟨x, rfl⟩ := hadvance
      exact ⟨e, t, r, htends.advance hpunctual⟩
    by_cases hstep : a = .step j
    · subst hstep
      rcases w.act_step j with h | ⟨t', ht', -, hm | htu⟩
      · exact ⟨e, t, r, h.symm ▸ htends⟩
      · cases htends.task.symm.trans ht'
        obtain ⟨e', t', htends'⟩ := hm.tends htends hw.spared hprompt hprompt'
        exact ⟨e', t', r, htends'⟩
      · cases htends.task.symm.trans ht'
        obtain ⟨t', r', htends'⟩ :=
          htu.tends htends hprompt hw.whole hw.spared.unstopped hlimit
        exact ⟨e, t', r', htends'⟩
    · obtain ⟨e', htends'⟩ := htends.other hw.spared hprompt ha hs hstep habort
        fun x hx => hadvance ⟨x, hx⟩
      exact ⟨e', t, r, htends'⟩

lemma run (hw : w.Renewing j lease d) {acts : List Act} (hacts : w.Calm j lease d acts) :
    (w.run acts).Renewing j lease d := by
  induction acts generalizing w with
  | nil => exact hw
  | cons a acts ih =>
    obtain ⟨hprompt, hpunctual, htimely⟩ := hacts.timely
    have hmem : a ∈ a :: acts := List.mem_cons_self
    have hw' := hw.act (hacts.lawful a hmem) (hacts.spares a hmem)
      (fun ha => hacts.running (ha ▸ hmem)) hpunctual hprompt htimely.prompt
    exact ih hw' ⟨fun b hb => hacts.lawful b (List.mem_cons_of_mem a hb),
      fun b hb => hacts.spares b (List.mem_cons_of_mem a hb),
      fun hb => hacts.running (List.mem_cons_of_mem a hb), htimely⟩

/-- Until its first tick the renewal lives on what it was started with. -/
lemma of_keepable {plans : Plans} {before : List Act} {interval timeout : Span} {written g : Nat}
    (hplans : plans.Honest) (hbefore : ∀ a ∈ before, a.Lawful)
    (h : ((start plans).run before).Keepable lease interval timeout written g d)
    (hpositive : 0 < interval.nanos) :
    (((start plans).run before).act (.spawn (.renewal (.start lease interval timeout)))).Renewing
      ((start plans).run before).tasks.length lease d := by
  have hregular : ((start plans).run before).Regular := (regular_start hplans).run hbefore
  have hacquired : ((start plans).run before).Acquired lease.toGrant :=
    ((handed_start plans).run (sound_start hplans) hbefore).ended lease h.handed
  have hbounded : ((start plans).run before).memory.Bounded :=
    run_induction (P := fun v => v.memory.Bounded) (fun _ _ hf => by cases hf)
      fun _ a _ hv => bounded_act hv a
  generalize (start plans).run before = w at *
  have hspared : w.Spared lease :=
    ⟨hregular, hacquired, fun k t ht => h.tasks t (List.mem_of_getElem? ht), h.unstopped⟩
  have hnow := h.now
  have hfirst := h.first
  refine ⟨hspared.act (a := .spawn _) trivial fun _ => rfl, h.whole, hbounded, _, _, _, h.entry,
    rfl, ?_, List.getElem?_concat_length .., rfl, rfl, rfl, ⟨hpositive, h.patient, h.later⟩,
    .fresh rfl ?_⟩
  · simp only [World.act, spawn]
    omega
  · simp only [World.act, spawn, Renewal.start]
    omega

end Renewing

/-- **A renewal keeps its lease.** Take any run in which only the store answers, and start a
renewal of a lease that was handed out in it, every `interval` and with `timeout` for each refresh,
`g` after the last write of the entry. Let its refreshes come to the store and back within
`d < timeout`, with `g + i + d < ttl` and `max i d + d < ttl` for the interval `i` in whole
milliseconds. Then at every point of every run in which nobody gives the lease up, expires its key
or aborts the renewal, and at every instant between two points, the lease holds its key; and the
renewal does not end. -/
theorem renewal_keeps_lease {plans : Plans} {before acts : List Act} {lease : Lease}
    {interval timeout : Span} {written g d : Nat} (hplans : plans.Honest)
    (hbefore : ∀ a ∈ before, a.Lawful)
    (hkeep : ((start plans).run before).Keepable lease interval timeout written g d)
    (hpositive : 0 < interval.nanos) :
    let j := ((start plans).run before).tasks.length
    let w := ((start plans).run before).act (.spawn (.renewal (.start lease interval timeout)))
    w.Calm j lease d acts → ∀ first rest, acts = first ++ rest →
      (w.run first).Kept j lease ∧ ∀ x more, rest = .advance x :: more → ∀ y ≤ x,
        (w.run first).memory.holder ((w.run first).now + y) lease.key = some lease.token := by
  intro j w hcalm first rest hsplit
  have hw : w.Renewing j lease d := .of_keepable hplans hbefore hkeep hpositive
  have kept {first rest : List Act} (hsplit : acts = first ++ rest) :
      (w.run first).Kept j lease := by
    subst hsplit
    obtain ⟨hfirst, hrest⟩ := hcalm.split
    obtain ⟨e, t, r, htends⟩ := (hw.run hfirst).tends
    exact ⟨⟨t, htends.task, htends.running⟩, htends.holder hrest.timely.prompt⟩
  refine ⟨kept hsplit, ?_⟩
  rintro x more rfl y hy
  have hlater : (w.run (first ++ [.advance x])).Kept j lease :=
    kept (hsplit.trans (List.append_cons ..))
  rw [run_append] at hlater
  exact Memory.holder_of_le (Nat.add_le_add_left hy _) hlater.held

/-- The store has the refresh late and the answer comes at the last moment; the next tick finds the
lease held although it is past the end of the acquisition. -/
theorem renewal_keeps_lease_past_its_end :
    let lease : Lease := ⟨⟨"k", .minted 1, .ofMillis 51⟩, 0⟩
    let plans : Plans := ⟨[], [⟨some (.ofMillis 12), .serve, some (.ofMillis 8)⟩], []⟩
    let before := [.spawn (.errand (.attempt "k" (.ofMillis 51))), .step 0, .step 0, .step 0]
    let acts := [.step 1, .advance 30000000, .step 1, .advance 12000000, .step 1, .step 1,
      .advance 8000000, .step 1, .step 1, .advance 9000000, .step 1]
    let w := ((start plans).run before).act
      (.spawn (.renewal (.start lease (.ofNanos 29500000) (.ofMillis 21))))
    (w.run acts).Kept 1 lease ∧ lease.ttl.nanos < (w.run acts).now := by
  intro lease plans before acts w
  have hplans : plans.Honest := by
    simp [plans, Plans.Honest, Plan.Honest]
  have hbefore : ∀ a ∈ before, a.Lawful := by
    simp [before, Act.Lawful]
  have hkeep : ((start plans).run before).Keepable lease (.ofNanos 29500000) (.ofMillis 21) 0 0
      20000000 :=
    ⟨⟨0, 0, by decide⟩, by decide, by decide, by decide, by decide, by decide, by decide, by decide,
      by decide⟩
  have hj : ((start plans).run before).tasks.length = 1 := by decide
  have hcalm : w.Calm ((start plans).run before).tasks.length lease 20000000 acts :=
    ⟨by simp [acts, Act.Lawful], by simp [acts, Act.Spares], by simp [acts], hj ▸ by decide⟩
  have h := renewal_keeps_lease hplans hbefore hkeep (by decide) hcalm acts []
    (List.append_nil acts).symm
  rw [hj] at h
  exact ⟨h.1, by decide⟩

/-- A renewal without an interval is turned away, and the lease runs out. -/
theorem no_interval_keeps_nothing :
    let lease : Lease := ⟨⟨"k", .minted 1, .ofMillis 51⟩, 0⟩
    let plans : Plans := ⟨[], [], []⟩
    let before := [.spawn (.errand (.attempt "k" (.ofMillis 51))), .step 0, .step 0, .step 0]
    let acts := [.step 1, .advance 51000000]
    let w := ((start plans).run before).act
      (.spawn (.renewal (.start lease (.ofNanos 0) (.ofMillis 21))))
    plans.Honest ∧ (∀ a ∈ before, a.Lawful) ∧
    ((start plans).run before).Keepable lease (.ofNanos 0) (.ofMillis 21) 0 0 20000000 ∧
    ((start plans).run before).tasks.length = 1 ∧ w.Calm 1 lease 20000000 acts ∧
    ¬ (w.run acts).Kept 1 lease ∧
    (w.run acts).ending? 1 = some (.failed (.invalidConfig (.interval (.ofNanos 0)))) ∧
    (w.run acts).memory.holder (w.run acts).now "k" = none := by
  intro lease plans before acts w
  have hholder : (w.run acts).memory.holder (w.run acts).now "k" = none := by decide
  refine ⟨by simp [plans, Plans.Honest], by simp [before, Act.Lawful],
    ⟨⟨0, 0, by decide⟩, by decide, by decide, by decide, by decide, by decide, by decide, by decide,
      by decide⟩, by decide,
    ⟨by simp [acts, Act.Lawful], by simp [acts, Act.Spares], by simp [acts], by decide⟩,
    fun hkept => ?_, by decide, hholder⟩
  cases hholder.symm.trans hkept.held

end World
end LeaseLock
