import Mathlib.Tactic.Common
import LeaseLock.Proofs.World.Handed
import LeaseLock.Proofs.World.Tokens

/-!
The loss of a lease is permanent.

Only a request that presents a token as a new one can make it the holder of a key that it does
not hold, and the store serves one such request for each token, the one that acquired the
lease. So a token that has lost its key never holds it again, whatever is still under way.
-/

namespace LeaseLock.World

variable {w : World} {a : Act} {grant : Grant} {i j : Nat} {r : Request}

/-- What it means for a world that a grant was lost, with the events since. -/
structure Forfeited (w : World) (grant : Grant) (news : List Event) : Prop where
  holder : w.memory.holder w.now grant.key ≠ some grant.token
  /-- The store refuses whatever the owner asks for. -/
  serve : ∀ r, r.key = grant.key → r.token = grant.token → r.presents? = none →
    (w.memory.serve w.now r).1 = some false
  refused : ∀ time i r yes, .served time i r yes ∈ news → r.key = grant.key →
    r.token = grant.token → yes = false
  /-- A call that ends with such a refusal says so, unless it was dropped or stopped. -/
  ending : ∀ time i r yes, .served time i r yes ∈ news → r.key = grant.key →
    r.token = grant.token → latest? i w.history = some (r, some yes) →
    ∀ ending, w.ending? i = some ending → ending = .failed .notHeld ∨ ending = .aborted ∨
      ending = .done ∧ ∃ t x, w.tasks[i]? = some t ∧ t.process = .renewal x ∧
        x.lease.stop ∈ w.fired

lemma Acquired.act (h : w.Acquired grant) (a : Act) : (w.act a).Acquired grant := by
  refine h.mono fun e he => ?_
  rcases w.act_history a with ha | ⟨x, ha⟩
  · rwa [ha]
  · rw [ha]
    exact List.mem_cons_of_mem x he

namespace Regular

lemma exists_minted (hw : w.Regular) (h : w.Acquired grant) : ∃ n, grant.token = .minted n := by
  obtain ⟨time, i, hm⟩ := h
  obtain ⟨n, -, hn⟩ := hw.orderly.tried grant.token ⟨time, i, _, true, hm, rfl⟩
  exact ⟨n, hn⟩

/-- A token that has acquired its key is presented as a new one no more. -/
lemma spent (hw : w.Regular) (h : w.Acquired grant) {t : Task} {u : Underway}
    (ht : w.tasks[i]? = some t) (hu : t.underway = some u) (hs : u.stage = .arrived) :
    u.request.presents? ≠ some grant.token := by
  intro hp
  obtain ⟨time, j, hm⟩ := h
  exact hw.orderly.untried i grant.token ⟨_, hw.sound.latest?_of_arrived ht hu hs, hp⟩
    ⟨time, j, _, true, hm, rfl⟩

/-- The store refuses a lost owner whose request comes to it, also one that was on its way. -/
lemma refuses (hw : w.Regular) (hl : w.Lost grant) {time : Nat} {yes : Bool}
    (h : (w.act a).history = .served time i r yes :: w.history) (hk : r.key = grant.key)
    (ht : r.token = grant.token) : r.presents? = none ∧ yes = false := by
  obtain ⟨t, u, htask, hu, hs, rfl, hserve⟩ := served_of_history h
  have hnew : u.request.presents? = none := by
    have := hw.spent hl.1 htask hu hs
    cases hr : u.request <;> simp_all [Request.presents?, Request.token]
  refine ⟨hnew, Option.some.inj (hserve.refused ?_ hnew)⟩
  rw [hk, ht]
  exact hl.2

/-- **What is lost at one moment is lost at the next.** -/
theorem lost_act (hw : w.Regular) (hl : w.Lost grant) (ha : a.Lawful) : (w.act a).Lost grant := by
  refine ⟨hl.1.act a, ?_⟩
  cases w.act_effect a with
  | still memory history now =>
    rw [memory]
    exact fun h => hl.2 (Memory.holder_of_le now h)
  | noted e quiet memory history now =>
    rw [memory, now]
    exact hl.2
  | asked i t p r act task turn memory history now =>
    rw [memory, now]
    exact hl.2
  | served i t u yes act task underway stage serve history now =>
    rw [now]
    exact serve.holder_ne hl.2 (hw.spent hl.1 task underway stage)
  | intruded r yes act serve history now =>
    subst act
    rw [now]
    refine serve.holder_ne hl.2 fun hp => ?_
    obtain ⟨n, hn⟩ := hw.exists_minted hl.1
    have htoken : r.token = grant.token := by
      cases r <;> cases hp
      rfl
    exact ha n (htoken.trans hn)
  | expired key memory history now =>
    rw [memory, now, Memory.holder_expire]
    split
    · simp
    · exact hl.2

/-- What is lost stays lost, and the store refuses its owner from then on. -/
lemma lost_run (hw : w.Regular) (hl : w.Lost grant) {acts : List Act}
    (ha : ∀ a ∈ acts, a.Lawful) :
    (w.run acts).Lost grant ∧ ∀ news, (w.run acts).history = news ++ w.history →
      ∀ time i r yes, .served time i r yes ∈ news → r.key = grant.key →
        r.token = grant.token → r.presents? = none ∧ yes = false := by
  induction acts generalizing w with
  | nil =>
    refine ⟨hl, fun news h time i r yes hm => ?_⟩
    obtain rfl : news = [] := by simpa using h
    cases hm
  | cons a acts ih =>
    have hlawful : a.Lawful := ha a List.mem_cons_self
    obtain ⟨hlost, hnews⟩ := ih (hw.act hlawful) (hw.lost_act hl hlawful)
      fun b hb => ha b (List.mem_cons_of_mem a hb)
    refine ⟨hlost, fun news h time i r yes hm hk ht => ?_⟩
    rw [run_cons] at h
    rcases w.act_history a with he | ⟨e, he⟩
    · exact hnews news (he ▸ h) time i r yes hm hk ht
    · obtain ⟨later, hlater⟩ := (w.act a).run_history acts
      have heq : news = later ++ [e] := by
        rw [hlater, he, List.append_cons] at h
        exact (List.append_cancel_right h).symm
      rw [heq, List.mem_append, List.mem_singleton] at hm
      rcases hm with hm | rfl
      · exact hnews later hlater time i r yes hm hk ht
      · exact hw.refuses hl he hk ht

/-- A lost grant is forfeited at every later moment of the run. -/
lemma forfeited_run (hw : w.Regular) (hl : w.Lost grant) {acts : List Act}
    (ha : ∀ a ∈ acts, a.Lawful) {news : List Event}
    (h : (w.run acts).history = news ++ w.history) : (w.run acts).Forfeited grant news := by
  obtain ⟨hlost, hnews⟩ := hw.lost_run hl ha
  refine ⟨hlost.2, fun r hk ht hnew => ?_, fun time i r yes hm hk ht => ?_,
    fun time i r yes hm hk ht hlatest ending he => ?_⟩
  · refine (Memory.serve_served _ _ r).refused ?_ hnew
    rw [hk, ht]
    exact hlost.2
  · exact (hnews news h time i r yes hm hk ht).2
  · obtain ⟨hnew, rfl⟩ := hnews news h time i r yes hm hk ht
    obtain ⟨t, htask, hend⟩ := Option.bind_eq_some_iff.mp he
    have hsettled := ((hw.run ha).sound.tasks i t htask).settled ending hend
    rcases hsettled.refused r hlatest hnew with hend | hend | ⟨hend, x, hx, hfired⟩
    · exact .inl hend
    · exact .inr (.inl hend)
    · exact .inr (.inr ⟨hend, t, x, htask, hx, hfired⟩)

/-- Whoever gives a key up had acquired it, and loses it by that. -/
lemma lost_of_release (hw : w.Regular) {time n : Nat} {key : String}
    (h : (w.act a).history = .served time i (.release key (.minted n)) true :: w.history) :
    ∃ ttl, (w.act a).Lost ⟨key, .minted n, ttl⟩ := by
  obtain ⟨-, -, -, -, -, -, hserve⟩ := served_of_history h
  generalize hm : (w.act a).memory = m at hserve
  cases hserve with
  | released own =>
    obtain ⟨e, he, ht⟩ := Memory.holder_eq_some.mp own
    obtain ⟨time', j, ttl, hacquired⟩ := hw.kept key e n (Memory.find?_of_live he) ht
    rw [ht] at hacquired
    refine ⟨ttl, Acquired.act ⟨time', j, hacquired⟩ a, ?_⟩
    rw [hm, Memory.holder_expire, if_pos rfl]
    simp

end Regular

/-! ### Giving up once -/

/-- Of two members of a list one comes first. -/
lemma split_two {α : Type} {x y : α} {l : List α} (hx : x ∈ l) (hy : y ∈ l) (hne : x ≠ y) :
    ∃ p q between earlier later, (p = x ∧ q = y ∨ p = y ∧ q = x) ∧
      l = later ++ p :: (between ++ q :: earlier) := by
  obtain ⟨later, rest, rfl⟩ := List.append_of_mem hx
  rcases List.mem_append.mp hy with hy | hy
  · obtain ⟨first, mid, rfl⟩ := List.append_of_mem hy
    exact ⟨y, x, mid, rest, first, .inr ⟨rfl, rfl⟩, by simp⟩
  · obtain ⟨mid, last, rfl⟩ := List.append_of_mem
      ((List.mem_cons.mp hy).resolve_left (Ne.symm hne))
    exact ⟨x, y, mid, last, later, .inl ⟨rfl, rfl⟩, by simp⟩

/-- The store grants no second release of a key by a minted token. -/
lemma no_second_release {plans : Plans} (hplans : plans.Honest) {acts : List Act}
    (ha : ∀ a ∈ acts, a.Lawful) {later between earlier : List Event} {time time' n : Nat}
    {key : String}
    (h : ((start plans).run acts).history =
      later ++ .served time i (.release key (.minted n)) true ::
        (between ++ .served time' j (.release key (.minted n)) true :: earlier)) : False := by
  obtain ⟨before, a, after, rfl, hold, hact⟩ := exists_act h (Nat.zero_le _)
  have hbefore : ∀ b ∈ before, b.Lawful := fun b hb => ha b (by simp [hb])
  obtain ⟨first, b, mid, rfl, hold', hact'⟩ := exists_act hold (Nat.zero_le _)
  have hfirst : ((start plans).run first).Regular :=
    (regular_start hplans).run fun b hb => hbefore b (by simp [hb])
  have hb : ((start plans).run first |>.act b).Regular := hfirst.act (hbefore b (by simp))
  rw [← hold'] at hact'
  obtain ⟨ttl, hlost⟩ := hfirst.lost_of_release hact'
  -- From the first release on the key is lost, and so the second one is refused.
  have hmid : ∀ c ∈ mid, c.Lawful := fun c hc => hbefore c (by simp [hc])
  have hlast := (hb.lost_run hlost hmid).1
  rw [← hold, run_append, run_cons] at hact
  have := ((hb.run hmid).refuses hlast hact rfl rfl).2
  cases this

lemma Unlocked.released {lease : Lease} (hw : w.Sound) (h : w.Unlocked i lease) :
    ∃ time, .served time i (.release lease.key lease.token) true ∈ w.history := by
  obtain ⟨t, stage, ht, hp, hend⟩ := h
  exact served_of_latest? (((hw.tasks i t ht).settled .done hend).unlocked lease stage hp rfl)

/-- **The loss of a lease is permanent.** Take any run in which only the store answers and only
tasks present minted tokens, and a lease that was handed out in it. The lease was acquired; from
the first moment at which it is lost its token never holds its key again, the store refuses
whatever is asked in its name, also what was under way at that moment, and the calls that end
with such a refusal say so; and at most one call gives the lease up with success. -/
theorem loss_is_permanent {plans : Plans} (hplans : plans.Honest) {acts : List Act}
    (hacts : ∀ a ∈ acts, a.Lawful) {lease : Lease}
    (handed : ((start plans).run acts).HandedOut lease) :
    ((start plans).run acts).Acquired lease.toGrant ∧
    (∀ before middle after, acts = before ++ middle ++ after →
      ((start plans).run before).Lost lease.toGrant →
      ∃ news, ((start plans).run (before ++ middle)).history =
          news ++ ((start plans).run before).history ∧
        ((start plans).run (before ++ middle)).Forfeited lease.toGrant news) ∧
    ∀ i j, ((start plans).run acts).Unlocked i lease →
      ((start plans).run acts).Unlocked j lease → i = j := by
  have hw : ((start plans).run acts).Regular := (regular_start hplans).run hacts
  have hacquired : ((start plans).run acts).Acquired lease.toGrant :=
    ((handed_start plans).run (sound_start hplans) hacts).ended lease handed
  refine ⟨hacquired, ?_, fun i j hi hj => ?_⟩
  · rintro before middle after rfl hlost
    have hbefore : ((start plans).run before).Regular :=
      (regular_start hplans).run fun a ha => hacts a (by simp [ha])
    obtain ⟨news, hnews⟩ := ((start plans).run before).run_history middle
    rw [run_append]
    exact ⟨news, hnews, hbefore.forfeited_run hlost (fun a ha => hacts a (by simp [ha])) hnews⟩
  · obtain ⟨n, hn⟩ := hw.exists_minted hacquired
    obtain ⟨time, hm⟩ := hi.released hw.sound
    obtain ⟨time', hm'⟩ := hj.released hw.sound
    by_contra hne
    rw [show lease.token = .minted n from hn] at hm hm'
    obtain ⟨p, q, between, earlier, later, hpq, hsplit⟩ :=
      split_two hm hm' fun heq => hne (by cases heq; rfl)
    rcases hpq with ⟨rfl, rfl⟩ | ⟨rfl, rfl⟩ <;> exact no_second_release hplans hacts hsplit

/-- A renewal under way when the lease runs out comes to the store too late, and says so. -/
theorem loss_is_permanent_under_way :
    let lease : Lease := ⟨⟨"k", .minted 1, .ofNanos 5⟩, 0⟩
    let before := [.spawn (.errand (.attempt "k" (.ofNanos 5))), .step 0, .step 0, .step 0,
      .spawn (.errand (.refresh lease)), .step 1, .advance 5]
    let middle := [.step 1, .step 1]
    let w := (start ⟨[], [], []⟩).run (before ++ middle)
    (w.Acquired lease.toGrant ∧ ∃ news,
      w.history = news ++ ((start ⟨[], [], []⟩).run before).history ∧
      w.Forfeited lease.toGrant news) ∧ w.ending? 1 = some (.failed .notHeld) := by
  intro lease before middle w
  have hplans : (⟨[], [], []⟩ : Plans).Honest := by
    rintro plan (h | h | h) <;> cases h
  have hacts : ∀ a ∈ before ++ middle, a.Lawful := by
    simp [before, middle, Act.Lawful]
  have handed : w.HandedOut lease := ⟨0, 0, by decide⟩
  obtain ⟨hacquired, hlost, -⟩ := loss_is_permanent hplans hacts handed
  refine ⟨⟨hacquired, hlost before middle [] (by simp) ⟨⟨0, 0, by decide⟩, by decide⟩⟩, by decide⟩

end LeaseLock.World
