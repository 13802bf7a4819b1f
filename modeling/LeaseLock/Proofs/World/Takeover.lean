import Mathlib.Data.List.Induction
import Mathlib.Tactic.Common
import LeaseLock.Proofs.World.Waiting

/-!
How a call that waits for a key takes it over.

Every act of a run keeps what is known of a waiting call, so that at each point of a run it is
either over, by the attempt that decides, or still on the way there; and its own steps, and time,
bring it there.
-/

namespace LeaseLock

namespace World

variable {w : World} {i : Nat} {b : Act}

section waiting

variable {work : Acquisition} {t₀ gone n last : Nat} {owner : Token} {k : Nat}
  {stage : Acquisition.Stage} {u : Option Underway}

/-- What is decided stays so. -/
lemma Decided.act {ending : Ending} (h : Decided work i t₀ gone n last w ending)
    (hquiet : ∀ e ∈ w.news [b], e.meddles work.key i = false) :
    Decided work i t₀ gone n last (w.act b) ending := by
  obtain ⟨t, ht, hend⟩ := ending?_eq_some.mp h.ended
  by_cases hstep : b = .step i
  · rwa [hstep, step_of_ended ht hend]
  have hasks := w.asksOf_act_of_ne hstep
  refine ⟨h.decides, ending?_eq_some.mpr ⟨t, w.ended_act b ht hend, hend⟩,
    mem_history_act w b h.event, hasks ▸ h.times, ?_⟩
  have hholder (t : Nat) : (w.act b).memory.holder t work.key = w.memory.holder t work.key := by
    simp only [Memory.holder, Memory.live?, find?_act hquiet hstep]
  cases h.verdict with
  | taken token stop free fits latest holds =>
    exact .taken token stop free fits (hasks ▸ latest) fun t ht => (hholder t).trans (holds t ht)
  | overflowed free full nobody =>
    exact .overflowed free full fun t ht => (hholder t).trans (nobody t ht)
  | exhausted held stop => exact .exhausted held stop
  | gaveOut held text broken => exact .gaveOut held text broken

lemma Decided.endedBy {ending : Ending} (h : Decided work i t₀ gone n last w ending) :
    w.EndedBy i last := by
  refine ⟨last, ending, h.ended, h.event, Nat.le_refl _, ?_⟩
  cases h.verdict with
  | taken | exhausted => exact .inl trivial
  | overflowed => exact .inr ⟨_, rfl⟩
  | gaveOut held text broken => exact .inr ⟨text, rfl⟩

/-! ### Whole runs -/

/-- Task `i` is over with the attempt that decides, or it is still to come. -/
def Contends (work : Acquisition) (i t₀ : Nat) (owner : Token) (gone : Nat) (w : World) : Prop :=
  (∃ n last ending, Decided work i t₀ gone n last w ending) ∨
    ∃ k stage u, Waits work i t₀ owner gone w k stage u

namespace Contends

lemma act (hwhole : 1000000 ∣ t₀) (h : Contends work i t₀ owner gone w) (habort : b ≠ .abort i)
    (hb : b.Supplies Plan.Immediate) (hf : (w.act b).hasFired work.signal = false)
    (hheeds : w.Heeds i b) (hquiet : ∀ e ∈ w.news [b], e.meddles work.key i = false) :
    Contends work i t₀ owner gone (w.act b) := by
  rcases h with ⟨n, last, ending, h⟩ | ⟨k, stage, u, h⟩
  · exact .inl ⟨n, last, ending, h.act hquiet⟩
  cases b.view i with
  | advance x => exact .inr ⟨k, stage, u, h.advance hheeds⟩
  | own =>
    rcases h.step hwhole with hrests | ⟨n, last, ending, decided⟩ | ⟨k', stage', u', waits, -⟩
    · refine .inr ⟨k, stage, u, ?_⟩
      rwa [World.act, hrests]
    · exact .inl ⟨n, last, ending, decided⟩
    · exact .inr ⟨k', stage', u', waits⟩
  | other hstep hadvance =>
    exact .inr ⟨k, stage, u, h.other hstep habort hadvance hb hf hquiet⟩

lemma run (hwhole : 1000000 ∣ t₀) (h : Contends work i t₀ owner gone w) {acts : List Act}
    (habort : .abort i ∉ acts) (hacts : ∀ a ∈ acts, a.Supplies Plan.Immediate)
    (hf : (w.run acts).hasFired work.signal = false) (hheeded : w.Heeded i acts)
    (hquiet : ∀ e ∈ w.news acts, e.meddles work.key i = false) :
    Contends work i t₀ owner gone (w.run acts) := by
  induction acts using List.reverseRecOn with
  | nil => exact h
  | append_singleton acts b ih =>
    obtain ⟨hheeded, hheeds⟩ := heeded_snoc.mp hheeded
    rw [news_snoc] at hquiet
    obtain ⟨hquiet', hquiet⟩ := List.forall_mem_append.mp hquiet
    rw [run_snoc] at hf ⊢
    have hlater := ih (fun hm => habort (List.mem_append_left _ hm))
      (fun a ha => hacts a (List.mem_append_left _ ha)) (unfired_of_act hf) hheeded hquiet
    exact hlater.act hwhole (fun hb => habort (by simp [hb])) (hacts b (by simp)) hf hheeds hquiet'

/-- The attempts that were made are those that are due, and only the last one may have come in
time. -/
lemma times (h : Contends work i t₀ owner gone w) : ∃ made,
    (asksOf i w.history).map (fun x => some x.1) = (List.range made).map (work.strategy.due t₀) ∧
    ∀ k, k + 1 < made → ∀ t, work.strategy.due t₀ k = some t → t < gone := by
  rcases h with ⟨n, last, ending, h⟩ | ⟨k, stage, u, h⟩
  · exact ⟨n + 1, h.times, fun j hj => h.decides.before j (Nat.lt_of_succ_lt_succ hj)⟩
  · cases h with
    | ready vies | resting wake vies =>
      exact ⟨k, vies.times, fun j hj => vies.before j (Nat.lt_of_succ_lt hj)⟩
    | asking token deadline stage vies =>
      exact ⟨k + 1, vies.times, fun j hj => vies.before j (Nat.lt_of_succ_lt_succ hj)⟩

lemma decided {ending : Ending} (h : Contends work i t₀ owner gone w)
    (hending : w.ending? i = some ending) : ∃ n last, Decided work i t₀ gone n last w ending := by
  rcases h with ⟨n, last, ending', h⟩ | ⟨k, stage, u, h⟩
  · cases hending.symm.trans h.ended
    exact ⟨n, last, h⟩
  · cases h with
    | ready vies | resting _ vies | asking _ _ _ vies =>
      rw [ending?, vies.task] at hending
      cases hending

end Contends

/-! ### What is still to come -/

namespace Waits

/-- The acquisition is not past an attempt that is still to come. -/
lemma now_le {last : Nat} (h : Waits work i t₀ owner gone w k stage u) (hk : k ≤ n)
    (hdue : work.strategy.due t₀ n = some last) : w.now ≤ last := by
  obtain ⟨time, htime, hle⟩ := Retry.Strategy.due_of_le hdue hk
  cases h with
  | ready vies due | asking _ _ _ vies due => exact Option.some.inj (htime.symm.trans due) ▸ hle
  | resting wake vies due early =>
    cases htime.symm.trans due
    exact Nat.le_trans early hle

/-- The attempts before attempt `k` were made. -/
lemma le_length (h : Waits work i t₀ owner gone w k stage u) :
    k ≤ (asksOf i w.history).length := by
  cases h with
  | ready vies | resting _ vies | asking _ _ _ vies =>
    have hlength := congrArg List.length vies.times
    simp only [List.length_map, List.length_range] at hlength
    omega

/-- If the acquisition can take no step, then it has time to, up to the next instant. -/
lemma heeds (h : Waits work i t₀ owner gone w k stage u) (hrests : w.step i = none) :
    w.Heeds i (.advance 1) := by
  cases h with
  | ready vies | resting _ vies | asking _ _ _ vies =>
    exact heeds_of_rest vies.task rfl rfl vies.unfired hrests

lemma upto (hd : Decides work t₀ gone n last) (h : Waits work i t₀ owner gone w k stage u) :
    k ≤ n := by
  cases h with
  | ready vies due | resting _ vies due | asking _ _ _ vies due =>
    exact hd.le_of_due vies.before due

/-- Its own steps, and time, bring about what comes with the attempt that decides, and with every
attempt from attempt `n` on. -/
lemma reaches {Q : World → Prop} (hwhole : 1000000 ∣ t₀)
    (hdue : work.strategy.due t₀ n = some last)
    (hdecided : ∀ w n' last' ending, Decided work i t₀ gone n' last' w ending → Q w)
    (hwaits : ∀ w k stage u, Waits work i t₀ owner gone w k stage u → n < k → Q w)
    (hk : k ≤ n) (h : Waits work i t₀ owner gone w k stage u) : w.Reaches i Q := by
  refine reaches_of_steps (P := fun w m => ∃ k stage u, Waits work i t₀ owner gone w k stage u ∧
    k ≤ n ∧ (work.past k 0 stage).left (n - k) u = m)
    (fun w m ⟨_, _, _, h, hk, _⟩ => h.now_le hk hdue) ?_ ⟨k, stage, u, h, hk, rfl⟩
  rintro w _ ⟨k, stage, u, h, hk, rfl⟩
  rcases h.step hwhole with hrests | ⟨n', last', ending, decided⟩ | ⟨k', stage', u', waits, less⟩
  · have hheeds := h.heeds hrests
    exact .inl ⟨hheeds, k, stage, u, h.advance hheeds, hk, rfl⟩
  · exact .inr (.inl (hdecided _ _ _ _ decided))
  · by_cases hk' : k' ≤ n
    · exact .inr (.inr ⟨_, less n hk', k', stage', u', waits, hk', rfl⟩)
    · exact .inr (.inl (hwaits _ _ _ _ waits (Nat.lt_of_not_le hk')))

end Waits

/-- Task `i` makes attempt `k` by `t`: it has once the clock has gone past that, and wherever it
stands, its own steps and time bring it there. -/
structure AttemptsBy (w : World) (i k t : Nat) : Prop where
  passed : t < w.now → k < (asksOf i w.history).length
  soon : w.Reaches i fun v => k < (asksOf i v.history).length

namespace Contends

lemma endsBy (hwhole : 1000000 ∣ t₀) (hd : Decides work t₀ gone n last)
    (h : Contends work i t₀ owner gone w) : w.EndsBy i last := by
  have hended {w : World} {n' last' : Nat} {ending : Ending}
      (h : Decided work i t₀ gone n' last' w ending) : w.EndedBy i last := by
    obtain ⟨-, rfl⟩ := hd.unique h.decides
    exact h.endedBy
  refine ⟨fun ending hending => ?_, fun hlt => ?_, ?_⟩
  · obtain ⟨n', last', h⟩ := h.decided hending
    exact hended h
  · rcases h with ⟨n', last', ending, h⟩ | ⟨k, stage, u, h⟩
    · exact hended h
    · exact absurd (h.now_le (h.upto hd) hd.due) (Nat.not_le.mpr hlt)
  · rcases h with ⟨n', last', ending, h⟩ | ⟨k, stage, u, h⟩
    · exact .here (hended h)
    · exact h.reaches hwhole hd.due (fun _ _ _ _ => hended)
        (fun _ _ _ _ waits hlt => absurd (waits.upto hd) (Nat.not_le.mpr hlt)) (h.upto hd)

/-- Every attempt that is due is made, if those before it came when the entry still lasted. -/
lemma attemptsBy {t : Nat} (hwhole : 1000000 ∣ t₀) (hdue : work.strategy.due t₀ n = some t)
    (hbefore : ∀ j < n, ∀ t, work.strategy.due t₀ j = some t → t < gone)
    (h : Contends work i t₀ owner gone w) : w.AttemptsBy i n t := by
  have hmade {w : World} {n' last' : Nat} {ending : Ending}
      (h : Decided work i t₀ gone n' last' w ending) : n < (asksOf i w.history).length := by
    have hlength := congrArg List.length h.times
    simp only [List.length_map, List.length_range] at hlength
    exact hlength ▸ Nat.lt_succ_of_le (h.decides.le_of_due hbefore hdue)
  rcases h with ⟨n', last', ending, h⟩ | ⟨k, stage, u, h⟩
  · exact ⟨fun _ => hmade h, .here (hmade h)⟩
  · by_cases hk : k ≤ n
    · exact ⟨fun hlt => absurd (h.now_le hk hdue) (Nat.not_le.mpr hlt),
        h.reaches hwhole hdue (fun _ _ _ _ => hmade)
          (fun _ _ _ _ waits hlt => Nat.lt_of_lt_of_le hlt waits.le_length) hk⟩
    · have hlt := Nat.lt_of_lt_of_le (Nat.lt_of_not_le hk) h.le_length
      exact ⟨fun _ => hlt, .here hlt⟩

end Contends

end waiting

/-- **A call that waits for a key takes it over as soon as an attempt can.** Somebody else's entry
lasts until `gone`, nobody else has to do with the key, and the store answers at once. Start an
acquisition at a whole millisecond, with any strategy and a signal that does not fire, and let the
run go on in any way in which the call is neither aborted nor kept waiting. Then its attempts are
made when they are due, each after the first following one that came when the entry still lasted,
and every attempt is made that is due like that. The call ends only with an attempt that decides,
the first one that is due when the entry is over or that no other follows, and if there is such an
attempt then the call ends at the instant when that is due, as the `Verdict` says: with the key in
the hands of its token, unless the store would have to name an instant that no clock can, or with
an error, if the strategy gives up first. -/
theorem waiting_lock_takes_over (plans : Plans) (before acts : List Act) (key : String)
    (ttl timeout : Span) (strategy : Retry.Strategy) (signal : Option Signal) (owner : Token)
    (gone : Nat) :
    let work : Acquisition := .start key ttl timeout strategy signal
    let i := ((start plans).run before).tasks.length
    let w := ((start plans).run before).act (.spawn (.acquisition work))
    let v := w.run acts
    plans.All Plan.Immediate → (∀ a ∈ before ++ acts, a.Supplies Plan.Immediate) →
    1000000 ∣ w.now → w.memory.entries.find? key = some ⟨owner, gone⟩ →
    (∀ m, w.minted < m → owner ≠ .minted m) → (∀ e ∈ w.news acts, e.meddles key i = false) →
    v.hasFired signal = false → .abort i ∉ acts → w.Heeded i acts →
    (∃ made, (asksOf i v.history).map (fun x => some x.1) =
        (List.range made).map (strategy.due w.now) ∧
      ∀ k, k + 1 < made → ∀ t, strategy.due w.now k = some t → t < gone) ∧
    (∀ k t, strategy.due w.now k = some t →
      (∀ j < k, ∀ t, strategy.due w.now j = some t → t < gone) → v.AttemptsBy i k t) ∧
    (∀ ending, v.ending? i = some ending → ∃ n last, Decides work w.now gone n last) ∧
    ∀ n last, Decides work w.now gone n last → v.EndsBy i last ∧
      ∀ ending, v.ending? i = some ending → Decided work i w.now gone n last v ending := by
  intro work i w v hplans hacts hwhole hentry hforeign hquiet hfired habort hheeded
  obtain ⟨hbefore, hacts⟩ := List.forall_mem_append.mp hacts
  have hsupplied : w.Supplied Plan.Immediate :=
    ((supplied_start hplans).run (P := Plan.Immediate) rfl hbefore).act (P := Plan.Immediate) rfl
      trivial
  have hnothing : asksOf i w.history = [] := by
    refine List.map_eq_nil_iff.mp ((requestsOf_eq_asksOf i w.history).symm.trans ?_)
    exact (asked_run plans before).beyond (Nat.le_refl _)
  have hunfired : w.hasFired signal = false :=
    Bool.eq_false_iff.mpr fun h => Bool.noConfusion (hfired.symm.trans (hasFired_run h))
  have hvies : Vies work i w.now owner gone w 0 0 .ready none :=
    ⟨List.getElem?_concat_length .., by rw [hnothing]; rfl,
      fun _ hj => absurd hj (Nat.not_lt_zero _), hunfired, hforeign, hsupplied⟩
  have hcontends : Contends work i w.now owner gone v :=
    Contends.run hwhole (.inr ⟨0, .ready, none, .ready hvies rfl hentry⟩) habort hacts hfired
      hheeded hquiet
  refine ⟨hcontends.times, fun k t hdue hbefore => hcontends.attemptsBy hwhole hdue hbefore,
    fun ending hending => ?_, fun n last hd =>
      ⟨hcontends.endsBy hwhole hd, fun ending hending => ?_⟩⟩
  · obtain ⟨n, last, h⟩ := hcontends.decided hending
    exact ⟨n, last, h.decides⟩
  · obtain ⟨n', last', h⟩ := hcontends.decided hending
    obtain ⟨rfl, rfl⟩ := hd.unique h.decides
    exact h

/-- The entry lasts for 20 ms, and the attempts are due after 0, 10 and 25 ms. -/
theorem waiting_lock_takes_over_late :
    let owner : Token := .named "x"
    let work : Acquisition := .start "k" (.ofSecs 9) (.ofSecs 1)
      (.ofList [.ofMillis 10, .ofMillis 15, .ofMillis 5] .stop) none
    let w := ((start ⟨[], [], []⟩).run [.intrude (.acquire "k" owner (.ofMillis 20))]).act
      (.spawn (.acquisition work))
    let attempt : List Act := [.step 0, .step 0, .step 0]
    let v := w.run (attempt ++ [.advance 10000000, .step 0] ++ attempt ++
      [.advance 15000000, .step 0] ++ attempt)
    let ending : Ending := .leased ⟨⟨"k", .minted 3, .ofSecs 9⟩, 0⟩
    v.EndsBy 0 25000000 ∧ v.ending? 0 = some ending ∧
      Decided work 0 w.now 20000000 2 25000000 v ending := by
  intro owner work w attempt v ending
  have hending : v.ending? 0 = some ending := by decide
  obtain ⟨-, -, -, hdecides⟩ := waiting_lock_takes_over ⟨[], [], []⟩
    [.intrude (.acquire "k" owner (.ofMillis 20))] (attempt ++ [.advance 10000000, .step 0] ++
      attempt ++ [.advance 15000000, .step 0] ++ attempt) "k" (.ofSecs 9) (.ofSecs 1)
    (.ofList [.ofMillis 10, .ofMillis 15, .ofMillis 5] .stop) none owner 20000000
    (by simp [Plans.All]) (by simp [attempt, Act.Supplies]) (by decide) (by decide)
    (fun _ _ => Token.noConfusion) (by decide) (by decide) (by simp [attempt, start]) (by decide)
  obtain ⟨hends, hdecided⟩ := hdecides 2 25000000 ⟨by decide, by
    intro k hk t ht
    obtain rfl | rfl : k = 0 ∨ k = 1 := by omega
    all_goals
      obtain rfl := Option.some.inj ht
      decide, .inl (by decide)⟩
  exact ⟨hends, hending, hdecided ending hending⟩

/-- The longest lifetime there is has no end that a clock can name: the attempt that finds the key
free breaks down, and nobody holds the key. -/
theorem waiting_lock_overflows :
    let work : Acquisition := .start "k" .longest (.ofSecs 1)
      (.ofList [.ofMillis 10, .ofMillis 10] .stop) none
    let w := ((start ⟨[], [], []⟩).run [.intrude (.acquire "k" (.named "x") (.ofMillis 20))]).act
      (.spawn (.acquisition work))
    let attempt : List Act := [.step 0, .step 0, .step 0]
    let acts := attempt ++ [.advance 10000000, .step 0] ++ attempt ++
      [.advance 10000000, .step 0] ++ attempt
    let v := w.run acts
    w.now = 0 ∧ w.memory.entries.find? "k" = some ⟨.named "x", 20000000⟩ ∧
      (∀ e ∈ w.news acts, e.meddles "k" 0 = false) ∧ w.Heeded 0 acts ∧
      (asksOf 0 v.history).map (·.1) = [0, 10000000, 20000000] ∧
      v.ending? 0 = some (.broken Instant.overflowText) ∧ 0 < work.ttl.nanos ∧
      v.memory.holder v.now "k" = none := by
  decide

end World
end LeaseLock
