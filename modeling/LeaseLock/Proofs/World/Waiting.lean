import Mathlib.Tactic.Common
import LeaseLock.Proofs.World.Ledger
import LeaseLock.Proofs.World.Punctual

/-!
A call that waits for a key which somebody else has and does not give up.

The call makes each attempt when it is due; the store refuses it for as long as the entry lasts,
and grants it from then on. One attempt `Decides` how the call ends: the first one that is due when
the entry is over, or that no other follows. `Waits` says where the call stands before that, and
`Decided` how it ends. Each step of the call takes it on to the one or to the other, time takes it
on only while it waits for the next attempt, and nothing else touches it.
-/

namespace LeaseLock

/-! ### The pieces of a call -/

/-- The acquisition after its strategy was asked `k` times and `made` attempts were begun. -/
def Acquisition.past (work : Acquisition) (k made : Nat) (stage : Acquisition.Stage) :
    Acquisition :=
  work.midway (work.strategy.after k) (Retry.tally made) stage

/-- The request of an attempt to a store that answers at once. -/
def Acquisition.sent (work : Acquisition) (token : Token) (stage : Underway.Stage) : Underway :=
  ⟨.acquire work.key token work.ttl, .plain, stage⟩

/-- A task that tries for a key on nobody's behalf. -/
def Task.trying (a : Acquisition) (u : Option Underway) : Task := ⟨.acquisition a, u, none, none⟩

/-! ### A key that nobody else touches -/

/-- Whether by the event somebody else than task `i` has had to do with a key. -/
def Event.meddles (key : String) (i : Nat) : Event → Bool
  | .served _ j r _ => j ≠ i ∧ r.key = key
  | .intruded _ r _ => r.key = key
  | .expired _ k => k = key
  | .asked .. | .fired .. | .ended .. => false

namespace World

variable {w w' : World} {i : Nat} {b : Act} {key : String}

/-- If nobody else has to do with a key, its entry stays as it is. -/
lemma find?_act (hquiet : ∀ e ∈ w.news [b], e.meddles key i = false) (hb : b ≠ .step i) :
    (w.act b).memory.entries.find? key = w.memory.entries.find? key := by
  cases w.act_effect b with
  | still memory | noted _ _ memory | asked _ _ _ _ _ _ _ memory => rw [memory]
  | served j x u yes act task underway stage serve history =>
    have hji : j ≠ i := fun hj => hb (hj ▸ act)
    have hkey := hquiet _ (mem_news history)
    simp only [Event.meddles, hji, ne_eq, not_false_eq_true, true_and,
      decide_eq_false_iff_not] at hkey
    exact serve.find?_of_ne hkey
  | intruded r yes act serve history =>
    have hkey := hquiet _ (mem_news history)
    exact serve.find?_of_ne (by simpa [Event.meddles] using hkey)
  | expired k memory history =>
    have hkey := hquiet _ (mem_news history)
    rw [memory, Memory.find?_expire, if_neg]
    simpa [Event.meddles, eq_comm] using hkey

/-! ### The attempt that decides -/

section waiting

variable (work : Acquisition) (i t₀ : Nat) (owner : Token) (gone : Nat)

/-- Whether attempt `n`, due at `last`, decides how an acquisition that begins at `t₀` ends: the
attempts before it are due when the entry of the owner lasts, and it is due later, or followed by no
other. -/
structure Decides (n last : Nat) : Prop where
  due : work.strategy.due t₀ n = some last
  before : ∀ k < n, ∀ t, work.strategy.due t₀ k = some t → t < gone
  settles : gone ≤ last ∨ ∀ d, (work.strategy.after n).next.1 ≠ .wait d

/-- How the acquisition ends with the attempt that decides. -/
inductive Verdict (n last : Nat) (w : World) : Ending → Prop
  /-- The attempt gets the key, and its token holds it for as long as that was asked for. -/
  | taken (token : Token) (stop : Signal) (free : gone ≤ last)
      (fits : last + work.ttl.nanos < Instant.limit)
      (latest : (asksOf i w.history).getLast? = some (last, .acquire work.key token work.ttl))
      (holds : ∀ t < last + work.ttl.nanos, w.memory.holder t work.key = some token) :
      Verdict n last w (.leased ⟨⟨work.key, token, work.ttl⟩, stop⟩)
  /-- The key is free, and stays so: the store would have to name an instant that no clock can. -/
  | overflowed (free : gone ≤ last) (full : Instant.limit ≤ last + work.ttl.nanos)
      (nobody : ∀ t, last ≤ t → w.memory.holder t work.key = none) :
      Verdict n last w (.broken Instant.overflowText)
  | exhausted (held : last < gone) (stop : (work.strategy.after n).next.1 = .stop) :
      Verdict n last w
        (.failed (.retriesExhausted (min (n + 1) 4294967295) (.acquireFailed work.key)))
  /-- The strategy breaks down. -/
  | gaveOut (held : last < gone) (text : String)
      (broken : (work.strategy.after n).next.1 = .broken text) : Verdict n last w (.broken text)

/-- Whether the acquisition has ended with the attempt that decides, when that was due. -/
structure Decided (n last : Nat) (w : World) (ending : Ending) : Prop where
  decides : Decides work t₀ gone n last
  ended : w.ending? i = some ending
  event : .ended last i ending ∈ w.history
  times : (asksOf i w.history).map (fun x => some x.1) =
    (List.range (n + 1)).map (work.strategy.due t₀)
  verdict : Verdict work i gone n last w ending

/-! ### A call that waits for a key -/

/-- Task `i` runs the acquisition and has made `made` attempts, each when it was due; the strategy
was asked `k` times, after attempts that came too early. -/
structure Vies (w : World) (k made : Nat) (stage : Acquisition.Stage) (u : Option Underway) :
    Prop where
  task : w.tasks[i]? = some (.trying (work.past k made stage) u)
  times : (asksOf i w.history).map (fun x => some x.1) =
    (List.range made).map (work.strategy.due t₀)
  before : ∀ j < k, ∀ t, work.strategy.due t₀ j = some t → t < gone
  unfired : w.hasFired work.signal = false
  foreign : ∀ n, w.minted < n → owner ≠ .minted n
  supplied : w.Supplied Plan.Immediate

/-- Where an attempt stands that the store answers at once. -/
inductive Answering (w : World) (token : Token) : Underway.Stage → Prop
  | arrived (other : owner ≠ token)
      (entry : w.memory.entries.find? work.key = some ⟨owner, gone⟩) : Answering w token .arrived
  | refused (held : w.now < gone)
      (entry : w.memory.entries.find? work.key = some ⟨owner, gone⟩) :
      Answering w token (.back (.granted false))
  | granted (free : gone ≤ w.now) (fits : w.now + work.ttl.nanos < Instant.limit)
      (entry : w.memory.entries.find? work.key = some ⟨token, w.now + work.ttl.nanos⟩) :
      Answering w token (.back (.granted true))
  | overflowed (free : gone ≤ w.now) (full : Instant.limit ≤ w.now + work.ttl.nanos)
      (entry : w.memory.entries.find? work.key = some ⟨owner, gone⟩) :
      Answering w token (.back (.broken Instant.overflowText))

/-- Where the acquisition stands before the attempt that decides is over; the next attempt to begin,
or the one that goes on, is attempt `k`. -/
inductive Waits (w : World) (k : Nat) : Acquisition.Stage → Option Underway → Prop
  | ready (vies : Vies work i t₀ owner gone w k k .ready none)
      (due : work.strategy.due t₀ k = some w.now)
      (entry : w.memory.entries.find? work.key = some ⟨owner, gone⟩) : Waits w k .ready none
  | resting (wake : Nat) (vies : Vies work i t₀ owner gone w k k (.resting wake) none)
      (due : work.strategy.due t₀ k = some wake) (early : w.now ≤ wake)
      (entry : w.memory.entries.find? work.key = some ⟨owner, gone⟩) :
      Waits w k (.resting wake) none
  | asking (token : Token) (deadline : Nat) (stage : Underway.Stage)
      (vies : Vies work i t₀ owner gone w k (k + 1) (.asking token deadline)
        (some (work.sent token stage)))
      (due : work.strategy.due t₀ k = some w.now)
      (latest : (asksOf i w.history).getLast? = some (w.now, .acquire work.key token work.ttl))
      (answering : Answering work owner gone w token stage) :
      Waits w k (.asking token deadline) (some (work.sent token stage))

/-- What a step of the acquisition leads to: its end, or a place with fewer steps before it, however
many more waits there are. -/
inductive Proceeds (w : World) (k : Nat) (stage : Acquisition.Stage) (u : Option Underway) : Prop
  | decided (n last : Nat) (ending : Ending) (decided : Decided work i t₀ gone n last w ending)
  | waits (k' : Nat) (stage' : Acquisition.Stage) (u' : Option Underway)
      (waits : Waits work i t₀ owner gone w k' stage' u')
      (less : ∀ n, k' ≤ n → (work.past k' 0 stage').left (n - k') u' <
        (work.past k 0 stage).left (n - k) u)

end waiting

section waiting

variable {work : Acquisition} {i t₀ gone n n' last last' k made : Nat} {owner : Token}
  {stage : Acquisition.Stage} {u : Option Underway} {token : Token} {deadline : Nat}

namespace Decides

variable (hd : Decides work t₀ gone n last)

include hd

/-- No attempt is due after the one that decides. -/
lemma le_of_due {time : Nat} (hbefore : ∀ j < k, ∀ t, work.strategy.due t₀ j = some t → t < gone)
    (hdue : work.strategy.due t₀ k = some time) : k ≤ n := by
  by_contra hlt
  have hlt : n < k := Nat.lt_of_not_le hlt
  obtain ⟨later, hlater, -⟩ := Retry.Strategy.due_of_le hdue hlt
  obtain ⟨d, -, hwait, -⟩ := Retry.Strategy.of_due_succ hlater
  rcases hd.settles with hle | hnone
  · exact absurd (hbefore n hlt last hd.due) (Nat.not_lt.mpr hle)
  · exact hnone d hwait

/-- Only one attempt decides. -/
lemma unique (hd' : Decides work t₀ gone n' last') : n' = n ∧ last' = last := by
  obtain rfl := Nat.le_antisymm (hd.le_of_due hd'.before hd'.due)
    (hd'.le_of_due hd.before hd.due)
  exact ⟨rfl, Option.some.inj (hd'.due.symm.trans hd.due)⟩

end Decides

namespace Vies

variable (h : Vies work i t₀ owner gone w k made stage u)

include h

lemma lt : i < w.tasks.length := (List.getElem?_eq_some_iff.mp h.task).1

/-- The acquisition after an act. -/
lemma act (hb : b.Supplies Plan.Immediate) (hf : (w.act b).hasFired work.signal = false)
    {k' made' : Nat} {stage' : Acquisition.Stage} {u' : Option Underway}
    (task : (w.act b).tasks[i]? = some (.trying (work.past k' made' stage') u'))
    (times : (asksOf i (w.act b).history).map (fun x => some x.1) =
      (List.range made').map (work.strategy.due t₀))
    (before : ∀ j < k', ∀ t, work.strategy.due t₀ j = some t → t < gone) :
    Vies work i t₀ owner gone (w.act b) k' made' stage' u' :=
  ⟨task, times, before, hf,
    fun n hn => h.foreign n (Nat.lt_of_le_of_lt (w.minted_le_act b) hn),
    h.supplied.act (P := Plan.Immediate) rfl hb⟩

/-- No step of the acquisition fires its signal. -/
lemma unfired_step : (w.act (.step i)).hasFired work.signal = false := by
  have hfired : (w.act (.step i)).fired = w.fired := fired_step h.task rfl
  rw [← h.unfired]
  cases work.signal <;> simp [hasFired, hfired]

/-- The acquisition after a step of its own, which puts nothing to the store. -/
lemma step {k' : Nat} {stage' : Acquisition.Stage} {u' : Option Underway}
    (tasks : (w.act (.step i)).tasks = w.tasks.set i (.trying (work.past k' made stage') u'))
    (asks : asksOf i (w.act (.step i)).history = asksOf i w.history)
    (before : ∀ j < k', ∀ t, work.strategy.due t₀ j = some t → t < gone) :
    Vies work i t₀ owner gone (w.act (.step i)) k' made stage' u' := by
  refine h.act (b := .step i) trivial h.unfired_step ?_ (asks ▸ h.times) before
  rw [tasks, List.getElem?_set_self h.lt]

lemma running : (Task.trying (work.past k made stage) u).ending.isSome = false ∧
    w.heedsSignalFirst (.trying (work.past k made stage) u) = false := ⟨rfl, h.unfired⟩

/-- Its request moves on, if it can. -/
lemma act_move (hmove : w.moveRequest i (.trying (work.past k made stage) u) = some w') :
    w.act (.step i) = w' := by
  simp [World.act, World.step, h.task, h.running, hmove]

/-- What it does at its turn. -/
lemma act_turn (settled : w.moveRequest i (.trying (work.past k made stage) u) = none) :
    w.act (.step i) = (w.perform i (.trying (work.past k made stage) u) .acquisition some
      ((work.past k made stage).turn
        ⟨w.now, false, u.bind (·.response?), .minted (w.minted + 1)⟩)).getD w := by
  have hglimpse : w.glimpse (.trying (work.past k made stage) u) (work.past k made stage).signal =
      ⟨w.now, false, u.bind (·.response?), .minted (w.minted + 1)⟩ :=
    congrArg (Glimpse.mk w.now · _ _) h.unfired
  have hturn : w.turn i (.trying (work.past k made stage) u) =
      w.perform i (.trying (work.past k made stage) u) .acquisition some
        ((work.past k made stage).turn
          ⟨w.now, false, u.bind (·.response?), .minted (w.minted + 1)⟩) :=
    congrArg (fun g => w.perform i _ .acquisition some (Acquisition.turn _ g)) hglimpse
  simp [World.act, World.step, h.task, h.running, settled, hturn]

end Vies

/-- A step that ends the acquisition with its last attempt. -/
lemma decided_of_finish (h : Vies work i t₀ owner gone w n (n + 1) stage u)
    (hd : Decides work t₀ gone n w.now) {signals : Nat} {ending : Ending}
    (hact : w.act (.step i) = { w with signals }.finish i
      (.trying (work.past n (n + 1) stage) u) ending)
    (verdict : (w.act (.step i)).memory = w.memory →
      asksOf i (w.act (.step i)).history = asksOf i w.history →
      Verdict work i gone n w.now (w.act (.step i)) ending) :
    Decided work i t₀ gone n w.now (w.act (.step i)) ending := by
  have hhistory : (w.act (.step i)).history = .ended w.now i ending :: w.history :=
    hact ▸ finish_history { w with signals } i _ ending
  have hmemory : (w.act (.step i)).memory = w.memory :=
    hact ▸ finish_memory { w with signals } i _ ending
  have hasks : asksOf i (w.act (.step i)).history = asksOf i w.history := asksOf_other rfl hhistory
  refine ⟨hd, ?_, ?_, hasks ▸ h.times, verdict hmemory hasks⟩
  · rw [ending?, hact, finish_tasks]
    exact congrArg (Option.bind · _) (List.getElem?_set_self h.lt)
  · rw [hhistory]
    exact List.mem_cons_self

/-- The next attempt begins, under a token that nobody has. -/
lemma proceeds_of_ready (h : Vies work i t₀ owner gone w k k .ready none)
    (due : work.strategy.due t₀ k = some w.now)
    (entry : w.memory.entries.find? work.key = some ⟨owner, gone⟩) :
    Proceeds work i t₀ owner gone (w.act (.step i)) k .ready none := by
  let token : Token := .minted (w.minted + 1)
  let deadline := Instant.timer w.now work.timeout
  let r : Request := .acquire work.key token work.ttl
  have hact : w.act (.step i) =
      w.ask i (.trying (work.past k (k + 1) (.asking token deadline)) none) r := h.act_turn rfl
  have hplan : w.plans.acquire.headD .plain = .plain :=
    (h.supplied.plans.take (P := Plan.Immediate) rfl r).1
  have htask : (w.act (.step i)).tasks[i]? = some (.trying
      (work.past k (k + 1) (.asking token deadline)) (some (work.sent token .arrived))) := by
    rw [hact]
    refine (List.getElem?_set_self h.lt).trans ?_
    rw [hplan]
    rfl
  have hasks : asksOf i (w.act (.step i)).history = asksOf i w.history ++ [(w.now, r)] := by
    rw [hact, ask_history, asksOf_cons]
    simp [Event.asks?]
  have hnow : (w.act (.step i)).now = w.now := w.act_now fun _ => Act.noConfusion
  have htimes : (asksOf i (w.act (.step i)).history).map (fun x => some x.1) =
      (List.range (k + 1)).map (work.strategy.due t₀) := by
    rw [hasks, List.map_append, h.times, List.range_succ, List.map_append]
    simp [due]
  refine .waits k _ _ (.asking token deadline .arrived
    (h.act (b := .step i) trivial h.unfired_step htask htimes h.before) (hnow ▸ due) ?_
    (.arrived (h.foreign _ (Nat.lt_succ_self _)) ?_)) fun n _ => Acquisition.left_ask rfl _ _
  · rw [hasks, List.getLast?_concat, hnow]
  · rw [hact]
    exact entry

/-- The wait for the next attempt is over. -/
lemma proceeds_of_resting {wake : Nat} (h : Vies work i t₀ owner gone w k k (.resting wake) none)
    (due : work.strategy.due t₀ k = some wake) (early : w.now ≤ wake)
    (entry : w.memory.entries.find? work.key = some ⟨owner, gone⟩) : w.step i = none ∨
    Proceeds work i t₀ owner gone (w.act (.step i)) k (.resting wake) none := by
  by_cases hdue : wake ≤ w.now
  · right
    obtain rfl := Nat.le_antisymm hdue early
    have hact : w.act (.step i) = w.setTask i (.trying (work.past k k .ready) none) := by
      rw [h.act_turn rfl]
      simp [Acquisition.turn, Acquisition.past, Acquisition.midway, perform, Task.trying]
    refine .waits k _ _ (.ready (h.step ?_ ?_ h.before) ?_ ?_) fun n _ => Acquisition.left_wake rfl
    · rw [hact]
      rfl
    · rw [hact]
      rfl
    · rw [hact]
      exact due
    · rw [hact]
      exact entry
  · left
    exact step_of_rested h.task rfl rfl h.unfired rfl
      (.slept wake h.unfired rfl (Nat.lt_of_not_le hdue))

/-- The store serves the request. -/
lemma proceeds_of_arrived (h : Vies work i t₀ owner gone w k (k + 1) (.asking token deadline)
      (some (work.sent token .arrived)))
    (due : work.strategy.due t₀ k = some w.now)
    (latest : (asksOf i w.history).getLast? = some (w.now, .acquire work.key token work.ttl))
    (other : owner ≠ token) (entry : w.memory.entries.find? work.key = some ⟨owner, gone⟩) :
    Proceeds work i t₀ owner gone (w.act (.step i)) k (.asking token deadline)
      (some (work.sent token .arrived)) := by
  have hholder : w.memory.holder w.now work.key = if w.now < gone then some owner else none :=
    Memory.holder_of_find? entry w.now
  have hfree (free : ∀ o, w.memory.holder w.now work.key = some o → o = token) :
      gone ≤ w.now := by
    by_contra hlt
    rw [if_pos (Nat.lt_of_not_le hlt)] at hholder
    exact other (free owner hholder)
  have hheld {o : Token} (held : w.memory.holder w.now work.key = some o) : w.now < gone := by
    by_contra hle
    rw [if_neg hle] at hholder
    cases hholder.symm.trans held
  obtain ⟨v, hmove⟩ : ∃ v, w.moveRequest i (.trying (work.past k (k + 1) (.asking token deadline))
      (some (work.sent token .arrived))) = some v :=
    Option.ne_none_iff_exists'.mp fun settled =>
      absurd (Underway.hangs_of_rest rfl (rests_of_settled settled rfl)) Deed.noConfusion
  have hact : w.act (.step i) = v := h.act_move hmove
  -- whatever the store answers, the request is on its way back
  have back (response : Response)
      (tasks : v.tasks = w.tasks.set i (.trying (work.past k (k + 1) (.asking token deadline))
        (some (work.sent token (.back response))))) (hnow : v.now = w.now)
      (asks : asksOf i v.history = asksOf i w.history)
      (answering : Answering work owner gone v token (.back response)) :
      Proceeds work i t₀ owner gone (w.act (.step i)) k (.asking token deadline)
        (some (work.sent token .arrived)) := by
    rw [← hact] at tasks hnow asks answering
    refine .waits k _ _ (.asking token deadline _ (h.step tasks asks h.before) (hnow ▸ due)
      (by rw [asks, hnow, latest]) answering) fun n _ => ?_
    simp [Acquisition.left, Acquisition.past, Acquisition.midway, Acquisition.sent,
      Underway.Stage.left]
  cases moved_of_moveRequest hmove with
  | served u yes m underway stage deed serve =>
    cases underway
    cases serve with
    | acquired free fits =>
      exact back (.granted true) rfl rfl (asksOf_other rfl rfl) (.granted (hfree free) fits
        ((Table.find?_put ..).trans (if_pos rfl)))
    | taken held =>
      exact back (.granted false) rfl rfl (asksOf_other rfl rfl) (.refused (hheld held) entry)
  | overflowed u underway stage deed serve =>
    cases underway
    cases serve with
    | acquireOverflow free full =>
      exact back (.broken Instant.overflowText) rfl rfl rfl (.overflowed (hfree free) full entry)
  | arrived u due underway stage | returned u due response underway stage =>
    cases underway
    cases stage
  | answered u yes underway stage deed | failed u e underway stage deed
  | broke u underway stage deed =>
    cases underway
    cases deed

/-- A refused attempt is followed by a wait, or is the last. -/
lemma proceeds_of_refused (hwhole : 1000000 ∣ t₀)
    (h : Vies work i t₀ owner gone w k (k + 1) (.asking token deadline)
      (some (work.sent token (.back (.granted false)))))
    (due : work.strategy.due t₀ k = some w.now) (held : w.now < gone)
    (entry : w.memory.entries.find? work.key = some ⟨owner, gone⟩) :
    Proceeds work i t₀ owner gone (w.act (.step i)) k (.asking token deadline)
      (some (work.sent token (.back (.granted false)))) := by
  have hfails (answer : Retry.Answer) (hanswer : (work.strategy.after k).next.1 = answer) :=
    Acquisition.afterFailure_of_next (a := work.past k (k + 1) (.asking token deadline))
      (e := .acquireFailed work.key) rfl w.now (Prod.ext hanswer rfl)
  have hact : w.act (.step i) = (w.perform i (.trying (work.past k (k + 1) (.asking token deadline))
      (some (work.sent token (.back (.granted false))))) .acquisition some
      ((work.past k (k + 1) (.asking token deadline)).afterFailure w.now
        (.acquireFailed work.key))).getD w := h.act_turn rfl
  cases hanswer : (work.strategy.after k).next.1 with
  | wait d =>
    rw [hfails _ hanswer] at hact
    -- an attempt that takes no time leaves the wait to begin at a whole millisecond
    have hdue : work.strategy.due t₀ (k + 1) = some (Instant.timer w.now d) := by
      rw [Retry.Strategy.due_succ due hanswer]
      exact congrArg some (Instant.roundUp_add (Retry.Strategy.dvd_due hwhole due) _).symm
    have hbefore (j : Nat) (hj : j < k + 1) (t : Nat) (ht : work.strategy.due t₀ j = some t) :
        t < gone := by
      obtain rfl | hlt := Nat.eq_or_lt_of_le (Nat.le_of_lt_succ hj)
      · cases ht.symm.trans due
        exact held
      · exact h.before j hlt t ht
    refine .waits (k + 1) _ _ (.resting _ (h.step ?_ ?_ hbefore) hdue ?_ ?_) fun n hn => ?_
    · rw [hact]
      rfl
    · rw [hact]
      rfl
    · rw [hact]
      exact Instant.le_timer ..
    · rw [hact]
      exact entry
    · rw [show n - k = n - (k + 1) + 1 by omega]
      exact Acquisition.left_rest rfl _ _ _
  | stop =>
    rw [hfails _ hanswer] at hact
    have hcount : (work.past k (k + 1) (.asking token deadline)).attempts.toNat =
        min (k + 1) 4294967295 := Retry.toNat_tally (k + 1)
    rw [hcount] at hact
    have hdecides : Decides work t₀ gone k w.now :=
      ⟨due, h.before, .inr fun d hwait => by cases hanswer.symm.trans hwait⟩
    exact .decided k w.now _ (decided_of_finish h hdecides hact fun _ _ => .exhausted held hanswer)
  | broken text =>
    rw [hfails _ hanswer] at hact
    have hdecides : Decides work t₀ gone k w.now :=
      ⟨due, h.before, .inr fun d hwait => by cases hanswer.symm.trans hwait⟩
    exact .decided k w.now _ (decided_of_finish h hdecides hact fun _ _ =>
      .gaveOut held text hanswer)

/-- Each step of the acquisition brings it closer to its end, unless there is none to take. -/
lemma Waits.step (hwhole : 1000000 ∣ t₀) (h : Waits work i t₀ owner gone w k stage u) :
    w.step i = none ∨ Proceeds work i t₀ owner gone (w.act (.step i)) k stage u := by
  cases h with
  | ready vies due entry => exact .inr (proceeds_of_ready vies due entry)
  | resting wake vies due early entry => exact proceeds_of_resting vies due early entry
  | asking token deadline stage vies due latest answering =>
    right
    cases answering with
    | arrived other entry => exact proceeds_of_arrived vies due latest other entry
    | refused held entry => exact proceeds_of_refused hwhole vies due held entry
    | granted free fits entry =>
      have hact : w.act (.step i) = w.newSignal.2.finish i
          (.trying (work.past k (k + 1) (.asking token deadline))
            (some (work.sent token (.back (.granted true)))))
          (.leased ⟨⟨work.key, token, work.ttl⟩, w.signals⟩) := vies.act_turn rfl
      refine .decided k w.now _ (decided_of_finish vies ⟨due, vies.before, .inl free⟩ hact
        fun memory asks => .taken token w.signals free fits (asks ▸ latest) fun t ht => ?_)
      rw [memory, Memory.holder_of_find? entry t]
      exact if_pos ht
    | overflowed free full entry =>
      have hact : w.act (.step i) = w.finish i
          (.trying (work.past k (k + 1) (.asking token deadline))
            (some (work.sent token (.back (.broken Instant.overflowText)))))
          (.broken Instant.overflowText) := vies.act_turn rfl
      refine .decided k w.now _ (decided_of_finish vies ⟨due, vies.before, .inl free⟩ hact
        fun memory _ => .overflowed free full fun t ht => ?_)
      rw [memory, Memory.holder_of_find? entry t]
      exact if_neg (Nat.not_lt.mpr (Nat.le_trans free ht))

/-- If time goes on without keeping the acquisition waiting, it waits for the next attempt. -/
lemma Waits.advance (h : Waits work i t₀ owner gone w k stage u) {x : Nat}
    (hheeds : w.Heeds i (.advance x)) :
    Waits work i t₀ owner gone (w.act (.advance x)) k stage u := by
  obtain ⟨hstep, hwakes⟩ := hheeds
  cases h with
  | ready vies due entry =>
    obtain ⟨-, took⟩ := tried_rest vies.task rfl rfl vies.unfired hstep
    cases took with
    | waited _ _ _ stage | slept _ _ stage => cases stage
  | resting wake vies due early entry =>
    refine .resting wake (vies.act (b := .advance x) trivial vies.unfired vies.task vies.times
      vies.before) due (hwakes _ vies.task wake ?_) entry
    simp [wakes, Task.trying, Acquisition.past, Acquisition.midway, Acquisition.wake?]
  | asking token deadline stage vies due latest answering =>
    obtain ⟨settled, took⟩ := tried_rest vies.task rfl rfl vies.unfired hstep
    cases answering with
    | arrived =>
      exact absurd (Underway.hangs_of_rest rfl (rests_of_settled settled rfl)) Deed.noConfusion
    | refused | granted | overflowed =>
      cases took with
      | waited _ _ _ _ response => cases response
      | slept _ _ stage => cases stage

/-- What happens elsewhere leaves the acquisition and its key as they are. -/
lemma Waits.other (h : Waits work i t₀ owner gone w k stage u) (hstep : b ≠ .step i)
    (habort : b ≠ .abort i) (hadvance : ∀ x, b ≠ .advance x) (hb : b.Supplies Plan.Immediate)
    (hf : (w.act b).hasFired work.signal = false)
    (hquiet : ∀ e ∈ w.news [b], e.meddles work.key i = false) :
    Waits work i t₀ owner gone (w.act b) k stage u := by
  have hnow := w.act_now hadvance
  have hfind := find?_act hquiet hstep
  have hasks := w.asksOf_act_of_ne hstep
  have hvies {made : Nat} {stage : Acquisition.Stage} {u : Option Underway}
      (vies : Vies work i t₀ owner gone w k made stage u) :
      Vies work i t₀ owner gone (w.act b) k made stage u :=
    vies.act hb hf (other_act vies.task hstep habort) (hasks ▸ vies.times) vies.before
  cases h with
  | ready vies due entry => exact .ready (hvies vies) (hnow ▸ due) (hfind.trans entry)
  | resting wake vies due early entry =>
    exact .resting wake (hvies vies) due (hnow ▸ early) (hfind.trans entry)
  | asking token deadline stage vies due latest answering =>
    refine .asking token deadline stage (hvies vies) (hnow ▸ due) (by rw [hasks, hnow, latest]) ?_
    cases answering with
    | arrived other entry => exact .arrived other (hfind.trans entry)
    | refused held entry => exact .refused (hnow ▸ held) (hfind.trans entry)
    | granted free fits entry =>
      exact .granted (hnow ▸ free) (hnow ▸ fits) (hnow.symm ▸ hfind.trans entry)
    | overflowed free full entry =>
      exact .overflowed (hnow ▸ free) (hnow ▸ full) (hfind.trans entry)

end waiting

end World
end LeaseLock
