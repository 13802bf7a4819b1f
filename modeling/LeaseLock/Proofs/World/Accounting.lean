import Mathlib.Tactic.Common
import LeaseLock.Proofs.Retry.Answers
import LeaseLock.Proofs.World.Ledger

/-!
How many attempts an acquisition makes, for how long, and what it ends with.

The strategy of an acquisition is asked once after each of the attempts in its `Account`. If what it
hands out is known, so is the number of attempts that fail, and the time they can take.
-/

namespace LeaseLock

open World (Act)

namespace World

variable {v : World} {work : Acquisition} {i due : Nat} {acts point : List Act}
  {trials : List Trial} {s : Retry.Strategy} {ds : List Span} {x : Trial} {ending : Ending}
  {e : LockError}

namespace Account

variable {ds : List Span}

/-- The strategy was asked once after each attempt. -/
lemma strategy (h : v.Account work i trials s due point) :
    s = work.strategy.after trials.length := by
  induction h with
  | start => rfl
  | failed x e d account after makes failure retryable next ih =>
    rw [List.length_cons, Retry.Strategy.after, ← ih, next]

/-- There are no more attempts than intervals, and none is later than the intervals say. -/
lemma bounded (h : v.Account work i trials s due point) (hds : work.strategy.HandsOut ds) :
    trials.length ≤ ds.length ∧
      (v.Heeded i point → due ≤ latestStart work.timeout v.now (ds.take trials.length)) := by
  induction h with
  | start => exact ⟨Nat.zero_le _, fun _ => by simp [latestStart]⟩
  | @failed trials s s' due point x e d account after makes failure retryable next ih =>
    obtain ⟨hle, hdue⟩ := ih
    have hanswer : (work.strategy.after trials.length).next.1 = .wait d := by
      rw [← account.strategy, next]
    obtain ⟨d', hd, hwait⟩ | ⟨-, hstop⟩ := hds.cases hle
    · cases hwait.symm.trans hanswer
      refine ⟨(List.getElem?_eq_some_iff.mp hd).1, fun hp => ?_⟩
      have hupto : v.Heeded i x.upto := hp.of_prefix (List.prefix_append ..)
      have hbefore : v.Heeded i x.before :=
        hupto.of_prefix ((List.prefix_append ..).trans makes.since)
      have hbegan : (v.run x.before).now ≤
          latestStart work.timeout v.now (ds.take trials.length) :=
        makes.begins.exact hbefore ▸ hdue (hbefore.of_prefix after)
      rw [List.length_cons, latestStart_take_succ _ _ _ hd]
      refine Instant.timer_mono ?_ d
      exact Nat.le_trans (makes.came.early hupto) (Instant.timer_mono hbegan _)
    · cases hstop.symm.trans hanswer

end Account

/-- An acquisition that is not kept waiting is over in time. -/
lemma Stands.inTime {ds : List Span} (h : v.Stands work i acts trials s due point)
    (account : v.Account work i trials s due point) (hds : work.strategy.HandsOut ds)
    (hp : v.Heeded i acts) :
    (v.run acts).now ≤ Instant.timer (latestStart work.timeout v.now ds) work.timeout := by
  have hlast (hpoint : point <+: acts) : due ≤ latestStart work.timeout v.now ds :=
    Nat.le_trans ((account.bounded hds).2 (hp.of_prefix hpoint)) (latestStart_take_le ..)
  cases h with
  | ready c count tries since late exact =>
    exact Nat.le_trans (exact hp ▸ hlast since) (Instant.le_timer ..)
  | resting c count tries since early =>
    exact Nat.le_trans (Nat.le_trans (early hp) (hlast since)) (Instant.le_timer ..)
  | asking c u before asks =>
    have hsince : before <+: acts := (List.prefix_append ..).trans asks.since
    have hbegan : (v.run before).now ≤ latestStart work.timeout v.now ds :=
      asks.begins.exact (hp.of_prefix hsince) ▸ hlast (asks.after.trans hsince)
    exact Nat.le_trans (asks.early hp) (Instant.timer_mono hbegan _)

/-- An acquisition that ends with a failure after which it would try again has had all intervals. -/
lemma Concluded.exhausts {ds : List Span} {point : List Act}
    (h : v.Concluded work i acts trials s due point x ending)
    (account : v.Account work i trials s due point) (hds : work.strategy.HandsOut ds)
    (failure : x.failure? work = some e) (retryable : e.isRetryable = true) :
    trials.length = ds.length ∧
      ending = .failed (.retriesExhausted (min (ds.length + 1) 4294967295) e) := by
  have hcases := hds.cases (account.bounded hds).1
  rw [← account.strategy] at hcases
  cases h.settles with
  | leased stop response => simp [Trial.failure?, response] at failure
  | broke text response => simp [Trial.failure?, response] at failure
  | fatal e' failure' final =>
    cases failure.symm.trans failure'
    cases retryable.symm.trans final
  | exhausted e' failure' retryable' stop =>
    cases failure.symm.trans failure'
    obtain ⟨d, -, hwait⟩ | ⟨hlength, -⟩ := hcases
    · cases stop.symm.trans hwait
    · exact ⟨hlength, by rw [hlength]⟩
  | gaveOut e' text failure' retryable' broken =>
    obtain ⟨d, -, hwait⟩ | ⟨-, hstop⟩ := hcases
    · cases broken.symm.trans hwait
    · cases broken.symm.trans hstop

/-- A call that was just spawned is ready for its first attempt. -/
lemma accounted_start {plans : Plans} {before : List Act} {key : String} {ttl timeout : Span}
    {strategy : Retry.Strategy} {signal : Option Signal} :
    (((start plans).run before).act
      (.spawn (.acquisition (.start key ttl timeout strategy signal)))).Accounted
        (.start key ttl timeout strategy signal) ((start plans).run before).tasks.length [] := by
  refine .pending .start (.ready 0 rfl ⟨?_, ?_⟩ List.prefix_rfl (Nat.le_refl _) fun _ => rfl)
  · exact List.getElem?_concat_length ..
  · exact (asked_run plans before).beyond (Nat.le_refl _)

/-- **The accounting of an acquisition.** Start an acquisition at any point of any run, and let the
run go on in any way, whatever the store answers, however late, or whether it answers at all, as
long as the signal does not fire and nobody aborts the call. Then its requests are those of its
attempts, one after another: `Account` lists the attempts that failed with a failure after which
there is another one. After each of them the strategy was asked once, which is all it was asked, and
the next attempt began only after the attempt was over and the interval too, up to the next whole
millisecond; just then, if the call was not kept waiting. The call is under way after these
attempts, or it is over with one more: with a lease under the token of that attempt if the store
said yes, with the failure itself if it is final, and with `retriesExhausted` if the strategy gave
up. If the strategy hands out the intervals `ds` and then gives up, there are no more attempts than
one for each interval and another one; a call that is not kept waiting is over after
`latestStart` and one more timeout; and if its last attempt, too, failed so that it would try again,
then it put just one request more to the store than there are intervals, and ended with
`retriesExhausted` and the failure of the last. -/
theorem lock_accounting (plans : Plans) (before acts : List Act) (key : String)
    (ttl timeout : Span) (strategy : Retry.Strategy) (signal : Option Signal) :
    let work : Acquisition := .start key ttl timeout strategy signal
    let i := ((start plans).run before).tasks.length
    let v := ((start plans).run before).act (.spawn (.acquisition work))
    .abort i ∉ acts → (v.run acts).hasFired signal = false →
    ∃ trials s due point, v.Account work i trials s due point ∧
      s = strategy.after trials.length ∧
      (v.Stands work i acts trials s due point ∨
        ∃ x ending, v.Concluded work i acts trials s due point x ending) ∧
      ∀ ds, strategy.HandsOut ds → trials.length ≤ ds.length ∧
        (v.Heeded i acts → Instant.timer (latestStart timeout v.now ds) timeout < (v.run acts).now →
          ∃ x ending, v.Concluded work i acts trials s due point x ending) ∧
        ∀ x ending e, v.Concluded work i acts trials s due point x ending →
          x.failure? work = some e → e.isRetryable = true →
          (requestsOf i (v.run acts).history).length = ds.length + 1 ∧
            ending = .failed (.retriesExhausted (min (ds.length + 1) 4294967295) e) ∧
            ∀ n last, e ≠ .retriesExhausted n last := by
  intro work i v habort hfired
  have haccounted : v.Accounted work i acts := accounted_start.run hfired habort
  have exhausts {trials : List Trial} {s : Retry.Strategy} {due : Nat} {point : List Act}
      (account : v.Account work i trials s due point) {ds : List Span}
      (hds : strategy.HandsOut ds) (x : Trial) (ending : Ending) (e : LockError)
      (concluded : v.Concluded work i acts trials s due point x ending)
      (failure : x.failure? work = some e) (retryable : e.isRetryable = true) :
      (requestsOf i (v.run acts).history).length = ds.length + 1 ∧
        ending = .failed (.retriesExhausted (min (ds.length + 1) 4294967295) e) ∧
        ∀ n last, e ≠ .retriesExhausted n last := by
    obtain ⟨hlength, hending⟩ := concluded.exhausts account hds failure retryable
    refine ⟨?_, hending, fun n last he => ?_⟩
    · rw [concluded.requests, length_requestsFor, List.length_cons, hlength]
    · rw [he] at retryable
      cases retryable
  cases haccounted with
  | @pending trials s due point account stands =>
    refine ⟨trials, s, due, point, account, account.strategy, .inl stands, fun ds hds =>
      ⟨(account.bounded hds).1, fun hp hlate => ?_, exhausts account hds⟩⟩
    exact absurd (stands.inTime account hds hp) (Nat.not_le_of_lt hlate)
  | @concluded trials s due point x ending account concluded =>
    exact ⟨trials, s, due, point, account, account.strategy, .inr ⟨x, ending, concluded⟩,
      fun ds hds => ⟨(account.bounded hds).1, fun _ _ => ⟨x, ending, concluded⟩,
        exhausts account hds⟩⟩

/-- The store refuses the first request and never responds to the second. -/
theorem lock_accounting_of_two_attempts :
    let plans : Plans := ⟨[⟨none, .answer false, none⟩, ⟨none, .hang, none⟩], [], []⟩
    let work : Acquisition :=
      .start "k" (.ofSecs 9) (.ofMillis 10) (.ofList [.ofNanos 2500000] .stop) (some 7)
    let acts := [.step 0, .step 0, .step 0, .advance 3000000, .step 0, .step 0, .advance 10000000,
      .step 0, .advance 11000000]
    let v := (start plans).act (.spawn (.acquisition work))
    ∃ trials s due point x, v.Account work 0 trials s due point ∧ trials.length = 1 ∧
      v.Concluded work 0 acts trials s due point x (.failed (.retriesExhausted 2 .timeout)) := by
  intro plans work acts v
  obtain ⟨trials, s, due, point, account, -, -, hintervals⟩ := lock_accounting plans [] acts "k"
    (.ofSecs 9) (.ofMillis 10) (.ofList [.ofNanos 2500000] .stop) (some 7)
    (by simp [acts, start]) (by decide)
  obtain ⟨-, hover, -⟩ := hintervals _ (Retry.Strategy.handsOut_ofList _)
  obtain ⟨x, ending, concluded⟩ := hover (by decide) (by decide)
  have hending : (v.run acts).ending? 0 = some (.failed (.retriesExhausted 2 .timeout)) := by decide
  cases hending.symm.trans concluded.ended
  have hrequests : requestsOf 0 (v.run acts).history = v.requestsFor work (x :: trials) :=
    concluded.requests
  have hlength : (requestsOf 0 (v.run acts).history).length = 2 := by decide
  rw [hrequests, length_requestsFor, List.length_cons] at hlength
  exact ⟨trials, s, due, point, x, account, Nat.succ.inj hlength, concluded⟩

end World
end LeaseLock
