import Mathlib.Algebra.Group.Nat.Defs
import Mathlib.Tactic.Common
import LeaseLock.Proofs.Retry.Answers
import LeaseLock.Retry.Checked

/-!
The intervals of the doubling strategy.

The strategy answers by a rule without memory: `nanos_doubled` says what the rule comes to in exact
arithmetic, and `Midway` that the note of having reached the longest interval is only ever taken
where the rule has come to it for good.
-/

namespace LeaseLock.Retry

/-! ### The counter -/

/-- A limit is behind the counter if it is one, and one that the counter can pass. -/
lemma exhausted_tally {most : UInt32} {n : Nat} : exhausted most (tally (n + 1)) = true ↔
    most ≠ 0 ∧ most.toNat ≤ n ∧ most ≠ 4294967295 := by
  have hlt := most.toNat_lt
  have hzero : most ≠ 0 ↔ most.toNat ≠ 0 := by rw [Ne, ← UInt32.toNat_inj]; rfl
  have hgreatest : most ≠ 4294967295 ↔ most.toNat ≠ 4294967295 := by
    rw [Ne, ← UInt32.toNat_inj]; rfl
  rw [exhausted_iff, toNat_tally, hzero, hgreatest]
  omega

namespace Backoff

variable {b c : Backoff} {first longest d : Span} {most n m : UInt32}

/-! ### The rule without memory -/

/-- A power of two times the first interval, as long as the power is a number of 32 bits and the
product is not longer than the longest interval. -/
lemma doubled?_eq_some : doubled? first longest n = some d ↔
    n.toNat - 1 < 32 ∧ d.nanos = first.nanos * 2 ^ (n.toNat - 1) ∧ d ≤ longest := by
  have hpower (e : Nat) : Nat.pow 2 e = 2 ^ e := rfl
  unfold doubled? factor? Span.mul? Span.ofNanos?
  split
  · next hlt =>
    simp only [Option.bind_some, Option.filter_eq_some_iff, decide_eq_true_eq, hlt, true_and,
      hpower]
    constructor
    · rintro ⟨hd, hle⟩
      split at hd
      · cases hd
        exact ⟨rfl, hle⟩
      · cases hd
    · rintro ⟨hd, hle⟩
      have hlimit : first.nanos * 2 ^ (n.toNat - 1) < Span.limit := hd ▸ d.nanos_lt
      refine ⟨?_, hle⟩
      rw [dif_pos hlimit]
      exact congrArg some (Span.ext hd.symm)
  · next hlt => simp [hlt]

lemma doubled?_eq_none : doubled? first longest n = none ↔
    32 ≤ n.toNat - 1 ∨ longest.nanos < first.nanos * 2 ^ (n.toNat - 1) := by
  constructor
  · intro h
    by_contra hc
    obtain ⟨hlt, hle⟩ : n.toNat - 1 < 32 ∧ first.nanos * 2 ^ (n.toNat - 1) ≤ longest.nanos := by
      omega
    -- a product that is not longer than the longest interval is a span
    let d : Span := ⟨first.nanos * 2 ^ (n.toNat - 1), Nat.lt_of_le_of_lt hle longest.nanos_lt⟩
    have hd : doubled? first longest n = some d := doubled?_eq_some.mpr ⟨hlt, rfl, hle⟩
    cases h.symm.trans hd
  · intro h
    cases hn : doubled? first longest n with
    | none => rfl
    | some d =>
      obtain ⟨hlt, hd, hle⟩ := doubled?_eq_some.mp hn
      rw [Span.le_def] at hle
      omega

/-- What the rule comes to. -/
lemma nanos_doubled (first longest : Span) (n : UInt32) : (doubled first longest n).nanos =
    if n.toNat - 1 < 32 then min (first.nanos * 2 ^ (n.toNat - 1)) longest.nanos
    else longest.nanos := by
  unfold doubled
  cases h : doubled? first longest n with
  | some d =>
    obtain ⟨hlt, hd, hle⟩ := doubled?_eq_some.mp h
    rw [if_pos hlt, Option.getD_some, ← hd, Nat.min_eq_left hle]
  | none =>
    rw [Option.getD_none]
    rcases doubled?_eq_none.mp h with hlarge | hlong
    · rw [if_neg (Nat.not_lt.mpr hlarge)]
    · rw [Nat.min_eq_right (Nat.le_of_lt hlong), ite_self]

/-- Once the rule has come to the longest interval, it stays there. -/
lemma doubled?_eq_none_of_le (h : doubled? first longest m = none) (hle : m.toNat ≤ n.toNat) :
    doubled? first longest n = none := by
  refine doubled?_eq_none.mpr ((doubled?_eq_none.mp h).imp (fun hlarge => by omega) fun hlong => ?_)
  calc longest.nanos < first.nanos * 2 ^ (m.toNat - 1) := hlong
    _ ≤ first.nanos * 2 ^ (n.toNat - 1) :=
      Nat.mul_le_mul_left _ (Nat.pow_le_pow_right (by decide) (by omega))

/-- The answer to the `n`-th time of asking, from 1, by the rule without memory. -/
def stateless (first longest : Span) (most : UInt32) (n : Nat) : Option Span :=
  let asked := UInt32.ofNat (min n 4294967295)
  if exhausted most asked then none else some (doubled first longest asked)

lemma stateless_eq (first longest : Span) (most : UInt32) (n : Nat) :
    stateless first longest most n =
      if exhausted most (tally n) then none else some (doubled first longest (tally n)) := by
  rw [tally_eq, bumpBy, UInt32.toNat_zero, Nat.zero_add, stateless]

/-! ### The strategy as it is asked -/

/-- Where a strategy stands that was `b` when it was new, and was asked `n` times since. -/
structure Midway (b : Backoff) (n : Nat) (c : Backoff) : Prop where
  first : c.first = b.first
  longest : c.longest = b.longest
  most : c.most = b.most
  asked : c.asked = tally n
  capped : c.capped = true → doubled? b.first b.longest (tally n) = none

/-- Whether the strategy has taken note or not, it answers by the rule without memory. -/
lemma Midway.next {n : Nat} (h : b.Midway n c) :
    c.next.1 = stateless b.first b.longest b.most (n + 1) ∧ b.Midway (n + 1) c.next.2 := by
  have hasked : bump c.asked = tally (n + 1) := by rw [h.asked, tally]
  have hle : (tally n).toNat ≤ (tally (n + 1)).toNat := by
    rw [toNat_tally, toNat_tally]
    omega
  have hcapped (hc : c.capped = true) : doubled? b.first b.longest (tally (n + 1)) = none :=
    doubled?_eq_none_of_le (h.capped hc) hle
  simp only [Backoff.next, stateless_eq, hasked, h.first, h.longest, h.most]
  split
  · exact ⟨rfl, rfl, rfl, rfl, rfl, hcapped⟩
  · split
    · next hc =>
      refine ⟨?_, rfl, rfl, rfl, rfl, hcapped⟩
      rw [doubled, hcapped hc, Option.getD_none]
    · next hc =>
      cases hd : doubled? b.first b.longest (tally (n + 1)) with
      | some d =>
        refine ⟨?_, rfl, rfl, rfl, rfl, fun hcap => absurd hcap hc⟩
        rw [doubled, hd, Option.getD_some]
      | none =>
        refine ⟨?_, rfl, rfl, rfl, rfl, fun _ => hd⟩
        rw [doubled, hd, Option.getD_none]

lemma make_eq_ok : make first longest most = .ok b ↔
    0 < first.nanos ∧ first ≤ longest ∧ b = ⟨first, longest, most, 0, false⟩ := by
  unfold make
  split
  · next hzero => simp_all
  · next hzero =>
    rw [Span.isZero_iff] at hzero
    split
    · next hlt =>
      rw [Span.lt_def] at hlt
      simp only [reduceCtorEq, Span.le_def, false_iff]
      omega
    · next hlt =>
      rw [Span.lt_def] at hlt
      simp only [Except.ok.injEq, Span.le_def, eq_comm (b := b)]
      exact ⟨fun h => ⟨by omega, by omega, h⟩, fun h => h.2.2⟩

/-- A strategy that was accepted is midway after any number of answers. -/
lemma midway_of_make (h : make first longest most = .ok b) (n : Nat) :
    ∃ c, (Strategy.backoff b).after n = .backoff c ∧ b.Midway n c := by
  obtain ⟨-, -, rfl⟩ := make_eq_ok.mp h
  induction n with
  | zero => exact ⟨_, rfl, rfl, rfl, rfl, rfl, fun hc => by cases hc⟩
  | succ n ih =>
    obtain ⟨c, hc, hmidway⟩ := ih
    exact ⟨c.next.2, by rw [Strategy.after, hc, Strategy.next], hmidway.next.2⟩

lemma answer_of_make (h : make first longest most = .ok b) (n : Nat) :
    ((Strategy.backoff b).after n).next.1 =
      .ofInterval (stateless first longest most (n + 1)) := by
  obtain ⟨c, hc, hmidway⟩ := midway_of_make h n
  obtain ⟨-, -, rfl⟩ := make_eq_ok.mp h
  rw [hc, Strategy.next, hmidway.next.1]

lemma ofInterval_eq_wait {o : Option Span} : Answer.ofInterval o = .wait d ↔ o = some d := by
  cases o <;> simp [Answer.ofInterval]

/-- An interval that is handed out, in exact arithmetic. -/
lemma nanos_of_wait (h : make first longest most = .ok b) {n : Nat}
    (hd : ((Strategy.backoff b).after n).next.1 = .wait d) :
    d.nanos = if n < 32 then min (first.nanos * 2 ^ n) longest.nanos else longest.nanos := by
  rw [answer_of_make h, ofInterval_eq_wait, stateless_eq] at hd
  simp only [Option.ite_none_left_eq_some, Option.some.injEq] at hd
  rw [← hd.2, nanos_doubled, toNat_tally]
  by_cases hn : n < 32
  · have hexponent : min (n + 1) 4294967295 - 1 = n := by omega
    rw [hexponent]
  · rw [if_neg hn, if_neg (by omega)]

/-- The strategy hands out an interval unless its limit is behind it. -/
lemma exists_wait_iff (h : make first longest most = .ok b) {n : Nat} :
    (∃ d, ((Strategy.backoff b).after n).next.1 = .wait d) ↔
      exhausted most (tally (n + 1)) = false := by
  rw [answer_of_make h, stateless_eq]
  cases exhausted most (tally (n + 1)) <;> simp [Answer.ofInterval]

/-! ### How the intervals grow -/

section

variable {n k : Nat} {d' : Span}

lemma bounds_of_wait (h : make first longest most = .ok b)
    (hd : ((Strategy.backoff b).after n).next.1 = .wait d) : first ≤ d ∧ d ≤ longest := by
  obtain ⟨-, hle, -⟩ := make_eq_ok.mp h
  have hnanos := nanos_of_wait h hd
  have hgrow : first.nanos ≤ first.nanos * 2 ^ n :=
    Nat.le_mul_of_pos_right _ (Nat.two_pow_pos n)
  simp only [Span.le_def] at hle ⊢
  split at hnanos <;> omega

/-- Each interval is twice the one before, or the longest. -/
lemma wait_succ (h : make first longest most = .ok b)
    (hd : ((Strategy.backoff b).after n).next.1 = .wait d)
    (hd' : ((Strategy.backoff b).after (n + 1)).next.1 = .wait d') :
    d ≤ d' ∧ (d'.nanos = 2 * d.nanos ∨ d' = longest) := by
  have hnanos := nanos_of_wait h hd
  have hnanos' := nanos_of_wait h hd'
  have hpow : first.nanos * 2 ^ (n + 1) = 2 * (first.nanos * 2 ^ n) := by
    rw [Nat.pow_succ, ← Nat.mul_assoc, Nat.mul_comm]
  rw [hpow] at hnanos'
  rw [Span.le_def, Span.ext_iff]
  split at hnanos <;> split at hnanos' <;> omega

/-- After the formula has passed the longest interval, or its factor what 32 bits can hold, there
is only the longest interval. -/
lemma wait_eq_longest (h : make first longest most = .ok b)
    (hpast : 32 ≤ k ∨ longest.nanos < first.nanos * 2 ^ k) (hk : k ≤ n)
    (hd : ((Strategy.backoff b).after n).next.1 = .wait d) : d = longest := by
  have hnanos := nanos_of_wait h hd
  have hgrow : first.nanos * 2 ^ k ≤ first.nanos * 2 ^ n :=
    Nat.mul_le_mul_left _ (Nat.pow_le_pow_right (by decide) hk)
  rw [Span.ext_iff]
  split at hnanos <;> omega

end

/-! ### The arithmetic -/

/-- There is always a number before the counter. -/
lemma before?_bump (n : UInt32) :
    ∃ k, before? (bump n) = some k ∧ k.toNat = (bump n).toNat - 1 := by
  have hpos : 1 ≤ (bump n).toNat := by
    rw [toNat_bump]
    omega
  have hne : bump n ≠ 0 := fun h => by simp [h] at hpos
  have hle : 1 ≤ bump n := UInt32.le_iff_toNat_le.mpr hpos
  exact ⟨bump n - 1, if_neg hne, UInt32.toNat_sub_of_le _ _ hle⟩

/-- **Nothing that the strategy computes can fail**, whatever its state. -/
theorem next?_eq_next (c : Backoff) : c.next? = some c.next := by
  obtain ⟨k, hbefore, hk⟩ := before?_bump c.asked
  unfold next? next
  simp only [hbefore, Option.map_some, hk]
  split
  · rfl
  · split <;> rfl

/-! ### What the strategy answers -/

/-- **The intervals follow the formula while its factor is a number of 32 bits.** A strategy with a
first interval that is not zero and not longer than the longest is accepted. As long as its limit
is not behind it, it hands out the first interval times two to the power of how often it was asked
before, but no more than the longest interval, all in exact arithmetic; and once that power is too
large for 32 bits, the longest interval. -/
theorem backoff_follows_formula (hpositive : 0 < first.nanos) (hle : first ≤ longest)
    (most : UInt32) :
    ∃ b, make first longest most = .ok b ∧ ∀ n, most = 0 ∨ n < most.toNat →
      ∃ d, ((Strategy.backoff b).after n).next.1 = .wait d ∧
        d.nanos = if n < 32 then min (first.nanos * 2 ^ n) longest.nanos else longest.nanos := by
  have hmake : make first longest most = .ok ⟨first, longest, most, 0, false⟩ :=
    make_eq_ok.mpr ⟨hpositive, hle, rfl⟩
  refine ⟨_, hmake, fun n hn => ?_⟩
  have hunexhausted : exhausted most (tally (n + 1)) = false := by
    rw [← Bool.not_eq_true, exhausted_tally]
    rintro ⟨hne, hlt, -⟩
    exact hn.elim hne (Nat.not_lt.mpr hlt)
  obtain ⟨d, hd⟩ := (exists_wait_iff hmake).mpr hunexhausted
  exact ⟨d, hd, nanos_of_wait hmake hd⟩

/-- The last doubling, from a nanosecond. -/
theorem backoff_follows_formula_to_last_doubling :
    0 < (Span.ofNanos 1).nanos ∧ Span.ofNanos 1 ≤ Span.ofSecs 10 ∧
    ∃ b, make (.ofNanos 1) (.ofSecs 10) 0 = .ok b ∧
      ∃ d, ((Strategy.backoff b).after 31).next.1 = .wait d ∧ d.nanos = 2147483648 := by
  have hpositive : 0 < (Span.ofNanos 1).nanos := by decide
  have hle : Span.ofNanos 1 ≤ Span.ofSecs 10 := by decide
  obtain ⟨b, hmake, hformula⟩ := backoff_follows_formula hpositive hle 0
  obtain ⟨d, hd, hnanos⟩ := hformula 31 (.inl rfl)
  exact ⟨hpositive, hle, b, hmake, d, hd, hnanos.trans (by decide)⟩

/-- From there the intervals leap: two to the power of 32 nanoseconds are less than ten seconds, but
two to the power of 32 is too large for 32 bits. -/
theorem backoff_leaves_formula :
    ∃ b, make (.ofNanos 1) (.ofSecs 10) 0 = .ok b ∧
      ((Strategy.backoff b).after 32).next.1 = .wait (.ofSecs 10) ∧
      (Span.ofSecs 10).nanos ≠ min ((Span.ofNanos 1).nanos * 2 ^ 32) (Span.ofSecs 10).nanos := by
  have hmake : make (.ofNanos 1) (.ofSecs 10) 0 = .ok ⟨.ofNanos 1, .ofSecs 10, 0, 0, false⟩ :=
    make_eq_ok.mpr ⟨by decide, by decide, rfl⟩
  refine ⟨_, hmake, ?_, by decide⟩
  rw [answer_of_make hmake]
  decide

/-- **The intervals grow within their bounds, and the note that the longest was reached is only a
short cut.** However often a strategy is asked that was accepted: each interval that it hands out is
neither shorter than the first nor longer than the longest, and not shorter than the one before; it
is twice the one before, or the longest; once the formula has passed the longest interval or
overflowed there is only the longest interval. The answer is the one by the rule without memory, for
a counter that stops at its greatest value, and nothing that is computed for it can fail. -/
theorem backoff_grows_without_memory (h : make first longest most = .ok b) :
    let answer (n : Nat) : Answer := ((Strategy.backoff b).after n).next.1
    (∀ n d, answer n = .wait d → first ≤ d ∧ d ≤ longest) ∧
    (∀ n d d', answer n = .wait d → answer (n + 1) = .wait d' →
      d ≤ d' ∧ (d'.nanos = 2 * d.nanos ∨ d' = longest)) ∧
    (∀ k n d, (32 ≤ k ∨ longest.nanos < first.nanos * 2 ^ k) → k ≤ n → answer n = .wait d →
      d = longest) ∧
    (∀ n, answer n = .ofInterval (stateless first longest most (n + 1))) ∧
    ∀ n, ∃ c, (Strategy.backoff b).after n = .backoff c ∧ c.next? = some c.next := by
  refine ⟨fun n d => bounds_of_wait h, fun n d d' => wait_succ h, fun k n d => wait_eq_longest h,
    answer_of_make h, fun n => ?_⟩
  obtain ⟨c, hc, -⟩ := midway_of_make h n
  exact ⟨c, hc, next?_eq_next c⟩

/-- Asked more often than the counter can count. -/
theorem backoff_grows_without_memory_past_counter :
    ∃ b, make (.ofMillis 100) (.ofSecs 1) 0 = .ok b ∧
      ((Strategy.backoff b).after 4294967300).next.1 = .wait (.ofSecs 1) ∧
      ∃ c, (Strategy.backoff b).after 4294967300 = .backoff c ∧ c.next? = some c.next := by
  have hmake : make (.ofMillis 100) (.ofSecs 1) 0 = .ok ⟨.ofMillis 100, .ofSecs 1, 0, 0, false⟩ :=
    make_eq_ok.mpr ⟨by decide, by decide, rfl⟩
  obtain ⟨-, -, -, hanswer, harithmetic⟩ := backoff_grows_without_memory hmake
  exact ⟨_, hmake, (hanswer _).trans (by decide), harithmetic _⟩

end Backoff

end LeaseLock.Retry
