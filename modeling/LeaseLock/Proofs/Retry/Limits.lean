import Mathlib.Tactic.Common
import LeaseLock.Proofs.Retry.Doubling

/-!
How many intervals a strategy with a limit hands out.

Both kinds of strategies count how often they were asked, and stop once the count is beyond the
limit. The counter stops as well, at its greatest value, so that it gets beyond every limit but that
one.
-/

namespace LeaseLock.Retry

variable {interval first longest : Span} {most : UInt32} {f : Fixed} {b : Backoff} {n : Nat}

/-- A limit is still ahead of the counter, or the counter never gets beyond it. -/
lemma exhausted_eq_false (hmost : most ≠ 0) :
    exhausted most (tally (n + 1)) = false ↔ n < most.toNat ∨ most = 4294967295 := by
  rw [← Bool.not_eq_true, exhausted_tally]
  have hle : ¬ most.toNat ≤ n ↔ n < most.toNat := Nat.not_le
  tauto

namespace Fixed

lemma make_eq_ok :
    make interval most = .ok f ↔ 0 < interval.nanos ∧ f = ⟨interval, most, 0⟩ := by
  unfold make
  split
  · next hzero => simp_all
  · next hzero =>
    rw [Span.isZero_iff] at hzero
    rw [Except.ok.injEq, eq_comm]
    exact ⟨fun h => ⟨Nat.pos_of_ne_zero hzero, h⟩, fun h => h.2⟩

lemma answer_of_make (h : make interval most = .ok f) (n : Nat) :
    ((Strategy.fixed f).after n).next.1 =
      if exhausted most (tally (n + 1)) then .stop else .wait interval := by
  obtain ⟨-, rfl⟩ := make_eq_ok.mp h
  rw [Strategy.after_fixed, Strategy.next, next, bump_bumpBy, tally_eq]
  split <;> rfl

end Fixed

/-- **A limit bounds how many intervals there are, unless it is the greatest count.** A strategy
with a limit, of equal intervals or of doubling ones, hands out an interval as often as its limit
says, and no more after that. If its limit is as far as the counter goes, it never stops. -/
theorem limit_bounds_intervals (hmost : most ≠ 0) :
    (∀ interval f, Fixed.make interval most = .ok f → ∀ n,
      ((Strategy.fixed f).after n).next.1 =
        if n < most.toNat ∨ most = 4294967295 then .wait interval else .stop) ∧
    ∀ first longest b, Backoff.make first longest most = .ok b → ∀ n,
      if n < most.toNat ∨ most = 4294967295 then
        ∃ d, ((Strategy.backoff b).after n).next.1 = .wait d
      else ((Strategy.backoff b).after n).next.1 = .stop := by
  refine ⟨fun interval f h n => ?_, fun first longest b h n => ?_⟩
  · rw [Fixed.answer_of_make h]
    split
    · next hstop =>
      rw [if_neg fun hahead => ?_]
      cases hstop.symm.trans ((exhausted_eq_false hmost).mpr hahead)
    · next hgo => rw [if_pos ((exhausted_eq_false hmost).mp (by simpa using hgo))]
  · split
    · next hahead => exact (Backoff.exists_wait_iff h).mpr ((exhausted_eq_false hmost).mpr hahead)
    · next hbehind =>
      rw [← exhausted_eq_false hmost, Bool.not_eq_false] at hbehind
      rw [Backoff.answer_of_make h, Backoff.stateless_eq, if_pos hbehind]
      rfl

/-- Three intervals, and then none. -/
theorem limit_bounds_intervals_at_three :
    (3 : UInt32) ≠ 0 ∧
    ∃ f, Fixed.make (.ofMillis 50) 3 = .ok f ∧
      ((Strategy.fixed f).after 2).next.1 = .wait (.ofMillis 50) ∧
      ((Strategy.fixed f).after 3).next.1 = .stop := by
  have hmake : Fixed.make (.ofMillis 50) 3 = .ok ⟨.ofMillis 50, 3, 0⟩ :=
    Fixed.make_eq_ok.mpr ⟨by decide, rfl⟩
  have hthree : (3 : UInt32) ≠ 0 := by decide
  obtain ⟨hfixed, -⟩ := limit_bounds_intervals hthree
  exact ⟨hthree, _, hmake, hfixed _ _ hmake 2, hfixed _ _ hmake 3⟩

/-- After as many intervals as the greatest limit allows there is one more. -/
theorem greatest_limit_exceeded :
    ∃ f, Fixed.make .longest 4294967295 = .ok f ∧
      ((Strategy.fixed f).after 4294967295).next.1 = .wait .longest := by
  have hmake : Fixed.make .longest 4294967295 = .ok ⟨.longest, 4294967295, 0⟩ :=
    Fixed.make_eq_ok.mpr ⟨by decide, rfl⟩
  refine ⟨_, hmake, ?_⟩
  have hahead : exhausted 4294967295 (tally (4294967295 + 1)) = false :=
    (exhausted_eq_false (by decide)).mpr (.inr rfl)
  rw [Fixed.answer_of_make hmake, hahead]
  rfl

end LeaseLock.Retry
