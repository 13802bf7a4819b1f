import Mathlib.Tactic.Common
import LeaseLock.Proofs.Retry.Answers
import LeaseLock.Retry.Streak

/-!
Asking by streaks.

The answers of a streak are equal, and after it the strategy is where it is after as many single
answers; so a tally by streaks is the tally of one answer after another.
-/

namespace LeaseLock

open Retry

namespace Retry

/-! ### The counter -/

/-- Within a stretch of counts that are alike the limit is passed at all of them or at none. -/
lemma exhausted_of_alike {most asked : UInt32} {n i : Nat} (h : i < alike most asked n) :
    exhausted most (bumpBy asked (i + 1)) = exhausted most (bump asked) := by
  have hlt := most.toNat_lt
  rw [Bool.eq_iff_iff, exhausted_iff, exhausted_iff, toNat_bumpBy, toNat_bump]
  unfold alike at h
  split at h
  · next hclosed =>
    rcases hclosed with hpast | rfl | rfl
    · rw [exhausted_iff, toNat_bump] at hpast
      omega
    · simp
    · have hgreatest : (4294967295 : UInt32).toNat = 4294967295 := rfl
      omega
  · omega

/-! ### The tally -/

namespace Tally

/-- Sums that were too long stay so. -/
lemma ofNanos?_bind_add? (m : Nat) (d : Span) :
    ((Span.ofNanos? m).bind fun sum => sum.add? d) = Span.ofNanos? (m + d.nanos) := by
  by_cases hm : m < Span.limit
  · rw [Span.ofNanos?, dif_pos hm, Option.bind_some, Span.add?]
  · have hmore : ¬ m + d.nanos < Span.limit := fun h =>
      hm (Nat.lt_of_le_of_lt (Nat.le_add_right ..) h)
    rw [Span.ofNanos?, dif_neg hm, Option.bind_none, Span.ofNanos?, dif_neg hmore]

lemma addTimes_succ (t : Tally) (a : Answer) (n : Nat) :
    t.addTimes a (n + 1) = (t.addTimes a n).add a := by
  obtain ⟨last, intervals, total, broken⟩ := t
  cases broken with
  | some text => cases n <;> simp [addTimes, add]
  | none =>
    cases a with
    | stop => cases n <;> simp [addTimes, add]
    | broken text => cases n <;> simp [addTimes, add]
    | wait d =>
      cases n with
      | zero => simp [addTimes, add, Span.add?]
      | succ n =>
        have hsum : (total.bind fun sum => Span.ofNanos? (sum.nanos + d.nanos * (n + 1 + 1))) =
            (total.bind fun sum => Span.ofNanos? (sum.nanos + d.nanos * (n + 1))).bind
              fun sum => sum.add? d := by
          rw [Option.bind_assoc]
          simp only [ofNanos?_bind_add?, Nat.add_assoc, ← Nat.mul_succ, Nat.succ_eq_add_one]
        simp [addTimes, add, hsum, Nat.add_assoc]

end Tally

namespace Strategy

variable {s : Strategy} {n k : Nat} {f : Fixed} {b : Backoff}

/-- Asks once more. -/
def askOnce (p : Tally × Strategy) : Tally × Strategy := (p.1.add p.2.next.1, p.2.next.2)

lemma tally_eq_repeat (s : Strategy) (n : Nat) : s.tally n = n.repeat askOnce (.start, s) := rfl

/-- Equal answers, one after another. -/
lemma repeat_askOnce {a : Answer} (h : ∀ i < k, (s.after i).next.1 = a) (t : Tally) :
    k.repeat askOnce (t, s) = (t.addTimes a k, s.after k) := by
  induction k with
  | zero => rfl
  | succ k ih =>
    rw [Nat.repeat, ih fun i hi => h i (Nat.lt_succ_of_lt hi), askOnce, h k (Nat.lt_succ_self k),
      Tally.addTimes_succ, after]

/-- The answers of a streak are equal, and it leads where they lead. -/
structure Alike (s : Strategy) (k : Nat) : Prop where
  answers : ∀ i < k, (s.after i).next.1 = s.next.1
  leads : s.after k = s.leap k

lemma alike_fixed (f : Fixed) (n : Nat) : (fixed f).Alike (alike f.most f.asked n) where
  answers i hi := by
    rw [after_fixed, next, next, Fixed.next, Fixed.next, bump_bumpBy, exhausted_of_alike hi]
  leads := after_fixed f _

/-! ### Doubling intervals -/

/-- A strategy that is through with doubling only counts. -/
lemma next_of_through (h : b.capped = true ∨ exhausted b.most (bump b.asked) = true) :
    b.next = (if exhausted b.most (bump b.asked) then none else some b.longest,
      { b with asked := bump b.asked }) := by
  simp only [Backoff.next]
  split
  · rfl
  · next hlimit => rw [if_pos (h.resolve_right hlimit)]

lemma after_of_through (h : b.capped = true ∨ exhausted b.most (bump b.asked) = true) {i : Nat}
    (hi : i ≤ alike b.most b.asked n) :
    (backoff b).after i = backoff { b with asked := bumpBy b.asked i } := by
  induction i with
  | zero => rw [after, bumpBy_zero]
  | succ i ih =>
    have hside := exhausted_of_alike hi
    rw [after, ih (Nat.le_of_succ_le hi), next, next_of_through, bump_bumpBy]
    rw [bump_bumpBy, hside]
    exact h

lemma alike_of_through (h : b.capped = true ∨ exhausted b.most (bump b.asked) = true) (n : Nat) :
    (backoff b).Alike (alike b.most b.asked n) where
  answers i hi := by
    have hside := exhausted_of_alike hi
    rw [after_of_through h (Nat.le_of_lt hi), next, next, next_of_through h, next_of_through,
      bump_bumpBy, hside]
    rw [bump_bumpBy, hside]
    exact h
  leads := by
    rw [after_of_through h (Nat.le_refl _), leap, next_of_through h]

lemma asked_next (b : Backoff) : b.next.2.asked = bump b.asked := by
  simp only [Backoff.next]
  split
  · rfl
  · split
    · rfl
    · split <;> rfl

/-- One answer is a streak. -/
lemma alike_one (s : Strategy) : s.Alike 1 where
  answers i hi := by
    obtain rfl := Nat.lt_one_iff.mp hi
    rfl
  leads := by
    cases s with
    | never | custom => rfl
    | fixed f => exact after_fixed f 1
    | backoff b =>
      have hbump : bumpBy b.asked 1 = b.next.2.asked := by
        rw [asked_next, ← bump_bumpBy, bumpBy_zero]
      rw [leap, hbump]
      rfl

lemma after_never (n : Nat) : never.after n = never := by
  induction n with
  | zero => rfl
  | succ n ih =>
    rw [after, ih]
    rfl

/-- **A streak is one.** -/
theorem alike_streak (s : Strategy) (h : 0 < n) : s.Alike (s.streak n) := by
  cases s with
  | never =>
    refine ⟨fun i _ => ?_, after_never _⟩
    rw [after_never]
  | fixed f => exact alike_fixed f n
  | backoff b =>
    simp only [streak]
    split
    · next hthrough => exact alike_of_through hthrough n
    · rw [Nat.min_eq_right h]
      exact alike_one _
  | custom answers asked =>
    rw [streak, Nat.min_eq_right h]
    exact alike_one _

/-! ### Many answers -/

lemma repeat_add {α : Type} (f : α → α) (m n : Nat) (x : α) :
    (m + n).repeat f x = m.repeat f (n.repeat f x) := by
  induction m with
  | zero => rw [Nat.zero_add]; rfl
  | succ m ih => rw [Nat.succ_add, Nat.repeat, ih, Nat.repeat]

lemma tallyFrom_eq_repeat (t : Tally) (s : Strategy) (n : Nat) :
    tallyFrom t s n = n.repeat askOnce (t, s) := by
  induction n using Nat.strongRecOn generalizing t s with
  | ind n ih =>
    rw [tallyFrom]
    split
    · next hpos =>
      have hle := s.streak_le n
      have hstreak := alike_streak s hpos
      rw [ih _ (Nat.sub_lt hpos (s.streak_pos hpos)), ← hstreak.leads,
        ← repeat_askOnce hstreak.answers, ← repeat_add, Nat.sub_add_cancel hle]
    · next hzero =>
      obtain rfl := Nat.eq_zero_of_not_pos hzero
      rfl

/-- **A tally by streaks is the tally of one answer after another.** -/
theorem tallyByStreaks_eq_tally (s : Strategy) (n : Nat) : s.tallyByStreaks n = s.tally n := by
  rw [tallyByStreaks, tallyFrom_eq_repeat, tally_eq_repeat]

end Strategy

end Retry

end LeaseLock
