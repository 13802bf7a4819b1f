import LeaseLock.Retry.Strategy

/-!
# Streaks

Asking a strategy very often. Counters of 32 bits go so far that counting one by one takes long,
but the answers of a strategy seldom change, and a streak of equal ones can be taken at once.
-/

namespace LeaseLock.Retry

/-- How many of the next `n` counts are on the same side of the limit as the first of them. -/
def alike (most asked : UInt32) (n : Nat) : Nat :=
  if exhausted most (bump asked) ∨ most = 0 ∨ most = 4294967295 then n
  else min n (most.toNat - asked.toNat)

theorem alike_le (most asked : UInt32) (n : Nat) : alike most asked n ≤ n := by
  unfold alike
  split
  · exact Nat.le_refl n
  · exact Nat.min_le_left ..

theorem alike_pos (most asked : UInt32) {n : Nat} (h : 0 < n) : 0 < alike most asked n := by
  unfold alike
  split
  · exact h
  · next hopen =>
    have hzero : most.toNat ≠ 0 := fun e => hopen (.inr (.inl (UInt32.toNat.inj e)))
    have hgreatest : most.toNat ≠ 4294967295 := fun e => hopen (.inr (.inr (UInt32.toNat.inj e)))
    have hnext : ¬ most.toNat < (bump asked).toNat := fun hpast =>
      hopen (.inl (exhausted_iff.mpr ⟨hzero, hpast⟩))
    have hlt := most.toNat_lt
    rw [toNat_bump] at hnext
    omega

/-- Adds `n` equal answers. -/
def Tally.addTimes (t : Tally) (a : Answer) (n : Nat) : Tally :=
  if n = 0 then t
  else match t.broken, a with
    | some _, _ => t
    | none, .wait d => { t with
        last := some d
        intervals := t.intervals + n
        total := t.total.bind fun sum => Span.ofNanos? (sum.nanos + d.nanos * n) }
    | none, .stop => { t with last := none }
    | none, .broken text => { t with broken := some text }

namespace Strategy

/-- How many of the next `n` answers are sure to be like the first of them. -/
def streak (s : Strategy) (n : Nat) : Nat :=
  match s with
  | never => n
  | fixed f => alike f.most f.asked n
  | backoff b =>
    if b.capped ∨ exhausted b.most (bump b.asked) then alike b.most b.asked n else min n 1
  | custom .. => min n 1

theorem streak_le (s : Strategy) (n : Nat) : s.streak n ≤ n := by
  unfold streak
  split
  · exact Nat.le_refl n
  · exact alike_le ..
  · split
    · exact alike_le ..
    · exact Nat.min_le_left ..
  · exact Nat.min_le_left ..

theorem streak_pos (s : Strategy) {n : Nat} (h : 0 < n) : 0 < s.streak n := by
  unfold streak
  split
  · exact h
  · exact alike_pos _ _ h
  · split
    · exact alike_pos _ _ h
    · exact Nat.lt_min.mpr ⟨h, Nat.one_pos⟩
  · exact Nat.lt_min.mpr ⟨h, Nat.one_pos⟩

/-- The strategy after a streak of `n` answers. -/
def leap (s : Strategy) (n : Nat) : Strategy :=
  match s with
  | never => never
  | fixed f => fixed { f with asked := bumpBy f.asked n }
  | backoff b => backoff { b.next.2 with asked := bumpBy b.asked n }
  | custom answers asked => custom answers (asked + n)

/-- Asks `n` more times, one streak after another. -/
def tallyFrom (t : Tally) (s : Strategy) (n : Nat) : Tally × Strategy :=
  if _h : 0 < n then
    tallyFrom (t.addTimes s.next.1 (s.streak n)) (s.leap (s.streak n)) (n - s.streak n)
  else (t, s)
termination_by n
decreasing_by
  have := s.streak_pos _h
  omega

/-- Asks `n` times, like `tally`, but one streak after another. -/
def tallyByStreaks (s : Strategy) (n : Nat) : Tally × Strategy := tallyFrom .start s n

end Strategy
end LeaseLock.Retry
