/-!
# Counters that Stop

A counter of 32 bits that stays at its greatest value, and the limit that a strategy sets on
it. A limit of zero is none.
-/

namespace LeaseLock.Retry

/-- The next count, if there is one. -/
def bump (n : UInt32) : UInt32 := if n = 4294967295 then n else n + 1

theorem toNat_bump (n : UInt32) : (bump n).toNat = min (n.toNat + 1) 4294967295 := by
  unfold bump
  have hn := n.toNat_lt
  split
  · next h => simp [h]
  · next h =>
    have h' : n.toNat ≠ 4294967295 := fun e => h (UInt32.toNat.inj e)
    rw [UInt32.toNat_add]
    have : (1 : UInt32).toNat = 1 := rfl
    omega

/-- The count `k` after `n`, if the counter goes that far. -/
def bumpBy (n : UInt32) (k : Nat) : UInt32 := UInt32.ofNat (min (n.toNat + k) 4294967295)

theorem toNat_bumpBy (n : UInt32) (k : Nat) :
    (bumpBy n k).toNat = min (n.toNat + k) 4294967295 := by
  refine UInt32.toNat_ofNat_of_lt' ?_
  simp only [UInt32.size]
  omega

@[simp] theorem bumpBy_zero (n : UInt32) : bumpBy n 0 = n := by
  have hn := n.toNat_lt
  refine UInt32.toNat.inj ?_
  rw [toNat_bumpBy]
  omega

theorem bump_bumpBy (n : UInt32) (k : Nat) : bump (bumpBy n k) = bumpBy n (k + 1) := by
  refine UInt32.toNat.inj ?_
  rw [toNat_bump, toNat_bumpBy, toNat_bumpBy]
  omega

/-- Whether count `n` is beyond the limit `most`. -/
def exhausted (most n : UInt32) : Bool := 0 < most && most < n

theorem exhausted_iff {most n : UInt32} :
    exhausted most n = true ↔ most.toNat ≠ 0 ∧ most.toNat < n.toNat := by
  simp [exhausted, UInt32.lt_iff_toNat_lt, Nat.pos_iff_ne_zero]

end LeaseLock.Retry
