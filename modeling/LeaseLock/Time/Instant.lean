import LeaseLock.Time.Span

/-!
# Instants

An instant is a `Nat`, the number of nanoseconds since the clock started. The clock itself
ends: an instant `2 ^ 63 - 1` seconds or more after the start does not exist, and an
operation that would need it fails. A timer is not bound by that: it fires at the first whole
millisecond at or after its due instant, which may be one that the clock never comes to.

That is a limit of what is said here. A runtime may let a timer whose due instant the clock
cannot name fire some thirty years after it was set. Nothing of the kind is known here, so that
what is said of such waits is meant for the years before.
-/

namespace LeaseLock.Instant

/-- The first instant that the clock cannot name. -/
abbrev limit : Nat := 9223372036854775807 * 1000000000

/-- The instant `d` after `t`, if the clock can name it. -/
def after? (t : Nat) (d : Span) : Option Nat :=
  if t + d.nanos < limit then some (t + d.nanos) else none

/-- What an operation says that needs an instant that the clock cannot name. -/
def overflowText : String := "overflow when adding duration to instant"

theorem after?_eq_some {t u : Nat} {d : Span} :
    after? t d = some u ↔ t + d.nanos < limit ∧ u = t + d.nanos := by
  unfold after?
  split
  · simp_all [eq_comm]
  · simp only [reduceCtorEq, false_iff]
    omega

theorem after?_eq_none {t : Nat} {d : Span} : after? t d = none ↔ limit ≤ t + d.nanos := by
  unfold after?
  split <;> simp_all

/-- The first whole millisecond at or after `t`. -/
def roundUp (t : Nat) : Nat := (t + 999999) / 1000000 * 1000000

theorem le_roundUp (t : Nat) : t ≤ roundUp t := by
  unfold roundUp
  omega

theorem roundUp_lt (t : Nat) : roundUp t < t + 1000000 := by
  unfold roundUp
  omega

theorem roundUp_mono {t u : Nat} (h : t ≤ u) : roundUp t ≤ roundUp u := by
  unfold roundUp
  omega

/-- Whole milliseconds stay outside of the rounding. -/
theorem roundUp_add {t : Nat} (h : 1000000 ∣ t) (d : Nat) : roundUp (t + d) = t + roundUp d := by
  obtain ⟨k, rfl⟩ := h
  unfold roundUp
  omega

/-- When a timer set at `t` for `d` fires, also where the clock cannot name that instant. -/
def timer (t : Nat) (d : Span) : Nat := roundUp (t + d.nanos)

theorem le_timer (t : Nat) (d : Span) : t ≤ timer t d :=
  Nat.le_trans (Nat.le_add_right _ _) (le_roundUp _)

theorem timer_mono {t u : Nat} (h : t ≤ u) (d : Span) : timer t d ≤ timer u d :=
  roundUp_mono (Nat.add_le_add_right h _)

end LeaseLock.Instant
