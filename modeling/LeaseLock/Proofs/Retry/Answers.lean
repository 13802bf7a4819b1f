import Mathlib.Tactic.Common
import LeaseLock.Retry.Strategy
import LeaseLock.Time.Instant

/-!
The answers of a retry strategy, one after another.

`HandsOut` says that a strategy answers with a list of intervals and then gives up, `Lasts` that it
does not break down. `due` says when the attempts come if they take no time, `tally` how their
counter stands, and `latestStart` how long attempts and waits take that follow a list.
-/

namespace LeaseLock

/-! ### The counter of attempts -/

/-- How the counter of attempts stands after `n` of them. -/
def Retry.tally : Nat → UInt32
  | 0 => 0
  | n + 1 => bump (tally n)

lemma Retry.tally_eq (n : Nat) : tally n = bumpBy 0 n := by
  induction n with
  | zero => rfl
  | succ n ih => rw [tally, ih, bump_bumpBy]

lemma Retry.toNat_tally (n : Nat) : (tally n).toNat = min n 4294967295 := by
  rw [tally_eq, toNat_bumpBy, UInt32.toNat_zero, Nat.zero_add]

/-! ### What the strategy answers -/

namespace Retry.Strategy

/-- The strategy after it was asked `n` times. -/
def after (s : Strategy) : Nat → Strategy
  | 0 => s
  | n + 1 => (s.after n).next.2

/-- Whether the strategy hands out just these intervals, and then gives up. -/
def HandsOut (s : Strategy) (ds : List Span) : Prop :=
  ∀ n ≤ ds.length, (s.after n).next.1 = (ds[n]?).elim .stop .wait

lemma HandsOut.cases {s : Strategy} {ds : List Span} (h : s.HandsOut ds) {n : Nat}
    (hn : n ≤ ds.length) :
    (∃ d, ds[n]? = some d ∧ (s.after n).next.1 = .wait d) ∨
      (n = ds.length ∧ (s.after n).next.1 = .stop) := by
  have hanswer := h n hn
  cases hd : ds[n]? with
  | none =>
    have hle : ds.length ≤ n := List.getElem?_eq_none_iff.mp hd
    exact .inr ⟨Nat.le_antisymm hn hle, by rw [hanswer, hd, Option.elim_none]⟩
  | some d => exact .inl ⟨d, rfl, by rw [hanswer, hd, Option.elim_some]⟩

lemma after_custom (answers : Nat → Answer) (asked n : Nat) :
    (custom answers asked).after n = custom answers (asked + n) := by
  induction n with
  | zero => rfl
  | succ n ih =>
    rw [after, ih]
    rfl

lemma after_fixed (f : Fixed) (n : Nat) :
    (fixed f).after n = fixed { f with asked := bumpBy f.asked n } := by
  induction n with
  | zero => rw [after, bumpBy_zero]
  | succ n ih => rw [after, ih, next, Fixed.next, ← bump_bumpBy]

lemma handsOut_ofList (ds : List Span) : (ofList ds .stop).HandsOut ds := by
  intro n _
  rw [ofList, after_custom, Nat.zero_add]
  rfl

lemma after_succ (s : Strategy) (n : Nat) : s.after (n + 1) = s.next.2.after n := by
  induction n with
  | zero => rfl
  | succ n ih => rw [after, ih, ← after]

/-- What is left to hand out after the first interval. -/
lemma HandsOut.next {s s' : Strategy} {d : Span} {ds : List Span} (h : s.HandsOut ds)
    (hnext : s.next = (.wait d, s')) : ∃ rest, ds = d :: rest ∧ s'.HandsOut rest := by
  have hfirst : s.next.1 = (ds[0]?).elim .stop .wait := h 0 (Nat.zero_le _)
  rw [hnext] at hfirst
  cases ds with
  | nil => cases hfirst
  | cons d' rest =>
    cases hfirst
    refine ⟨rest, rfl, fun n hn => ?_⟩
    rw [← List.getElem?_cons_succ (a := d), ← h (n + 1) (Nat.succ_le_succ hn), after_succ, hnext]

/-- Whether the strategy does not break down if it is asked as long as it hands out intervals. -/
def Lasts (s : Strategy) : Prop :=
  ∀ n, (∀ k < n, ∃ d, (s.after k).next.1 = .wait d) → ∀ text, (s.after n).next.1 ≠ .broken text

lemma Lasts.next {s s' : Strategy} {d : Span} (h : s.Lasts) (hnext : s.next = (.wait d, s')) :
    s'.Lasts := by
  intro n hn
  have hafter (k : Nat) : s.after (k + 1) = s'.after k := by rw [after_succ, hnext]
  refine hafter n ▸ h (n + 1) fun k hk => ?_
  cases k with
  | zero => exact ⟨d, by rw [after, hnext]⟩
  | succ k => exact hafter k ▸ hn k (Nat.lt_of_succ_lt_succ hk)

lemma HandsOut.lasts {s : Strategy} {ds : List Span} (h : s.HandsOut ds) : s.Lasts := by
  intro n hn text htext
  have hle : n ≤ ds.length := by
    -- it is not asked again once it has given up
    by_contra hlt
    obtain ⟨d, hd⟩ := hn ds.length (Nat.lt_of_not_le hlt)
    obtain ⟨d', hd', -⟩ | ⟨-, hstop⟩ := h.cases (Nat.le_refl ds.length)
    · exact absurd (List.getElem?_eq_some_iff.mp hd').1 (Nat.lt_irrefl _)
    · cases hd.symm.trans hstop
  obtain ⟨d, -, hwait⟩ | ⟨-, hstop⟩ := h.cases hle
  · cases htext.symm.trans hwait
  · cases htext.symm.trans hstop

/-- Equal intervals never break down. -/
lemma lasts_fixed (f : Fixed) : (fixed f).Lasts := by
  intro n _ text htext
  rw [after_fixed, next, Fixed.next] at htext
  split at htext <;> cases htext

/-! ### Attempts that take no time -/

/-- When attempt `n`, from 0, is due if the first one is at `t`: each wait takes whole
milliseconds. -/
def due (s : Strategy) (t : Nat) : Nat → Option Nat
  | 0 => some t
  | n + 1 =>
    match (s.after n).next.1 with
    | .wait d => (s.due t n).map (· + Instant.roundUp d.nanos)
    | .stop | .broken _ => none

section due

variable {s : Strategy} {t k n first later : Nat} {d : Span}

lemma due_succ (h : s.due t n = some first) (hwait : (s.after n).next.1 = .wait d) :
    s.due t (n + 1) = some (first + Instant.roundUp d.nanos) := by
  simp [due, hwait, h]

/-- An attempt is due only after a wait. -/
lemma of_due_succ (h : s.due t (n + 1) = some later) : ∃ d first, (s.after n).next.1 = .wait d ∧
    s.due t n = some first ∧ later = first + Instant.roundUp d.nanos := by
  unfold due at h
  split at h
  · next d hwait =>
    obtain ⟨first, hdue, rfl⟩ := Option.map_eq_some_iff.mp h
    exact ⟨d, first, hwait, hdue, rfl⟩
  · cases h
  · cases h

/-- The attempts before one that is due are due, and not later. -/
lemma due_of_le (h : s.due t n = some later) (hk : k ≤ n) :
    ∃ first, s.due t k = some first ∧ first ≤ later := by
  induction n generalizing later with
  | zero =>
    obtain rfl := Nat.le_zero.mp hk
    exact ⟨later, h, Nat.le_refl _⟩
  | succ n ih =>
    obtain rfl | hlt := Nat.eq_or_lt_of_le hk
    · exact ⟨later, h, Nat.le_refl _⟩
    · obtain ⟨d, middle, -, hdue, rfl⟩ := of_due_succ h
      obtain ⟨first, hdue', hle⟩ := ih hdue (Nat.le_of_lt_succ hlt)
      exact ⟨first, hdue', Nat.le_trans hle (Nat.le_add_right ..)⟩

/-- If the first attempt is at a whole millisecond, then so are all. -/
lemma dvd_due (hwhole : 1000000 ∣ t) (h : s.due t n = some later) : 1000000 ∣ later := by
  induction n generalizing later with
  | zero =>
    cases h
    exact hwhole
  | succ n ih =>
    obtain ⟨d, first, -, hdue, rfl⟩ := of_due_succ h
    exact Nat.dvd_add (ih hdue) (Nat.dvd_mul_left ..)

end due

end Retry.Strategy

/-- When the attempt after waits for `ds` begins at the latest, if the first one began at `t` and
the call is never kept waiting. -/
def latestStart (timeout : Span) : Nat → List Span → Nat
  | t, [] => t
  | t, d :: ds => latestStart timeout (Instant.timer (Instant.timer t timeout) d) ds

section latestStart

variable (timeout : Span) (t : Nat) (ds : List Span)

lemma latestStart_append (es : List Span) : latestStart timeout t (ds ++ es) =
    latestStart timeout (latestStart timeout t ds) es := by
  induction ds generalizing t with
  | nil => rw [List.nil_append, latestStart]
  | cons d ds ih => rw [List.cons_append, latestStart, latestStart, ih]

lemma latestStart_take_succ {n : Nat} {d : Span} (h : ds[n]? = some d) :
    latestStart timeout t (ds.take (n + 1)) =
      Instant.timer (Instant.timer (latestStart timeout t (ds.take n)) timeout) d := by
  rw [List.take_add_one, h, Option.toList_some, latestStart_append, latestStart, latestStart]

lemma le_latestStart : t ≤ latestStart timeout t ds := by
  induction ds generalizing t with
  | nil => simp [latestStart]
  | cons d ds ih =>
    rw [latestStart]
    calc t ≤ Instant.timer t timeout := Instant.le_timer ..
      _ ≤ Instant.timer (Instant.timer t timeout) d := Instant.le_timer ..
      _ ≤ latestStart timeout (Instant.timer (Instant.timer t timeout) d) ds := ih _

lemma latestStart_take_le (n : Nat) :
    latestStart timeout t (ds.take n) ≤ latestStart timeout t ds := by
  have happend := latestStart_append timeout t (ds.take n) (ds.drop n)
  rw [List.take_append_drop] at happend
  rw [happend]
  exact le_latestStart ..

end latestStart

end LeaseLock
