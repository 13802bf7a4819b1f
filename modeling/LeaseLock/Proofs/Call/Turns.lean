import Mathlib.Tactic.Common
import LeaseLock.Call.Acquisition
import LeaseLock.Call.Errand
import LeaseLock.Call.Renewal

/-!
The turns that calls can take.

For each of the three machines, `Took` lists every turn with what it needs of the stage and of
the glimpse. Proofs about tasks look at turns only through the theorems `turn_took`.
-/

namespace LeaseLock

/-- Every way in which a request with a deadline can fail; `refusal` is what it is to be
refused. -/
inductive Glimpse.Fails (g : Glimpse) (refusal : LockError) (deadline : Nat) : LockError → Prop
  | refused (response : g.response = some (.granted false)) : Fails g refusal deadline refusal
  | failed (e : LockError) (response : g.response = some (.failed e)) :
      Fails g refusal deadline e
  | late (response : g.response = none) (due : deadline ≤ g.now) :
      Fails g refusal deadline .timeout

namespace Errand

/-- Every turn of an errand. -/
inductive Took (e : Errand) (g : Glimpse) : Turn Errand (Option Grant) → Prop
  | signalled (lease : Lease) (kind : e.kind = .unlock lease) (stage : e.stage = .fresh) :
      Took e g (.fire { e with stage := .ready } lease.stop)
  | asked (stage : e.stage = .ready ∨ (e.stage = .fresh ∧ ∀ lease, e.kind ≠ .unlock lease)) :
      Took e g (.ask { e with stage := .asked g.fresh } (request e.kind g.fresh))
  | waited (token : Token) (stage : e.stage = .asked token) (response : g.response = none) :
      Took e g .rest
  | granted (token : Token) (stage : e.stage = .asked token)
      (response : g.response = some (.granted true)) :
      Took e g (.fin (.ok (Errand.granted e.kind token)))
  | refused (token : Token) (stage : e.stage = .asked token)
      (response : g.response = some (.granted false)) :
      Took e g (.fin (.failed (Errand.refused e.kind)))
  | failed (token : Token) (error : LockError) (stage : e.stage = .asked token)
      (response : g.response = some (.failed error)) : Took e g (.fin (.failed error))
  | broke (token : Token) (text : String) (stage : e.stage = .asked token)
      (response : g.response = some (.broken text)) : Took e g (.fin (.broken text))

theorem turn_took (e : Errand) (g : Glimpse) : e.Took g (e.turn g) := by
  unfold turn
  split
  · next hs =>
    split
    · next lease hk => exact .signalled lease hk hs
    all_goals
      next hk => exact .asked (.inr ⟨hs, fun lease hl => by rw [hk] at hl; cases hl⟩)
  · next hs => exact .asked (.inl hs)
  · next token hs =>
    split
    · next hr => exact .waited token hs hr
    · next hr => exact .granted token hs hr
    · next hr => exact .refused token hs hr
    · next error hr => exact .failed token error hs hr
    · next text hr => exact .broke token text hs hr

end Errand

namespace Acquisition

/-- Every turn of an acquisition. -/
inductive Took (a : Acquisition) (g : Glimpse) : Turn Acquisition Grant → Prop
  | cancelled (fired : g.fired = true) : Took a g (.fin (.failed .cancelled))
  | asked (fired : g.fired = false) (stage : a.stage = .ready) :
      Took a g (.ask { a with
          attempts := Retry.bump a.attempts
          stage := .asking g.fresh (Instant.timer g.now a.timeout) }
        (.acquire a.key g.fresh a.ttl))
  | waited (token : Token) (deadline : Nat) (fired : g.fired = false)
      (stage : a.stage = .asking token deadline) (response : g.response = none)
      (early : g.now < deadline) : Took a g .rest
  | granted (token : Token) (deadline : Nat) (fired : g.fired = false)
      (stage : a.stage = .asking token deadline)
      (response : g.response = some (.granted true)) :
      Took a g (.fin (.ok ⟨a.key, token, a.ttl⟩))
  | broke (token : Token) (deadline : Nat) (text : String) (fired : g.fired = false)
      (stage : a.stage = .asking token deadline)
      (response : g.response = some (.broken text)) : Took a g (.fin (.broken text))
  | fatal (token : Token) (deadline : Nat) (e : LockError) (fired : g.fired = false)
      (stage : a.stage = .asking token deadline)
      (fails : g.Fails (.acquireFailed a.key) deadline e) (retryable : e.isRetryable = false) :
      Took a g (.fin (.failed e))
  | retried (token : Token) (deadline : Nat) (e : LockError) (d : Span)
      (strategy : Retry.Strategy) (fired : g.fired = false)
      (stage : a.stage = .asking token deadline)
      (fails : g.Fails (.acquireFailed a.key) deadline e) (retryable : e.isRetryable = true)
      (next : a.strategy.next = (.wait d, strategy)) :
      Took a g (.go { a with strategy, stage := .resting (Instant.timer g.now d) })
  | exhausted (token : Token) (deadline : Nat) (e : LockError) (strategy : Retry.Strategy)
      (fired : g.fired = false) (stage : a.stage = .asking token deadline)
      (fails : g.Fails (.acquireFailed a.key) deadline e) (retryable : e.isRetryable = true)
      (next : a.strategy.next = (.stop, strategy)) :
      Took a g (.fin (.failed (.retriesExhausted a.attempts.toNat e)))
  | gaveOut (token : Token) (deadline : Nat) (e : LockError) (text : String)
      (strategy : Retry.Strategy) (fired : g.fired = false)
      (stage : a.stage = .asking token deadline)
      (fails : g.Fails (.acquireFailed a.key) deadline e) (retryable : e.isRetryable = true)
      (next : a.strategy.next = (.broken text, strategy)) : Took a g (.fin (.broken text))
  | slept (wake : Nat) (fired : g.fired = false) (stage : a.stage = .resting wake)
      (early : g.now < wake) : Took a g .rest
  | woke (wake : Nat) (fired : g.fired = false) (stage : a.stage = .resting wake)
      (due : wake ≤ g.now) : Took a g (.go { a with stage := .ready })

variable {a : Acquisition} {g : Glimpse}

lemma took_afterFailure {token : Token} {deadline : Nat} {e : LockError}
    (hf : g.fired = false) (hs : a.stage = .asking token deadline)
    (he : g.Fails (.acquireFailed a.key) deadline e) :
    a.Took g (a.afterFailure g.now e) := by
  unfold afterFailure
  split
  · next hr =>
    split
    · next d strategy hn => exact .retried token deadline e d strategy hf hs he hr hn
    · next strategy hn => exact .exhausted token deadline e strategy hf hs he hr hn
    · next text strategy hn => exact .gaveOut token deadline e text strategy hf hs he hr hn
  · next hr => exact .fatal token deadline e hf hs he (by simpa using hr)

/-- What a failed attempt leads to, by the answer of the strategy. -/
lemma afterFailure_of_next {e : LockError} (he : e.isRetryable = true)
    (now : Nat) {answer : Retry.Answer} {s : Retry.Strategy} :
    a.strategy.next = (answer, s) → a.afterFailure now e =
      match answer with
      | .wait d => .go { a with strategy := s, stage := .resting (Instant.timer now d) }
      | .stop => .fin (.failed (.retriesExhausted a.attempts.toNat e))
      | .broken text => .fin (.broken text) := by
  intro h
  rw [afterFailure, if_pos he, h]
  cases answer <;> rfl

theorem turn_took (a : Acquisition) (g : Glimpse) : a.Took g (a.turn g) := by
  unfold turn
  split
  · next hf => exact .cancelled hf
  · next hf =>
    have hf : g.fired = false := by simpa using hf
    split
    · next hs => exact .asked hf hs
    · next token deadline hs =>
      split
      · next hr => exact .granted token deadline hf hs hr
      · next hr => exact took_afterFailure hf hs (.refused hr)
      · next e hr => exact took_afterFailure hf hs (.failed e hr)
      · next text hr => exact .broke token deadline text hf hs hr
      · next hr =>
        split
        · next hd => exact took_afterFailure hf hs (.late hr hd)
        · next hd => exact .waited token deadline hf hs hr (by omega)
    · next wake hs =>
      split
      · next hw => exact .woke wake hf hs hw
      · next hw => exact .slept wake hf hs (by omega)

end Acquisition

namespace Renewal

/-- Every turn of a renewal. -/
inductive Took (r : Renewal) (g : Glimpse) : Turn Renewal Unit → Prop
  | invalid (stage : r.stage = .fresh) (zero : r.interval.isZero = true) :
      Took r g (.fin (.failed (.invalidConfig (.interval r.interval))))
  | begun (due : Nat) (stage : r.stage = .fresh) (zero : r.interval.isZero = false)
      (after : Instant.after? g.now r.interval = some due) :
      Took r g (.go { r with stage := .ticking due })
  | overflowed (stage : r.stage = .fresh) (zero : r.interval.isZero = false)
      (after : Instant.after? g.now r.interval = none) :
      Took r g (.fin (.broken Instant.overflowText))
  | stopped (due : Nat) (stage : r.stage = .ticking due ∨ r.stage = .repeating due)
      (fired : g.fired = true) : Took r g (.fin (.ok ()))
  | ticked (due : Nat) (stage : r.stage = .ticking due) (fired : g.fired = false)
      (hdue : Instant.roundUp due ≤ g.now) :
      Took r g (r.ask g.now (nextDue r.interval due g.now))
  | slept (due : Nat) (stage : r.stage = .ticking due) (fired : g.fired = false)
      (early : g.now < Instant.roundUp due) : Took r g .rest
  | repeated (due : Nat) (stage : r.stage = .repeating due) (fired : g.fired = false) :
      Took r g (r.ask g.now due)
  | waited (due deadline : Nat) (stage : r.stage = .asking due deadline)
      (response : g.response = none) (early : g.now < deadline) : Took r g .rest
  | granted (due deadline : Nat) (stage : r.stage = .asking due deadline)
      (response : g.response = some (.granted true)) :
      Took r g (.go { r with stage := .ticking due })
  | broke (due deadline : Nat) (text : String) (stage : r.stage = .asking due deadline)
      (response : g.response = some (.broken text)) : Took r g (.fin (.broken text))
  | late (due deadline : Nat) (e : LockError) (stage : r.stage = .asking due deadline)
      (fails : g.Fails .notHeld deadline e) (timeout : e.isTimeout = true) :
      Took r g (.go { r with stage := .repeating due })
  | excused (due deadline : Nat) (e : LockError) (stage : r.stage = .asking due deadline)
      (fails : g.Fails .notHeld deadline e) (timeout : e.isTimeout = false)
      (fired : g.fired = true) : Took r g (.fin (.ok ()))
  | failed (due deadline : Nat) (e : LockError) (stage : r.stage = .asking due deadline)
      (fails : g.Fails .notHeld deadline e) (timeout : e.isTimeout = false)
      (fired : g.fired = false) : Took r g (.fin (.failed e))

variable {r : Renewal} {g : Glimpse}

lemma took_afterFailure {due deadline : Nat} {e : LockError}
    (hs : r.stage = .asking due deadline) (he : g.Fails .notHeld deadline e) :
    r.Took g (r.afterFailure g.fired due e) := by
  unfold afterFailure
  split
  · next ht => exact .late due deadline e hs he ht
  · next ht =>
    have ht : e.isTimeout = false := by simpa using ht
    split
    · next hf => exact .excused due deadline e hs he ht hf
    · next hf => exact .failed due deadline e hs he ht (by simpa using hf)

theorem turn_took (r : Renewal) (g : Glimpse) : r.Took g (r.turn g) := by
  unfold turn
  split
  · next hs =>
    split
    · next hz => exact .invalid hs hz
    · next hz =>
      have hz : r.interval.isZero = false := (Bool.not_eq_true _).mp hz
      split
      · next due ha => exact .begun due hs hz ha
      · next ha => exact .overflowed hs hz ha
  · next due hs =>
    split
    · next hf => exact .stopped due (.inl hs) hf
    · next hf =>
      have hf : g.fired = false := by simpa using hf
      split
      · next hd => exact .ticked due hs hf hd
      · next hd => exact .slept due hs hf (by omega)
  · next due hs =>
    split
    · next hf => exact .stopped due (.inr hs) hf
    · next hf => exact .repeated due hs (by simpa using hf)
  · next due deadline hs =>
    split
    · next hr => exact .granted due deadline hs hr
    · next hr => exact took_afterFailure hs (.refused hr)
    · next e hr => exact took_afterFailure hs (.failed e hr)
    · next text hr => exact .broke due deadline text hs hr
    · next hr =>
      split
      · next hd => exact took_afterFailure hs (.late hr hd)
      · next hd => exact .waited due deadline hs hr (by omega)

end Renewal
end LeaseLock
