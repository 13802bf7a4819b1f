import Mathlib.Tactic.Common
import LeaseLock.Proofs.Store.Serve
import LeaseLock.Store.Guarded
import LeaseLock.Store.Trace

/-!
Requests for an instant that no clock can name.

Statement by statement under its lock, the store in memory does what it does at one go: `step_of`.
So a request that breaks down half way has changed nothing, and gives the lock back.
-/

namespace LeaseLock

/-- The same request for another time. -/
def Request.lasting (r : Request) (d : Span) : Request :=
  match r with
  | .acquire key token _ => .acquire key token d
  | .refresh key token _ => .refresh key token d
  | .release key token => .release key token

namespace Memory

/-- Whether the store grants the request if the clock can name the instant that it is for. -/
def Grantable (m : Memory) (now : Nat) : Request → Prop
  | .acquire key token _ => ∀ owner ∈ m.holder now key, owner = token
  | .refresh key token _ | .release key token => m.holder now key = some token

instance {m : Memory} {now : Nat} {r : Request} : Decidable (m.Grantable now r) :=
  match r with
  | .acquire key token _ => inferInstanceAs (Decidable (∀ owner ∈ m.holder now key, owner = token))
  | .refresh key token _ | .release key token =>
    inferInstanceAs (Decidable (m.holder now key = some token))

/-- Every way in which a write can be answered. -/
inductive Wrote (m : Memory) (now : Nat) (r : Request) (ttl : Span) : Option Bool × Memory → Prop
  | granted {m' : Memory} (grantable : m.Grantable now r)
      (fits : now + ttl.nanos < Instant.limit) : Wrote m now r ttl (some true, m')
  | refused (other : ¬ m.Grantable now r) : Wrote m now r ttl (some false, m)
  | broke (grantable : m.Grantable now r) (full : Instant.limit ≤ now + ttl.nanos) :
      Wrote m now r ttl (none, m)

variable {m : Memory} {now : Nat} {r : Request} {key : String} {token : Token} {ttl : Span}

lemma wrote_serve (hw : r.write? = some (key, token, ttl)) :
    m.Wrote now r ttl (m.serve now r) := by
  rcases hserve : m.serve now r with ⟨answer, m'⟩
  cases served_of_serve hserve with
  | acquired free fits =>
    cases hw
    exact .granted free fits
  | refreshed own fits =>
    cases hw
    exact .granted own fits
  | taken held other => exact .refused fun free => other (free _ held)
  | stale other => exact .refused other
  | acquireOverflow free full =>
    cases hw
    exact .broke free full
  | refreshOverflow own full =>
    cases hw
    exact .broke own full
  | released | foreign | swept => cases hw

lemma grantable_lasting {d : Span} : m.Grantable now (r.lasting d) ↔ m.Grantable now r := by
  cases r <;> rfl

end Memory

lemma Request.write?_lasting {r : Request} {key : String} {token : Token} {ttl : Span}
    (hw : r.write? = some (key, token, ttl)) (d : Span) :
    (r.lasting d).write? = some (key, token, d) := by
  cases r with
  | acquire | refresh =>
    cases hw
    rfl
  | release => cases hw

/-! ### Statement by statement and at one go -/

namespace Guarded

namespace Section

variable {α : Type} {m : Memory} {now : Nat} {key : String} {token : Token} {ttl : Span}

lemma run_get_bind (body : Memory → Section α) : (get >>= body).run m = (body m).run m := rfl

lemma run_map {β : Type} (f : α → β) (body : Section α) :
    (f <$> body).run m = ((body.run m).1.map f, (body.run m).2) := by
  rw [OptionT.run_map]
  rfl

/-- The deadline comes before the change, so without one there is no change. -/
lemma run_write : (do
      let expires ← deadline now ttl
      modify fun m => ⟨m.entries.put key ⟨token, expires⟩⟩
      return true : Section Bool).run m = m.write now key token ttl := by
  unfold deadline Memory.write
  cases Instant.after? now ttl <;> rfl

lemma run_acquire : (acquire now key token ttl).run m = m.serve now (.acquire key token ttl) := by
  rw [acquire, run_get_bind, Memory.serve, Memory.live?]
  cases m.entries.find? key with
  | none => exact run_write
  | some e =>
    by_cases hl : e.isLive now
    · by_cases ht : e.token = token
      · simpa [hl, ht, Option.filter] using run_write
      · have hother : (e.token != token) = true := bne_iff_ne.mpr ht
        simp only [hl, ht, hother, Option.filter, Option.any_some, Bool.and_self, if_true, if_false]
        rfl
    · simpa [hl, Option.filter] using run_write

lemma run_refresh : (refresh now key token ttl).run m = m.serve now (.refresh key token ttl) := by
  rw [refresh, run_get_bind, Memory.serve, Memory.live?]
  cases m.entries.find? key with
  | none => rfl
  | some e =>
    by_cases hl : e.isLive now
    · by_cases ht : e.token = token
      · subst ht
        simpa [hl, Option.filter] using run_write
      · have hother : (e.token == token) = false := beq_eq_false_iff_ne.mpr ht
        simp only [hl, ht, hother, Option.filter, Bool.and_false, Bool.false_eq_true, if_true,
          if_false]
        rfl
    · simp only [hl, Option.filter, Bool.false_and, Bool.false_eq_true, if_false]
      rfl

lemma run_release : (release now key token).run m = m.serve now (.release key token) := by
  rw [release, run_get_bind, Memory.serve]
  cases m.entries.find? key with
  | none => rfl
  | some e =>
    by_cases hl : e.isLive now
    · by_cases ht : e.token = token
      · simp only [hl, ht, Bool.not_true, Bool.false_eq_true, if_true, if_false]
        rfl
      · simp only [hl, ht, Bool.not_true, Bool.false_eq_true, if_false]
        rfl
    · simp only [hl, Bool.not_false, if_true]
      rfl

/-- **Statement by statement, a request is served as it is at one go.** -/
theorem run_ofRequest (m : Memory) (now : Nat) (r : Request) :
    (ofRequest now r).run m = m.serve now r := by
  cases r with
  | acquire => exact run_acquire
  | refresh => exact run_refresh
  | release => exact run_release

end Section

/-- A store whose lock is free. -/
def free (c : ClockedMemory) : Guarded := ⟨c.now, c.memory, false⟩

/-- An operation that finds the lock free gives it back, also if it breaks down. -/
lemma call_free (c : ClockedMemory) (body : Section Reply) :
    (free c).call body = some ((body.run c.memory).1.getD .overflow,
      free { c with memory := (body.run c.memory).2 }) := rfl

variable {c : ClockedMemory}

/-- **A move comes to the same, statement by statement and at one go.** -/
theorem step_free (c : ClockedMemory) (m : Move) :
    (free c).step m = some ((c.step m).1, free (c.step m).2) := by
  cases m with
  | request r =>
    have hrun : (Section.ofRequest (free c).now r).run c.memory = c.memory.serve c.now r :=
      Section.run_ofRequest ..
    rw [step, call_free, Section.run_map, hrun]
    cases h : (c.memory.serve c.now r).1 <;> simp [ClockedMemory.step, h]
  | expire | holder | remaining | advance => rfl

lemma answers_free (c : ClockedMemory) (moves : List Move) :
    (free c).answers moves = some (Trace.answers ClockedMemory.step c moves) := by
  induction moves generalizing c with
  | nil => rfl
  | cons m moves ih => simp [answers, step_free, Trace.answers, ih]

lemma run_free (c : ClockedMemory) (moves : List Move) :
    (free c).run moves = some (free (Trace.final ClockedMemory.step c moves)) := by
  induction moves generalizing c with
  | nil => rfl
  | cons m moves ih =>
    rw [run, List.foldlM_cons, step_free]
    exact ih _

/-! ### A write for ever -/

variable {r : Request} {key : String} {token : Token} {ttl : Span}

/-- A write is granted, or refused, or it breaks down; in the last two cases the store is what it
was, and its lock is free. -/
lemma step_write (c : ClockedMemory) (hw : r.write? = some (key, token, ttl)) :
    (c.memory.Grantable c.now r ∧ c.now + ttl.nanos < Instant.limit ∧
      ∃ s, (free c).step (.request r) = some (.granted true, s)) ∨
    (¬ c.memory.Grantable c.now r ∧
      (free c).step (.request r) = some (.granted false, free c)) ∨
    (c.memory.Grantable c.now r ∧ Instant.limit ≤ c.now + ttl.nanos ∧
      (free c).step (.request r) = some (.overflow, free c)) := by
  have hwrote : c.memory.Wrote c.now r ttl (c.memory.serve c.now r) := Memory.wrote_serve hw
  simp only [step_free, ClockedMemory.step]
  generalize c.memory.serve c.now r = served at hwrote ⊢
  cases hwrote with
  | granted grantable fits => exact .inl ⟨grantable, fits, _, rfl⟩
  | refused other => exact .inr (.inl ⟨other, rfl⟩)
  | broke grantable full => exact .inr (.inr ⟨grantable, full, rfl⟩)

/-- **A write for an instant that no clock can name leaves the store intact.** At every state that
the store can come to, it is refused if it would not be granted anyway: that is, an acquire of a key
that somebody else holds, and a refresh by anybody but the holder. Otherwise, which is to say if it
would be granted for a time that fits, it breaks down half way. In both cases the table is as it was
and the lock is free, so that all later moves are answered, and as if the write had not been made. -/
theorem overflow_leaves_store_intact {moves : List Move} {s : Guarded}
    (hs : start.run moves = some s) (hw : r.write? = some (key, token, ttl))
    (full : Instant.limit ≤ s.now + ttl.nanos) :
    let reply : Reply := if s.memory.Grantable s.now r then .overflow else .granted false
    s.step (.request r) = some (reply, s) ∧ s.taken = false ∧
    (∀ d, s.now + d.nanos < Instant.limit → (s.memory.Grantable s.now r ↔
      ∃ s', s.step (.request (r.lasting d)) = some (.granted true, s'))) ∧
    ∀ later, ∃ replies, s.answers later = some replies ∧
      s.answers (.request r :: later) = some (reply :: replies) := by
  intro reply
  obtain ⟨c, rfl⟩ : ∃ c, s = free c := ⟨_, Option.some.inj (hs.symm.trans (run_free .start moves))⟩
  have hstep : (free c).step (.request r) = some (reply, free c) := by
    rcases step_write c hw with ⟨-, hlt, -⟩ | ⟨hother, h⟩ | ⟨hgrantable, -, h⟩
    · exact absurd hlt (Nat.not_lt.mpr full)
    · exact h.trans (by rw [show reply = .granted false from if_neg hother])
    · exact h.trans (by rw [show reply = .overflow from if_pos hgrantable])
  refine ⟨hstep, rfl, fun d hfits => ?_, fun later => ⟨_, answers_free c later, ?_⟩⟩
  · -- with a time that fits, nothing but the holder of the key decides
    rcases step_write c (Request.write?_lasting hw d) with ⟨hgrantable, -, h⟩ | ⟨hother, h⟩ |
      ⟨-, hge, -⟩
    · exact iff_of_true (Memory.grantable_lasting.mp hgrantable) h
    · refine iff_of_false (mt Memory.grantable_lasting.mpr hother) ?_
      rintro ⟨s', hs'⟩
      cases h.symm.trans hs'
    · exact absurd hfits (Nat.not_lt.mpr hge)
  · simp [answers, hstep, answers_free]

/-- The owner of a key refreshes it for ever, and somebody else asks for it for ever; a nanosecond
later it is free all the same. -/
theorem overflow_leaves_store_intact_in_turn :
    let a : Token := .named "a"
    let b : Token := .named "b"
    let moves := [.request (.acquire "k" a (.ofNanos 5)), .advance (.ofNanos 4)]
    let s : Guarded := ⟨4, ⟨⟨[("k", ⟨a, 5⟩)]⟩⟩, false⟩
    let later := [.remaining "k", .advance (.ofNanos 1), .request (.acquire "k" b (.ofNanos 7))]
    start.run moves = some s ∧ Instant.limit ≤ s.now + Span.longest.nanos ∧
    s.step (.request (.acquire "k" b .longest)) = some (.granted false, s) ∧
    s.step (.request (.refresh "k" a .longest)) = some (.overflow, s) ∧
    s.answers (.request (.refresh "k" a .longest) :: later) =
      some [.overflow, .remaining (some (.ofNanos 1)), .done, .granted true] := by
  intro a b moves s later
  have hs : start.run moves = some s := rfl
  have hfull : Instant.limit ≤ s.now + Span.longest.nanos := by decide
  obtain ⟨hrefused, -⟩ := overflow_leaves_store_intact (r := .acquire "k" b .longest) hs rfl hfull
  obtain ⟨hbroke, -, -, hlater⟩ :=
    overflow_leaves_store_intact (r := .refresh "k" a .longest) hs rfl hfull
  obtain ⟨replies, hreplies, hanswers⟩ := hlater later
  have hwithout : s.answers later =
      some [.remaining (some (.ofNanos 1)), .done, .granted true] := rfl
  cases hreplies.symm.trans hwithout
  exact ⟨hs, hfull, hrefused, hbroke, hanswers⟩

end Guarded
end LeaseLock
