import Mathlib.Tactic.Common
import LeaseLock.Proofs.Store.Serve
import LeaseLock.Store.Eager
import LeaseLock.Store.Trace

/-!
Expiry that nobody carries out cannot be told from expiry at the deadline.

The store in memory keeps dead entries and passes them over; the eager store has none. The
two stay abreast: at every instant the rows of the eager store are the live entries of the
other, whatever dead entries lie beside them.
-/

namespace LeaseLock

/-! ### Tables without a key -/

namespace Table

variable {α : Type} {t : Table α} {key : String}

/-- No key has two rows. -/
def Distinct (t : Table α) : Prop := (t.rows.map (·.1)).Nodup

lemma distinct_empty : (empty : Table α).Distinct := List.nodup_nil

lemma distinct_filter (h : t.Distinct) (p : String × α → Bool) :
    Distinct ⟨t.rows.filter p⟩ :=
  h.sublist (List.filter_sublist.map _)

lemma distinct_drop (h : t.Distinct) (key : String) : (t.drop key).Distinct :=
  distinct_filter h _

lemma distinct_put (h : t.Distinct) (key : String) (value : α) : (t.put key value).Distinct := by
  refine List.nodup_cons.mpr ⟨?_, distinct_drop h key⟩
  simp [drop]

/-- In a table without double keys, taking out rows takes out values. -/
lemma find?_filter (h : t.Distinct) (p : α → Bool) :
    find? ⟨t.rows.filter fun row => p row.2⟩ key = (t.find? key).filter p := by
  obtain ⟨rows⟩ := t
  simp only [find?]
  induction rows with
  | nil => rfl
  | cons row rows ih =>
    obtain ⟨k, v⟩ := row
    obtain ⟨hk, hrows⟩ := List.nodup_cons.mp h
    have ih := ih hrows
    by_cases hkey : key = k
    · subst hkey
      have habsent : rows.lookup key = none := by
        rw [List.lookup_eq_none_iff]
        intro row hmem
        have : row.1 ≠ key := fun e => hk (List.mem_map.mpr ⟨row, hmem, e⟩)
        simpa using this.symm
      rw [habsent] at ih
      by_cases hv : p v
      · simp [Option.filter, hv]
      · rw [List.filter_cons_of_neg (by simpa using hv), ih]
        simp [Option.filter, hv]
    · have hb : (key == k) = false := by simpa using hkey
      by_cases hv : p v
      · simp [hv, List.lookup_cons, hb, ih]
      · simp [hv, List.lookup_cons, hb, ih]

end Table

/-! ### The two stores abreast -/

/-- The rows of the eager store are the live entries of the store in memory. -/
structure Abreast (c : ClockedMemory) (s : Eager) : Prop where
  now : s.now = c.now
  distinct : s.rows.Distinct
  rows : ∀ key, s.rows.find? key = (c.memory.live? c.now key).map fun e => (e.token, e.expires)

namespace Eager

lemma find?_sweep {rows : Table (Token × Nat)} (h : rows.Distinct) (now : Nat) (key : String) :
    (sweep now rows).find? key = (rows.find? key).filter fun row => now < row.2 :=
  Table.find?_filter h fun row => decide (now < row.2)

lemma distinct_sweep {rows : Table (Token × Nat)} (h : rows.Distinct) (now : Nat) :
    (sweep now rows).Distinct :=
  Table.distinct_filter h _

variable {s : Eager} {key : String} {token : Token} {ttl : Span}

/-- The owner of a key that has a row. -/
def owner (s : Eager) (key : String) : Option Token := (s.rows.find? key).map (·.1)

lemma write_fits (h : s.now + ttl.nanos < Instant.limit) :
    s.write key token ttl = (.granted true,
      { s with rows := sweep s.now (s.rows.put key (token, s.now + ttl.nanos)) }) := by
  simp [write, Instant.after?_eq_some.mpr ⟨h, rfl⟩]

lemma write_full (h : Instant.limit ≤ s.now + ttl.nanos) :
    s.write key token ttl = (.overflow, s) := by
  simp [write, Instant.after?_eq_none.mpr h]

lemma acquire_free (h : ∀ o, s.owner key = some o → o = token) :
    s.step (.request (.acquire key token ttl)) = s.write key token ttl := by
  unfold owner at h
  simp only [step]
  split
  · next o d hf => rw [if_pos (h o (by simp [hf]))]
  · rfl

lemma acquire_taken {o : Token} (h : s.owner key = some o) (hne : o ≠ token) :
    s.step (.request (.acquire key token ttl)) = (.granted false, s) := by
  obtain ⟨⟨o', d⟩, hf, rfl⟩ := Option.map_eq_some_iff.mp h
  simp only [step, hf]
  rw [if_neg hne]

lemma refresh_own (h : s.owner key = some token) :
    s.step (.request (.refresh key token ttl)) = s.write key token ttl := by
  obtain ⟨⟨o', d⟩, hf, rfl⟩ := Option.map_eq_some_iff.mp h
  simp [step, hf]

lemma refresh_stale (h : s.owner key ≠ some token) :
    s.step (.request (.refresh key token ttl)) = (.granted false, s) := by
  unfold owner at h
  simp only [step]
  split
  · next o d hf => rw [if_neg (by simpa [hf] using h)]
  · rfl

lemma release_own (h : s.owner key = some token) :
    s.step (.request (.release key token)) =
      (.granted true, { s with rows := s.rows.drop key }) := by
  obtain ⟨⟨o', d⟩, hf, rfl⟩ := Option.map_eq_some_iff.mp h
  simp [step, hf]

lemma release_foreign (h : s.owner key ≠ some token) :
    s.step (.request (.release key token)) = (.granted false, s) := by
  unfold owner at h
  simp only [step]
  split
  · next o d hf => rw [if_neg (by simpa [hf] using h)]
  · rfl

end Eager

namespace Abreast

variable {c : ClockedMemory} {s : Eager} {key : String} {token : Token}

lemma start : Abreast .start .start := ⟨rfl, Table.distinct_empty, fun _ => rfl⟩

/-- Both stores name the same owner. -/
lemma owner (h : Abreast c s) (key : String) : s.owner key = c.memory.holder c.now key := by
  rw [Eager.owner, h.rows key, Memory.holder, Option.map_map]
  rfl

/-- Later, what is left in the eager store is what is still live in the other. -/
lemma pass (h : Abreast c s) (d : Span) :
    Abreast { c with now := c.now + d.nanos }
      { now := s.now + d.nanos, rows := Eager.sweep (s.now + d.nanos) s.rows } where
  now := by simp [h.now]
  distinct := Eager.distinct_sweep h.distinct _
  rows key := by
    rw [Eager.find?_sweep h.distinct, h.rows key, h.now,
      Memory.live?_later (Nat.le_add_right c.now d.nanos)]
    cases c.memory.live? c.now key with
    | none => rfl
    | some e => by_cases hl : c.now + d.nanos < e.expires <;> simp [Option.filter, Entry.isLive, hl]

/-- Both stores take a key out. -/
lemma drop (h : Abreast c s) (key : String) :
    Abreast { c with memory := c.memory.expire key } { s with rows := s.rows.drop key } where
  now := h.now
  distinct := Table.distinct_drop h.distinct key
  rows k := by
    rw [Table.find?_drop, Memory.live?_expire, h.rows k]
    split <;> rfl

/-- Both stores set a key. -/
lemma put (h : Abreast c s) (key : String) (token : Token) (deadline : Nat) :
    Abreast { c with memory := ⟨c.memory.entries.put key ⟨token, deadline⟩⟩ }
      { s with rows := Eager.sweep s.now (s.rows.put key (token, deadline)) } where
  now := h.now
  distinct := Eager.distinct_sweep (Table.distinct_put h.distinct key _) _
  rows k := by
    rw [Eager.find?_sweep (Table.distinct_put h.distinct key _), Table.find?_put,
      Memory.live?_put, h.now]
    by_cases hk : k = key
    · by_cases hl : c.now < deadline <;> simp [Option.filter, hk, hl]
    · simp only [hk, if_false, h.rows k]
      cases hlive : c.memory.live? c.now k with
      | none => rfl
      | some e => simp [Option.filter, Memory.lt_of_live hlive]

/-- Only a dead entry is taken away, so the eager store has nothing to do. -/
lemma sweep (h : Abreast c s) (hd : c.memory.live? c.now key = none) :
    Abreast { c with memory := c.memory.expire key } s where
  now := h.now
  distinct := h.distinct
  rows k := by
    rw [Memory.live?_expire, h.rows k]
    split
    · next hk => subst hk; rw [hd]
    · rfl

/-- A request is answered alike, and leaves the stores abreast. -/
lemma request (h : Abreast c s) (r : Request) :
    (c.step (.request r)).1 = (s.step (.request r)).1 ∧
      Abreast (c.step (.request r)).2 (s.step (.request r)).2 := by
  rcases hserve : c.memory.serve c.now r with ⟨answer, memory⟩
  simp only [ClockedMemory.step, hserve]
  cases Memory.served_of_serve hserve with
  | acquired free fits =>
    rw [Eager.acquire_free (by rwa [h.owner]), Eager.write_fits (by rwa [h.now]), h.now]
    exact ⟨rfl, h.now ▸ h.put ..⟩
  | refreshed own fits =>
    rw [Eager.refresh_own (by rwa [h.owner]), Eager.write_fits (by rwa [h.now]), h.now]
    exact ⟨rfl, h.now ▸ h.put ..⟩
  | released own =>
    rw [Eager.release_own (by rwa [h.owner])]
    exact ⟨rfl, h.drop _⟩
  | taken held other =>
    rw [Eager.acquire_taken (by rwa [h.owner]) other]
    exact ⟨rfl, h⟩
  | stale other =>
    rw [Eager.refresh_stale (by rwa [h.owner])]
    exact ⟨rfl, h⟩
  | foreign other =>
    rw [Eager.release_foreign (by rwa [h.owner])]
    exact ⟨rfl, h⟩
  | swept dead =>
    rw [Eager.release_foreign (by simp [h.owner, Memory.holder, dead])]
    exact ⟨rfl, h.sweep dead⟩
  | acquireOverflow free full =>
    rw [Eager.acquire_free (by rwa [h.owner]), Eager.write_full (by rwa [h.now])]
    exact ⟨rfl, h⟩
  | refreshOverflow own full =>
    rw [Eager.refresh_own (by rwa [h.owner]), Eager.write_full (by rwa [h.now])]
    exact ⟨rfl, h⟩

/-- Any move is answered alike, and leaves the stores abreast. -/
lemma step (h : Abreast c s) (m : Move) :
    (c.step m).1 = (s.step m).1 ∧ Abreast (c.step m).2 (s.step m).2 := by
  cases m with
  | request r => exact h.request r
  | expire key => exact ⟨rfl, h.drop key⟩
  | holder key => exact ⟨congrArg Reply.holder (h.owner key).symm, h⟩
  | remaining key =>
    refine ⟨?_, h⟩
    simp only [ClockedMemory.step, Eager.step, Memory.remaining, h.rows key, h.now, Option.map_map]
    rfl
  | advance d => exact ⟨rfl, h.pass d⟩

lemma answers (h : Abreast c s) (moves : List Move) :
    Trace.answers ClockedMemory.step c moves = Trace.answers Eager.step s moves := by
  induction moves generalizing c s with
  | nil => rfl
  | cons m moves ih =>
    obtain ⟨hanswer, hnext⟩ := h.step m
    rw [Trace.answers, Trace.answers, hanswer, ih hnext]

end Abreast

/-! ### A key that is left alone -/

namespace ClockedMemory

variable {c : ClockedMemory} {key : String} {e : Entry}

lemma now_le_final (c : ClockedMemory) (moves : List Move) :
    c.now ≤ (Trace.final step c moves).now := by
  induction moves generalizing c with
  | nil => exact Nat.le_refl _
  | cons m moves ih =>
    have hstep : c.now ≤ (c.step m).2.now := by cases m <;> simp [step]
    exact Nat.le_trans hstep (ih _)

/-- A move on other keys leaves an entry where it is. -/
lemma find?_step {m : Move} (hm : m.target? ≠ some key)
    (h : c.memory.entries.find? key = some e) :
    (c.step m).2.memory.entries.find? key = some e := by
  cases m with
  | request r =>
    have hk : key ≠ r.key := fun hk => hm (by simp [Move.target?, hk])
    rcases hserve : c.memory.serve c.now r with ⟨answer, memory⟩
    simp only [step, hserve]
    cases Memory.served_of_serve hserve with
    | acquired | refreshed =>
      rw [Request.key] at hk
      simpa [Table.find?_put, hk] using h
    | released | swept =>
      rw [Request.key] at hk
      simpa [hk] using h
    | taken | stale | foreign | acquireOverflow | refreshOverflow => exact h
  | expire k =>
    have hk : key ≠ k := fun hk => hm (by simp [Move.target?, hk])
    simpa [step, hk] using h
  | holder | remaining | advance => exact h

lemma find?_final {moves : List Move} (hm : ∀ m ∈ moves, m.target? ≠ some key)
    (h : c.memory.entries.find? key = some e) :
    (Trace.final step c moves).memory.entries.find? key = some e := by
  induction moves generalizing c with
  | nil => exact h
  | cons m moves ih =>
    exact ih (fun m' hm' => hm m' (by simp [hm'])) (find?_step (hm m (by simp)) h)

/-- A granted write sets the entry that it is about. -/
lemma find?_of_granted {r : Request} {token : Token} {ttl : Span}
    (hw : r.write? = some (key, token, ttl)) (hg : (c.step (.request r)).1 = .granted true) :
    (c.step (.request r)).2.memory.entries.find? key = some ⟨token, c.now + ttl.nanos⟩ := by
  rcases hserve : c.memory.serve c.now r with ⟨answer, memory⟩
  simp only [step, hserve] at hg ⊢
  cases Memory.served_of_serve hserve with
  | acquired | refreshed =>
    obtain ⟨rfl, rfl, rfl⟩ : _ ∧ _ ∧ _ := by simpa [Request.write?] using hw
    simp [Table.find?_put]
  | released | swept | foreign => simp [Request.write?] at hw
  | taken | stale | acquireOverflow | refreshOverflow => simp at hg

/-- A key that is written and then left alone is held until its deadline. -/
lemma holder_final {r : Request} {token : Token} {ttl : Span} {moves : List Move}
    (hw : r.write? = some (key, token, ttl)) (hg : (c.step (.request r)).1 = .granted true)
    (hm : ∀ m ∈ moves, m.target? ≠ some key) {now : Nat} :
    (Trace.final step c (.request r :: moves)).memory.holder now key =
      if now < c.now + ttl.nanos then some token else none := by
  have hf := find?_final hm (find?_of_granted hw hg)
  simp only [Memory.holder, Memory.live?, Trace.final_cons, hf]
  by_cases hl : now < c.now + ttl.nanos
  · simp [Option.filter, Entry.isLive, hl]
  · simp [Option.filter, Entry.isLive, hl]

end ClockedMemory

/-! ### Nobody can tell -/

lemma Abreast.final {c : ClockedMemory} {s : Eager} (h : Abreast c s) (moves : List Move) :
    Abreast (Trace.final ClockedMemory.step c moves) (Trace.final Eager.step s moves) := by
  induction moves generalizing c s with
  | nil => exact h
  | cons m moves ih => exact ih (h.step m).2

/-- **A store in which entries die in place answers as one that has no dead entries.** The one
drops each row by its deadline; and in the other a key that is written at some instant and left
alone from then on is held from that instant on, and no longer from the deadline on. -/
theorem lazy_expiry_refines_eager :
    (∀ moves, Trace.answers ClockedMemory.step .start moves
      = Trace.answers Eager.step .start moves) ∧
    (∀ moves key owner deadline,
      (Trace.final Eager.step .start moves).rows.find? key = some (owner, deadline) →
      (Trace.final Eager.step .start moves).now < deadline) ∧
    ∀ (c c' : ClockedMemory) (r : Request) (key : String) (token : Token) (ttl : Span)
      (moves : List Move),
      r.write? = some (key, token, ttl) → (c.step (.request r)).1 = .granted true →
      (∀ m ∈ moves, m.target? ≠ some key) →
      c' = Trace.final ClockedMemory.step c (.request r :: moves) →
      c.now ≤ c'.now ∧ c'.memory.holder c'.now key
        = if c'.now < c.now + ttl.nanos then some token else none := by
  refine ⟨Abreast.start.answers, ?_, ?_⟩
  · intro moves key owner deadline hf
    have h := Abreast.start.final moves
    rw [h.rows key] at hf
    obtain ⟨e, he, hrow⟩ := Option.map_eq_some_iff.mp hf
    obtain ⟨rfl, rfl⟩ := Prod.mk.inj hrow
    rw [h.now]
    exact Memory.lt_of_live he
  · intro c c' r key token ttl moves hw hg hm hc
    subst hc
    exact ⟨ClockedMemory.now_le_final c _, ClockedMemory.holder_final hw hg hm⟩

/-- A key held for two nanoseconds beside a dead entry and a foreign request: it is still held
after one, and no more after two. -/
theorem lazy_expiry_refines_eager_brief :
    let c := Trace.final ClockedMemory.step .start
      [.request (.acquire "k" (.named "a") (.ofNanos 5)), .advance (.ofNanos 5)]
    let r := Request.acquire "k" (.named "b") (.ofNanos 2)
    let other := Move.request (.release "j" (.named "a"))
    (c.step (.request r)).1 = .granted true ∧
    (Trace.final ClockedMemory.step c
      [.request r, other, .advance (.ofNanos 1)]).memory.holder 6 "k" = some (.named "b") ∧
    (Trace.final ClockedMemory.step c
      [.request r, other, .advance (.ofNanos 2)]).memory.holder 7 "k" = none := by
  intro c r other
  have hg : (c.step (.request r)).1 = .granted true := by decide
  have hm : ∀ d, ∀ m ∈ [other, .advance d], m.target? ≠ some "k" := by
    simp [other, Move.target?, Request.key]
  exact ⟨hg,
    (lazy_expiry_refines_eager.2.2 c _ r "k" (.named "b") (.ofNanos 2) _ rfl hg (hm _) rfl).2,
    (lazy_expiry_refines_eager.2.2 c _ r "k" (.named "b") (.ofNanos 2) _ rfl hg (hm _) rfl).2⟩

end LeaseLock
