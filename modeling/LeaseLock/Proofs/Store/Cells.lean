import Mathlib.Tactic.Common
import LeaseLock.Proofs.Store.Serve
import LeaseLock.Store.Trace

/-!
Each key of the store in memory is a cell of its own.

What a request is answered depends on the live entry of its key alone, and only this entry is
changed, by a request that is granted. So two stores that show the same of some keys answer
alike whatever is about these keys, also after one of them has seen more than the other: moves
on other keys, refused requests, queries. The tables may differ all the while: the refused
release of a dead entry takes it out of one of them. And a write that is granted makes its
token the owner at that instant, unless the entry is dead from the first.
-/

namespace LeaseLock

/-! ### The cell of a key -/

namespace Cell

/-- Writes an entry that lasts for `ttl`, which is over at once if `ttl` is zero. -/
def write (now : Nat) (token : Token) (ttl : Span) (cell : Option Entry) :
    Option Bool × Option Entry :=
  match Instant.after? now ttl with
  | some expires => (some true, if now < expires then some ⟨token, expires⟩ else none)
  | none => (none, cell)

/-- What a request makes of the live entry of its key, and its answer. -/
def serve (now : Nat) (cell : Option Entry) : Request → Option Bool × Option Entry
  | .acquire _ token ttl =>
    if cell.all (·.token = token) then write now token ttl cell else (some false, cell)
  | .refresh _ token ttl =>
    if cell.any (·.token = token) then write now token ttl cell else (some false, cell)
  | .release _ token =>
    if cell.any (·.token = token) then (some true, none) else (some false, cell)

variable {now : Nat} {cell : Option Entry} {token : Token} {ttl : Span} {r : Request}

lemma write_fits (fits : now + ttl.nanos < Instant.limit) :
    write now token ttl cell = (some true,
      if now < now + ttl.nanos then some ⟨token, now + ttl.nanos⟩ else none) := by
  rw [write, Instant.after?_eq_some.mpr ⟨fits, rfl⟩]

lemma write_full (full : Instant.limit ≤ now + ttl.nanos) :
    write now token ttl cell = (none, cell) := by
  rw [write, Instant.after?_eq_none.mpr full]

lemma write_not_refused : (write now token ttl cell).1 ≠ some false := by
  unfold write
  split <;> simp

/-- A request that is refused leaves the cell as it is. -/
lemma serve_refused (h : (serve now cell r).1 = some false) : (serve now cell r).2 = cell := by
  cases r with
  | acquire key token ttl | refresh key token ttl =>
    simp only [serve] at h ⊢
    split at h
    · exact absurd h write_not_refused
    · next hn => rw [if_neg hn]
  | release key token =>
    simp only [serve] at h ⊢
    split at h
    · cases h
    · next hn => rw [if_neg hn]

/-- A write that is granted leaves its entry in the cell, if that lasts for any time. -/
lemma serve_granted {key : String} (hw : r.write? = some (key, token, ttl))
    (h : (serve now cell r).1 = some true) :
    (serve now cell r).2 = if 0 < ttl.nanos then some ⟨token, now + ttl.nanos⟩ else none := by
  have hwrite : serve now cell r = write now token ttl cell := by
    cases r with
    | acquire | refresh =>
      obtain ⟨rfl, rfl, rfl⟩ : _ ∧ _ ∧ _ := by simpa [Request.write?] using hw
      simp only [serve] at h ⊢
      split at h
      · next hc => rw [if_pos hc]
      · cases h
    | release => cases hw
  rw [hwrite] at h ⊢
  rcases Nat.lt_or_ge (now + ttl.nanos) Instant.limit with fits | full
  · rw [write_fits fits]
    simp only [Nat.lt_add_right_iff_pos]
  · rw [write_full full] at h
    cases h

/-- Somebody else cannot acquire a key that is held. -/
lemma acquire_other {key : String} {e : Entry} (h : token ≠ e.token) :
    serve now (some e) (.acquire key token ttl) = (some false, some e) := by
  simp [serve, h.symm]

lemma acquire_none {key : String} : serve now none (.acquire key token ttl) =
    write now token ttl none := rfl

end Cell

namespace Memory

variable {m : Memory} {now : Nat} {key k : String} {token : Token}

lemma any_live?_iff :
    (m.live? now key).any (·.token = token) = true ↔ m.holder now key = some token := by
  cases h : m.live? now key <;> simp [holder, h]

lemma all_live?_iff : (m.live? now key).all (·.token = token) = true ↔
    ∀ owner, m.holder now key = some owner → owner = token := by
  cases h : m.live? now key <;> simp [holder, h]

/-- A request is served as the cell of its key is. -/
lemma serve_eq_cell (m : Memory) (now : Nat) (r : Request) :
    ((m.serve now r).1, (m.serve now r).2.live? now r.key) =
      Cell.serve now (m.live? now r.key) r := by
  have hserved := serve_served m now r
  generalize (m.serve now r).1 = answer, (m.serve now r).2 = m' at hserved ⊢
  cases hserved with
  | acquired free fits =>
    rw [Cell.serve, Request.key, if_pos (all_live?_iff.mpr free), Cell.write_fits fits,
      live?_put, if_pos rfl]
  | refreshed own fits =>
    rw [Cell.serve, Request.key, if_pos (any_live?_iff.mpr own), Cell.write_fits fits,
      live?_put, if_pos rfl]
  | released own =>
    rw [Cell.serve, Request.key, if_pos (any_live?_iff.mpr own), live?_expire, if_pos rfl]
  | taken held other =>
    rw [Cell.serve, Request.key, if_neg fun h => other (all_live?_iff.mp h _ held)]
  | stale other | foreign other =>
    rw [Cell.serve, Request.key, if_neg (mt any_live?_iff.mp other)]
  | swept dead =>
    rw [Cell.serve, Request.key, dead, live?_expire, if_pos rfl]
    rfl
  | acquireOverflow free full =>
    rw [Cell.serve, Request.key, if_pos (all_live?_iff.mpr free), Cell.write_full full]
  | refreshOverflow own full =>
    rw [Cell.serve, Request.key, if_pos (any_live?_iff.mpr own), Cell.write_full full]

/-- A request leaves the other keys as they are. -/
lemma live?_serve_of_ne {r : Request} (h : k ≠ r.key) :
    (m.serve now r).2.live? now k = m.live? now k := by
  have hserved := serve_served m now r
  generalize (m.serve now r).1 = answer, (m.serve now r).2 = m' at hserved ⊢
  cases hserved with
  | acquired | refreshed =>
    rw [Request.key] at h
    rw [live?_put, if_neg h]
  | released | swept =>
    rw [Request.key] at h
    rw [live?_expire, if_neg h]
  | taken | stale | foreign | acquireOverflow | refreshOverflow => rfl

/-- A request that is refused leaves every key as it is, whatever becomes of the table. -/
lemma live?_serve_of_refused {r : Request} (h : (m.serve now r).1 = some false) :
    (m.serve now r).2.live? now k = m.live? now k := by
  by_cases hk : k = r.key
  · subst hk
    obtain ⟨hanswer, hleft⟩ := Prod.mk.inj (serve_eq_cell m now r)
    exact hleft.trans (Cell.serve_refused (hanswer ▸ h))
  · exact live?_serve_of_ne hk

end Memory

/-! ### A key that has just been written -/

namespace ClockedMemory

variable {c : ClockedMemory} {r : Request} {key : String} {token : Token} {ttl : Span}

lemma granted_iff {yes : Bool} :
    (c.step (.request r)).1 = .granted yes ↔ (c.memory.serve c.now r).1 = some yes := by
  simp only [step]
  cases (c.memory.serve c.now r).1 <;> simp

/-- What is live of a key that has just been written. -/
lemma live?_of_granted (hw : r.write? = some (key, token, ttl))
    (hg : (c.step (.request r)).1 = .granted true) :
    (c.step (.request r)).2.memory.live? c.now key =
      if 0 < ttl.nanos then some ⟨token, c.now + ttl.nanos⟩ else none := by
  obtain ⟨hanswer, hleft⟩ := Prod.mk.inj (Memory.serve_eq_cell c.memory c.now r)
  have hkey : r.key = key := by
    cases r with
    | acquire | refresh => exact congrArg Prod.fst (Option.some.inj hw)
    | release => cases hw
  rw [hkey] at hanswer hleft
  exact hleft.trans (Cell.serve_granted hw (hanswer ▸ granted_iff.mp hg))

/-- **Whoever is granted a key for some time owns it.** At that same instant it is the holder,
all of the time is left to it, and nobody else is granted the key. Whoever is granted a key for
no time does not own it: nobody holds the key, and it is not refused to anybody. -/
theorem granted_write_owns (hw : r.write? = some (key, token, ttl))
    (hg : (c.step (.request r)).1 = .granted true) :
    let c' := (c.step (.request r)).2
    (0 < ttl.nanos →
      (c'.step (.holder key)).1 = .holder (some token) ∧
      (c'.step (.remaining key)).1 = .remaining (some ttl) ∧
      ∀ other d, other ≠ token →
        (c'.step (.request (.acquire key other d))).1 = .granted false) ∧
    (ttl.nanos = 0 →
      (c'.step (.holder key)).1 = .holder none ∧
      (c'.step (.remaining key)).1 = .remaining none ∧
      ∀ other d, (c'.step (.request (.acquire key other d))).1 ≠ .granted false) := by
  intro c'
  have hnow : c'.now = c.now := rfl
  have hlive : c'.memory.live? c'.now key = _ := live?_of_granted hw hg
  have hacquire (other : Token) (d : Span) : (c'.memory.serve c'.now (.acquire key other d)).1 =
      (Cell.serve c'.now (c'.memory.live? c'.now key) (.acquire key other d)).1 :=
    congrArg Prod.fst (Memory.serve_eq_cell c'.memory c'.now (.acquire key other d))
  refine ⟨fun hpos => ?_, fun hzero => ?_⟩
  · rw [if_pos hpos] at hlive
    refine ⟨?_, ?_, fun other d hother => ?_⟩
    · simp only [step, Memory.holder, hlive, Option.map_some]
    · simp only [step, Memory.remaining, hlive, Option.map_some]
      rw [hnow, Nat.add_sub_cancel_left, Span.ofNanos_nanos]
    · refine granted_iff.mpr ((hacquire other d).trans ?_)
      rw [hlive, Cell.acquire_other hother]
  · rw [if_neg (by omega)] at hlive
    refine ⟨?_, ?_, fun other d hrefused => ?_⟩
    · simp only [step, Memory.holder, hlive, Option.map_none]
    · simp only [step, Memory.remaining, hlive, Option.map_none]
    · have hanswer := (hacquire other d).symm.trans (granted_iff.mp hrefused)
      rw [hlive, Cell.acquire_none] at hanswer
      exact Cell.write_not_refused hanswer

/-- A refresh of a key with one nanosecond left makes it last for another one. -/
theorem granted_write_owns_of_refresh :
    let a : Token := .named "a"
    let c := Trace.final step .start [.request (.acquire "k" a (.ofNanos 5)), .advance (.ofNanos 4)]
    let r := Request.refresh "k" a (.ofNanos 1)
    let c' := (c.step (.request r)).2
    (c.step (.request r)).1 = .granted true ∧
    (c'.step (.holder "k")).1 = .holder (some a) ∧
    (c'.step (.remaining "k")).1 = .remaining (some (.ofNanos 1)) ∧
    ∀ other d, other ≠ a → (c'.step (.request (.acquire "k" other d))).1 = .granted false := by
  intro a c r c'
  have hg : (c.step (.request r)).1 = .granted true := by decide
  exact ⟨hg, (granted_write_owns rfl hg).1 (by decide)⟩

/-- Two owners are granted the same key at the same instant, the first of them for no time. -/
theorem granted_write_unowned :
    let r := Request.acquire "k" (.named "a") .zero
    let c' := (step .start (.request r)).2
    (step .start (.request r)).1 = .granted true ∧
    (c'.step (.holder "k")).1 = .holder none ∧
    (c'.step (.remaining "k")).1 = .remaining none ∧
    (c'.step (.request (.acquire "k" (.named "b") (.ofSecs 1)))).1 = .granted true := by
  decide

end ClockedMemory

/-! ### Stores that show the same of some keys -/

structure Alike (keys : String → Bool) (c c' : ClockedMemory) : Prop where
  now : c.now = c'.now
  cell : ∀ key, keys key = true → c.memory.live? c.now key = c'.memory.live? c'.now key

namespace Alike

open ClockedMemory (step)

variable {c c' : ClockedMemory} {keys : String → Bool} {m : Move}

lemma refl (keys : String → Bool) (c : ClockedMemory) : Alike keys c c := ⟨rfl, fun _ _ => rfl⟩

lemma request (h : Alike keys c c') {r : Request} (hr : keys r.key = true) :
    (step c (.request r)).1 = (step c' (.request r)).1 ∧
      Alike keys (step c (.request r)).2 (step c' (.request r)).2 := by
  have hserve := Memory.serve_eq_cell c.memory c.now r
  rw [h.cell r.key hr, h.now, ← Memory.serve_eq_cell, ← h.now] at hserve
  obtain ⟨hanswer, hleft⟩ := Prod.mk.inj hserve
  refine ⟨?_, h.now, fun key hkey => ?_⟩
  · simp only [step, ← h.now, hanswer]
  · simp only [step]
    by_cases hk : key = r.key
    · subst hk
      rw [hleft, h.now]
    · rw [Memory.live?_serve_of_ne hk, Memory.live?_serve_of_ne hk, h.cell key hkey]

lemma advance (h : Alike keys c c') (d : Span) :
    Alike keys (step c (.advance d)).2 (step c' (.advance d)).2 where
  now := congrArg (· + d.nanos) h.now
  cell key hkey := by
    simp only [step]
    rw [Memory.live?_later (Nat.le_add_right c.now d.nanos),
      Memory.live?_later (Nat.le_add_right c'.now d.nanos), h.cell key hkey, h.now]

/-- A move within the keys is answered alike, and leaves the stores alike. -/
lemma both (h : Alike keys c c') (hm : m.within keys = true) :
    (step c m).1 = (step c' m).1 ∧ Alike keys (step c m).2 (step c' m).2 := by
  cases m with
  | request r => exact h.request hm
  | expire k =>
    refine ⟨rfl, h.now, fun key hkey => ?_⟩
    simp only [step, Memory.live?_expire, h.cell key hkey]
  | holder k => exact ⟨by simp only [step, Memory.holder, h.cell k hm], h⟩
  | remaining k =>
    refine ⟨?_, h⟩
    simp only [step, Memory.remaining]
    rw [h.cell k hm, h.now]
  | advance d => exact ⟨rfl, h.advance d⟩

/-- A move on another key, a refused request and a query make no difference. -/
lemma skip (h : Alike keys c c')
    (hm : m.within keys = false ∨ (step c m).1 = .granted false ∨ m.isQuery = true) :
    Alike keys (step c m).2 c' := by
  cases m with
  | request r =>
    refine ⟨h.now, fun key hkey => ?_⟩
    rw [← h.cell key hkey]
    rcases hm with hm | hm | hm
    · have hk : key ≠ r.key := by
        rintro rfl
        exact Bool.false_ne_true (hm.symm.trans hkey)
      exact Memory.live?_serve_of_ne hk
    · exact Memory.live?_serve_of_refused (ClockedMemory.granted_iff.mp hm)
    · cases hm
  | expire k =>
    refine ⟨h.now, fun key hkey => ?_⟩
    rcases hm with hm | hm | hm
    · have hk : key ≠ k := by
        rintro rfl
        exact Bool.false_ne_true (hm.symm.trans hkey)
      simp only [step, Memory.live?_expire, if_neg hk, h.cell key hkey]
    · cases hm
    · cases hm
  | holder k | remaining k => exact h
  | advance d => rcases hm with hm | hm | hm <;> cases hm

end Alike

/-! ### What can be left out of a run -/

open ClockedMemory (step)

/-- A second store that sees no more of a run than what is kept of it stays alike. -/
lemma Alike.answers {keys : String → Bool} {c c' : ClockedMemory} (h : Alike keys c c')
    (marked : List (Move × Bool)) :
    let log := marked.zip (Trace.answers step c (marked.map (·.1)))
    (∀ x ∈ log, x.1.2 = false → x.2 = .granted false ∨ x.1.1.isQuery = true) →
    let left := log.filter fun x => x.1.2 && x.1.1.within keys
    Trace.answers step c' (left.map (·.1.1)) = left.map (·.2) := by
  induction marked generalizing c c' with
  | nil => exact fun _ => rfl
  | cons x marked ih =>
    obtain ⟨m, kept⟩ := x
    intro log hlog left
    let rest := marked.zip (Trace.answers step (step c m).2 (marked.map (·.1)))
    let keeps (x : (Move × Bool) × Reply) : Bool := x.1.2 && x.1.1.within keys
    have hrest : ∀ x ∈ rest, x.1.2 = false → x.2 = .granted false ∨ x.1.1.isQuery = true :=
      fun x hx => hlog x (List.mem_cons_of_mem _ hx)
    by_cases hm : (kept && m.within keys) = true
    · -- both stores see this move
      obtain ⟨hanswer, hnext⟩ := h.both (Bool.and_eq_true_iff.mp hm).2
      have hleft : left = ((m, kept), (step c m).1) :: rest.filter keeps :=
        List.filter_cons_of_pos hm
      rw [hleft, List.map_cons, List.map_cons, Trace.answers, ih hnext hrest, hanswer]
    · -- only the first store sees it
      have hskip : m.within keys = false ∨ (step c m).1 = .granted false ∨ m.isQuery = true := by
        cases kept with
        | true => exact .inl (by simpa using hm)
        | false => exact .inr (hlog _ List.mem_cons_self rfl)
      have hleft : left = rest.filter keeps := List.filter_cons_of_neg hm
      rw [hleft]
      exact ih (h.skip hskip) hrest

/-- **Only what succeeds on the same keys matters.** Let a run of the store be given, with a
mark on each of its moves that says whether to keep it, and let only refused requests and
queries be without the mark. If what is kept and is about some keys, or about the clock, is
played on its own, each move is answered as it was in the whole run. -/
theorem answers_of_kept (keys : String → Bool) (c : ClockedMemory) (marked : List (Move × Bool)) :
    let log := marked.zip (Trace.answers step c (marked.map (·.1)))
    (∀ x ∈ log, x.1.2 = false → x.2 = .granted false ∨ x.1.1.isQuery = true) →
    let left := log.filter fun x => x.1.2 && x.1.1.within keys
    Trace.answers step c (left.map (·.1.1)) = left.map (·.2) :=
  (Alike.refl keys c).answers marked

/-- The lock changes hands by expiry. Without a refused acquire, the refused release that takes
the dead entry out, a query, and what happens to another key, the new owner's calls and the
time that is left to it are what they were. -/
theorem answers_of_kept_handover :
    let a : Token := .named "a"
    let b : Token := .named "b"
    let marked : List (Move × Bool) :=
      [(.request (.acquire "k" a (.ofNanos 5)), true),
        (.request (.acquire "k" b (.ofNanos 9)), false),
        (.request (.acquire "j" b (.ofNanos 9)), true), (.advance (.ofNanos 5), true),
        (.request (.release "k" a), false), (.holder "k", false),
        (.request (.acquire "k" b (.ofNanos 7)), true),
        (.request (.refresh "k" a (.ofNanos 9)), false),
        (.advance (.ofNanos 4), true), (.remaining "k", true)]
    let log := marked.zip (Trace.answers step .start (marked.map (·.1)))
    (∀ x ∈ log, x.1.2 = false → x.2 = .granted false ∨ x.1.1.isQuery = true) ∧
    Trace.answers step .start
      [.request (.acquire "k" a (.ofNanos 5)), .advance (.ofNanos 5),
        .request (.acquire "k" b (.ofNanos 7)), .advance (.ofNanos 4), .remaining "k"] =
      [.granted true, .done, .granted true, .done, .remaining (some (.ofNanos 3))] := by
  intro a b marked log
  have hlog : ∀ x ∈ log, x.1.2 = false → x.2 = .granted false ∨ x.1.1.isQuery = true := by
    decide
  let left := log.filter fun x => x.1.2 && x.1.1.within (· = "k")
  have hmoves : left.map (·.1.1) = [.request (.acquire "k" a (.ofNanos 5)), .advance (.ofNanos 5),
      .request (.acquire "k" b (.ofNanos 7)), .advance (.ofNanos 4), .remaining "k"] := by decide
  have hreplies : left.map (·.2) =
      [.granted true, .done, .granted true, .done, .remaining (some (.ofNanos 3))] := by decide
  refine ⟨hlog, ?_⟩
  rw [← hmoves, ← hreplies]
  exact answers_of_kept (· = "k") .start marked hlog

end LeaseLock
