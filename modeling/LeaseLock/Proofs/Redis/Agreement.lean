import Mathlib.Tactic.Common
import LeaseLock.Proofs.Redis.Scripts
import LeaseLock.Proofs.Store.Serve
import LeaseLock.Redis.Twins

/-!
The store in memory and a server are one store.

What a key's holding is after a request or after some time depends on nothing but the holding
before, in either store and in the same way; so holdings that were once the same stay the same,
however the two stores keep them.
-/

namespace LeaseLock

/-- What is left of a holding after `nanos`. -/
def aged (nanos : Nat) (holding : Option (Token × Nat)) : Option (Token × Nat) :=
  (holding.filter (nanos < ·.2)).map fun (token, left) => (token, left - nanos)

/-- A holding with an end, among those that may have none. -/
def ending (holding : Option (Token × Nat)) : Option (Token × Option Nat) :=
  holding.map fun (token, left) => (token, some left)

/-! ### Holdings in memory -/

namespace ClockedMemory

variable {c : ClockedMemory} {key k : String} {token : Token} {ttl : Span}

lemma holding_owner (c : ClockedMemory) (key : String) :
    (c.holding key).map (·.1) = c.memory.holder c.now key := by
  simp only [holding, Memory.holder, Option.map_map]
  rfl

lemma holding_later (m : Memory) (now d : Nat) (key : String) :
    (⟨now + d, m⟩ : ClockedMemory).holding key =
      aged d ((⟨now, m⟩ : ClockedMemory).holding key) := by
  simp only [holding, aged, Memory.live?]
  cases m.entries.find? key with
  | none => rfl
  | some e =>
    by_cases hl : now + d < e.expires
    · have h1 : now < e.expires := by omega
      have h2 : d < e.expires - now := by omega
      simp [Option.filter, Entry.isLive, hl, h1, h2, Nat.sub_add_eq]
    · by_cases h1 : now < e.expires
      · have h2 : ¬ d < e.expires - now := by omega
        simp [Option.filter, Entry.isLive, hl, h1, h2]
      · simp [Option.filter, Entry.isLive, hl, h1]

lemma holding_put (hd : 0 < ttl.nanos) (k : String) :
    ({ c with memory := ⟨c.memory.entries.put key ⟨token, c.now + ttl.nanos⟩⟩ } :
      ClockedMemory).holding k = if k = key then some (token, ttl.nanos) else c.holding k := by
  simp only [holding, Memory.live?_put]
  split
  · simp [hd]
  · rfl

lemma holding_expire (key k : String) :
    ({ c with memory := c.memory.expire key } : ClockedMemory).holding k =
      if k = key then none else c.holding k := by
  simp only [holding, Memory.live?_expire]
  split <;> rfl

end ClockedMemory

/-! ### Holdings on a server -/

namespace Redis

namespace Keyspace

variable {ks : Keyspace} {key k : String} {token : Token} {ttl : Span}

lemma holding_owner (ks : Keyspace) (key : String) :
    (ks.holding key).map (·.1) = ks.owner? key := by
  simp only [holding, owner?, Option.map_map]
  rfl

lemma ending_eq_some {held : Option (Token × Nat)} {left : Option Nat}
    (h : ending held = some (token, left)) : ∃ n, left = some n ∧ held = some (token, n) := by
  obtain ⟨⟨t, n⟩, hheld, hrow⟩ := Option.map_eq_some_iff.mp h
  obtain ⟨rfl, rfl⟩ := Prod.mk.inj hrow
  exact ⟨n, rfl, hheld⟩

lemma ending_eq_none {held : Option (Token × Nat)} (h : ending held = none) : held = none :=
  Option.map_eq_none_iff.mp h

/-- A key that goes away is held for so much less later on. -/
lemma holding_advance {held : Option (Token × Nat)} (h : ks.holding key = ending held)
    (millis : Nat) : (ks.advance millis).holding key = ending (aged (millis * 1000000) held) := by
  simp only [holding, advance, live?] at h ⊢
  generalize ks.rows.find? key = row at h ⊢
  rcases row with _ | ⟨value, _ | t⟩
  · rw [ending_eq_none h.symm]
    rfl
  · -- a key that never goes away has no such holding
    obtain ⟨n, hn, -⟩ := ending_eq_some h.symm
    exact absurd hn (by simp)
  · by_cases hl : ks.now < t
    · have hv : ending held = some (value, some ((t - ks.now) * 1000000)) := by
        simpa [Option.filter, Row.isLive, hl] using h.symm
      obtain ⟨n, hn, rfl⟩ := ending_eq_some hv
      obtain rfl : _ = n := Option.some.inj hn
      by_cases hl' : ks.now + millis < t
      · have h1 : millis * 1000000 < (t - ks.now) * 1000000 := by omega
        have h2 : (t - (ks.now + millis)) * 1000000
          = (t - ks.now) * 1000000 - millis * 1000000 := by omega
        simp [Option.filter, Row.isLive, hl', aged, ending, h1, h2]
      · have h1 : ¬ millis * 1000000 < (t - ks.now) * 1000000 := by omega
        simp [Option.filter, Row.isLive, hl', aged, ending, h1]
    · have hl' : ¬ ks.now + millis < t := by omega
      have hv : ending held = none := by
        simpa [Option.filter, Row.isLive, hl] using h.symm
      rw [ending_eq_none hv]
      simp [Option.filter, Row.isLive, hl', aged, ending]

lemma holding_put (hd : 0 < ttlMillis ttl) (k : String) :
    (ks.put key ⟨token, some (ks.now + ttlMillis ttl)⟩).holding k =
      if k = key then some (token, some (ttlMillis ttl * 1000000)) else ks.holding k := by
  simp only [holding, live?_put]
  split
  · simp [Row.isLive, put, hd]
  · rfl

lemma holding_drop (key k : String) :
    ({ ks with rows := ks.rows.drop key } : Keyspace).holding k =
      if k = key then none else ks.holding k := by
  simp only [holding, live?_drop]
  split <;> rfl

end Keyspace

/-! ### One beat -/

/-- The server carries everything out, and both stores say the same of every key. -/
structure Alike (c : ClockedMemory) (l : Link) : Prop where
  plain : l.server.plans = []
  same : ∀ key, l.server.keyspace.holding key = ending (c.holding key)

namespace Alike

variable {c : ClockedMemory} {l : Link} {r : Request}

lemma owner (h : Alike c l) (key : String) :
    l.server.keyspace.owner? key = c.memory.holder c.now key := by
  rw [← Keyspace.holding_owner, h.same key, ← ClockedMemory.holding_owner, ending, Option.map_map]
  rfl

/-- The holdings of the two stores after each has set the same key. -/
lemma put (h : Alike c l) {key : String} {token : Token} {ttl : Span}
    (hpos : 0 < ttl.nanos) (hms : ttlMillis ttl * 1000000 = ttl.nanos) (k : String) :
    (l.server.keyspace.put key
      ⟨token, some (l.server.keyspace.now + ttlMillis ttl)⟩).holding k =
    ending (({ c with memory := ⟨c.memory.entries.put key ⟨token, c.now + ttl.nanos⟩⟩ } :
      ClockedMemory).holding k) := by
  rw [Keyspace.holding_put (Keyspace.ttlMillis_pos ttl), ClockedMemory.holding_put hpos, hms,
    h.same k]
  split <;> rfl

/-- The holdings of the two stores after each has dropped the same key. -/
lemma drop (h : Alike c l) (key k : String) :
    ({ l.server.keyspace with rows := l.server.keyspace.rows.drop key } : Keyspace).holding k =
    ending (({ c with memory := c.memory.expire key } : ClockedMemory).holding k) := by
  rw [Keyspace.holding_drop, ClockedMemory.holding_expire, h.same k]
  split <;> rfl

/-- Whole milliseconds that a server can read are what they are in memory. -/
lemma ttlMillis_mul {d : Span} (hwhole : d.nanos % 1000000 = 0) (hpos : 0 < d.nanos)
    {now : Nat} (hfit : now + d.millis < Keyspace.limit) :
    ttlMillis d = d.millis ∧ ttlMillis d * 1000000 = d.nanos := by
  unfold ttlMillis Span.millis at *
  unfold Keyspace.limit Width.bits63 at hfit
  unfold Width.bits64
  omega

/-- **Both stores answer a request alike, and say the same of every key afterwards.** -/
theorem request (h : Alike c l)
    (hr : ∀ d, r.ttl? = some d → d.nanos % 1000000 = 0 ∧ 0 < d.nanos ∧
      l.server.keyspace.now + d.millis < Keyspace.limit ∧ c.now + d.nanos < Instant.limit) :
    ∃ yes, (c.beat (.request r)).1 = some yes ∧ (l.beat (.request r)).1 = some (.granted yes) ∧
      Alike (c.beat (.request r)).2 (l.beat (.request r)).2 := by
  obtain ⟨hreply, hkeys, hplans⟩ := Server.evaluate_plain h.plain r
  have hran := Script.program_ran l.server.keyspace r
  generalize ((Script.program r).run l.server.keyspace).1 = reply at hreply hran
  generalize ((Script.program r).run l.server.keyspace).2.1 = ks at hkeys hran
  rcases hserve : c.memory.serve c.now r with ⟨answer, memory⟩
  -- what is left to show, once the reply and the keys are known
  have finish : ∀ yes, answer = some yes → Link.response r reply = .granted yes →
      (∀ k, ks.holding k = ending (({ c with memory } : ClockedMemory).holding k)) →
      ∃ yes, (c.beat (.request r)).1 = some yes ∧ (l.beat (.request r)).1 = some (.granted yes) ∧
        Alike (c.beat (.request r)).2 (l.beat (.request r)).2 := by
    intro yes hanswer hresponse hsame
    refine ⟨yes, ?_, ?_, ?_, ?_⟩
    · simp [ClockedMemory.beat, hserve, hanswer]
    · simp [Link.beat, Link.put, hreply, hresponse]
    · exact hplans
    · simpa [Link.beat, Link.put, hkeys, ClockedMemory.beat, hserve] using hsame
  cases Memory.served_of_serve hserve with
  | acquired free fits =>
    obtain ⟨hwhole, hpos, hfit, -⟩ := hr _ rfl
    obtain ⟨hms, hmul⟩ := ttlMillis_mul hwhole hpos hfit
    obtain ⟨rfl, rfl⟩ := hran.acquire_free (by simpa [h.owner] using free) (hms ▸ hfit)
    exact finish true rfl rfl (h.put hpos hmul)
  | refreshed own fits =>
    obtain ⟨hwhole, hpos, hfit, -⟩ := hr _ rfl
    obtain ⟨hms, hmul⟩ := ttlMillis_mul hwhole hpos hfit
    obtain ⟨rfl, rfl⟩ := hran.refresh_own (by rwa [h.owner]) (hms ▸ hfit)
    exact finish true rfl rfl (h.put hpos hmul)
  | released own =>
    obtain ⟨rfl, rfl⟩ := hran.release_own (by rwa [h.owner])
    exact finish true rfl rfl (h.drop _)
  | taken held other =>
    obtain ⟨hwhole, hpos, hfit, -⟩ := hr _ rfl
    obtain ⟨hms, -⟩ := ttlMillis_mul hwhole hpos hfit
    obtain ⟨rfl, rfl⟩ := hran.acquire_taken (by rwa [h.owner]) other (hms ▸ hfit)
    exact finish false rfl rfl h.same
  | stale other =>
    obtain ⟨hwhole, hpos, hfit, -⟩ := hr _ rfl
    obtain ⟨hms, -⟩ := ttlMillis_mul hwhole hpos hfit
    obtain ⟨rfl, rfl⟩ := hran.refresh_stale (by rwa [h.owner]) (hms ▸ hfit)
    exact finish false rfl rfl h.same
  | foreign other =>
    obtain ⟨rfl, rfl⟩ := hran.release_foreign (by rwa [h.owner])
    exact finish false rfl rfl h.same
  | swept dead =>
    obtain ⟨rfl, rfl⟩ := hran.release_foreign (by simp [h.owner, Memory.holder, dead])
    refine finish false rfl rfl fun k => ?_
    rw [ClockedMemory.holding_expire, h.same k]
    split
    · next hk => subst hk; simp [ClockedMemory.holding, dead]
    · rfl
  | acquireOverflow free full | refreshOverflow own full =>
    obtain ⟨-, -, -, hfit⟩ := hr _ rfl
    omega

/-- Time passes for both stores. -/
lemma pass (h : Alike c l) (millis : Nat) :
    Alike (c.beat (.pass millis)).2 (l.beat (.pass millis)).2 where
  plain := h.plain
  same key := by
    have hms := ClockedMemory.holding_later c.memory c.now (millis * 1000000) key
    have hks := Keyspace.holding_advance (h.same key) millis
    rw [← hms] at hks
    exact hks

/-- Two stores that start with no keys. -/
lemma empty {l : Link} (hrows : l.server.keyspace.rows = .empty) (hplain : l.server.plans = [])
    (nanos : Nat) : Alike ⟨nanos, .empty⟩ l where
  plain := hplain
  same key := by simp [Keyspace.holding, Keyspace.live?, hrows, ending, ClockedMemory.holding]

/-- Suitable beats keep two stores alike, and leave suitable ones. -/
lemma play (h : Alike c l) {before rest : List Beat}
    (hs : Beat.Suit l.server.keyspace.now c.now (before ++ rest)) :
    Alike (c.play before) (l.play before) ∧
      Beat.Suit (l.play before).server.keyspace.now (c.play before).now rest := by
  induction before generalizing c l with
  | nil => exact ⟨h, hs⟩
  | cons b before ih =>
    cases b with
    | request r =>
      obtain ⟨hr, hrest⟩ := hs
      obtain ⟨yes, -, -, hnext⟩ := h.request hr
      refine ih hnext ?_
      have hnow := (Server.evaluate_plain h.plain r).2.1
      have hsame := (Script.program_ran l.server.keyspace r).now_eq
      simpa [Link.beat, Link.put, hnow, hsame, ClockedMemory.beat] using hrest
    | pass millis => exact ih (h.pass millis) hs

end Alike

/-- **The two stores agree.** Whole milliseconds pass between requests for whole milliseconds,
at least one, and the clocks do not end: then each request gets the same answer of the store in
memory as of the server, and before and after each of them a key has the same owner for the
same time. Either store may start at any instant, and the server need not know the scripts. -/
theorem backends_agree {l : Link} (hrows : l.server.keyspace.rows = .empty)
    (hplain : l.server.plans = []) (nanos : Nat) (before rest : List Beat)
    (hs : Beat.Suit l.server.keyspace.now nanos (before ++ rest)) :
    (∀ key, (l.play before).server.keyspace.holding key =
      (((⟨nanos, .empty⟩ : ClockedMemory).play before).holding key).map
        fun (token, left) => (token, some left)) ∧
    ∀ r beats, rest = .request r :: beats → ∃ yes,
      (((⟨nanos, .empty⟩ : ClockedMemory).play before).beat (.request r)).1 = some yes ∧
      ((l.play before).beat (.request r)).1 = some (.granted yes) := by
  obtain ⟨halike, hsuit⟩ := (Alike.empty hrows hplain nanos).play hs
  refine ⟨halike.same, ?_⟩
  rintro r beats rfl
  obtain ⟨yes, hmemory, hserver, -⟩ := halike.request hsuit.1
  exact ⟨yes, hmemory, hserver⟩

/-- Two owners in turn, the second at the deadline of the first. -/
theorem backends_agree_in_turn :
    let l : Link := ⟨⟨⟨7, .empty⟩, [], [], [], []⟩, none⟩
    let c : ClockedMemory := ⟨500, .empty⟩
    let before : List Beat := [.request (.acquire "k" (.named "a") (.ofMillis 10)), .pass 9,
      .request (.acquire "k" (.named "b") (.ofMillis 10)), .pass 1]
    let next := Request.acquire "k" (.named "b") (.ofMillis 10)
    (∀ key, (l.play before).server.keyspace.holding key =
      ((c.play before).holding key).map fun (token, left) => (token, some left)) ∧
    ∃ yes, ((c.play before).beat (.request next)).1 = some yes ∧
      ((l.play before).beat (.request next)).1 = some (.granted yes) := by
  intro l c before next
  have hs : Beat.Suit l.server.keyspace.now c.now (before ++ [.request next]) := by
    simp [Beat.Suit, l, c, before, next, Request.ttl?, Span.ofMillis, Span.millis,
      Span.nanos_ofNanos, Span.limit, Keyspace.limit, Width.bits63, Instant.limit]
  obtain ⟨hsame, hanswer⟩ := backends_agree (l := l) rfl rfl c.now before [.request next] hs
  exact ⟨hsame, hanswer next [] rfl⟩

end Redis
end LeaseLock
