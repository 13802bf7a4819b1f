import Mathlib.Tactic.Common
import LeaseLock.Store.Memory
import LeaseLock.Store.Trace

/-!
What serving a request does to the store in memory.

`Served` lists every way in which a request can be answered, each with what it needs of the
current owner and with the table it leaves. Proofs about runs of the store look at requests
only through `serve_served`, and at tables only through `holder` and `live?`.
-/

namespace LeaseLock.Memory

variable {m m' : Memory} {now : Nat} {key k : String} {token : Token} {e : Entry}

lemma find?_of_live (h : m.live? now key = some e) : m.entries.find? key = some e :=
  (Option.filter_eq_some_iff.mp h).1

lemma lt_of_live (h : m.live? now key = some e) : now < e.expires := by
  have := (Option.filter_eq_some_iff.mp h).2
  simpa [Entry.isLive] using this

lemma live?_eq_some : m.live? now key = some e ↔
    m.entries.find? key = some e ∧ now < e.expires := by
  simp [live?, Option.filter_eq_some_iff, Entry.isLive]

lemma live?_eq_none : m.live? now key = none ↔
    ∀ e, m.entries.find? key = some e → e.expires ≤ now := by
  simp [live?, Option.filter_eq_none_iff, Entry.isLive]

lemma holder_eq_some : m.holder now key = some token ↔
    ∃ e, m.live? now key = some e ∧ e.token = token := by
  simp [holder]

@[simp] lemma live?_empty (now : Nat) (key : String) : empty.live? now key = none := rfl

@[simp] lemma find?_expire : (m.expire key).entries.find? k =
    if k = key then none else m.entries.find? k :=
  Table.find?_drop m.entries key k

lemma live?_expire : (m.expire key).live? now k =
    if k = key then none else m.live? now k := by
  unfold live?
  rw [find?_expire]
  split <;> rfl

lemma live?_put : (⟨m.entries.put key e⟩ : Memory).live? now k =
    if k = key then (if now < e.expires then some e else none) else m.live? now k := by
  unfold live?
  simp only [Table.find?_put]
  split
  · simp [Option.filter, Entry.isLive]
  · rfl

/-- What is live later is what is live now and lasts until then. -/
lemma live?_later {later : Nat} (h : now ≤ later) :
    m.live? later key = (m.live? now key).filter (·.isLive later) := by
  unfold live?
  cases m.entries.find? key with
  | none => rfl
  | some e =>
    by_cases hl : later < e.expires
    · have hn : now < e.expires := Nat.lt_of_le_of_lt h hl
      simp [Option.filter, Entry.isLive, hl, hn]
    · by_cases hn : now < e.expires <;> simp [Option.filter, Entry.isLive, hl, hn]

/-- An owner who holds a key at one instant held it at any earlier one. -/
lemma holder_of_le {later : Nat} (hl : now ≤ later) (h : m.holder later key = some token) :
    m.holder now key = some token := by
  obtain ⟨e, he, ht⟩ := holder_eq_some.mp h
  obtain ⟨hf, hlt⟩ := live?_eq_some.mp he
  exact holder_eq_some.mpr ⟨e, live?_eq_some.mpr ⟨hf, by omega⟩, ht⟩

/-- Every way in which a request can be answered, and the table that is left. -/
inductive Served (m : Memory) (now : Nat) : Request → Option Bool → Memory → Prop
  | acquired {key : String} {token : Token} {ttl : Span}
      (free : ∀ owner, m.holder now key = some owner → owner = token)
      (fits : now + ttl.nanos < Instant.limit) :
      Served m now (.acquire key token ttl) (some true)
        ⟨m.entries.put key ⟨token, now + ttl.nanos⟩⟩
  | refreshed {key : String} {token : Token} {ttl : Span}
      (own : m.holder now key = some token) (fits : now + ttl.nanos < Instant.limit) :
      Served m now (.refresh key token ttl) (some true)
        ⟨m.entries.put key ⟨token, now + ttl.nanos⟩⟩
  | released {key : String} {token : Token} (own : m.holder now key = some token) :
      Served m now (.release key token) (some true) (m.expire key)
  | taken {key : String} {token owner : Token} {ttl : Span}
      (held : m.holder now key = some owner) (other : owner ≠ token) :
      Served m now (.acquire key token ttl) (some false) m
  | stale {key : String} {token : Token} {ttl : Span}
      (other : m.holder now key ≠ some token) :
      Served m now (.refresh key token ttl) (some false) m
  | foreign {key : String} {token : Token} (other : m.holder now key ≠ some token) :
      Served m now (.release key token) (some false) m
  /-- A release finds a dead entry and takes it away. -/
  | swept {key : String} {token : Token} (dead : m.live? now key = none) :
      Served m now (.release key token) (some false) (m.expire key)
  | acquireOverflow {key : String} {token : Token} {ttl : Span}
      (free : ∀ owner, m.holder now key = some owner → owner = token)
      (full : Instant.limit ≤ now + ttl.nanos) :
      Served m now (.acquire key token ttl) none m
  | refreshOverflow {key : String} {token : Token} {ttl : Span}
      (own : m.holder now key = some token) (full : Instant.limit ≤ now + ttl.nanos) :
      Served m now (.refresh key token ttl) none m

lemma holder_of_live (h : m.live? now key = some e) : m.holder now key = some e.token := by
  simp [holder, h]

/-- The owner of a key is the one in its entry, as long as that lasts. -/
lemma holder_of_find? (h : m.entries.find? key = some e) (now : Nat) :
    m.holder now key = if now < e.expires then some e.token else none := by
  by_cases hlt : now < e.expires <;> simp [holder, live?, h, Entry.isLive, hlt, Option.filter]

/-- A write is answered according to whether the clock can name its deadline. -/
lemma served_write {r : Request} {ttl : Span}
    (fits : now + ttl.nanos < Instant.limit →
      Served m now r (some true) ⟨m.entries.put key ⟨token, now + ttl.nanos⟩⟩)
    (full : Instant.limit ≤ now + ttl.nanos → Served m now r none m) :
    Served m now r (m.write now key token ttl).1 (m.write now key token ttl).2 := by
  unfold write
  split
  · next expires h =>
    obtain ⟨hlt, rfl⟩ := Instant.after?_eq_some.mp h
    exact fits hlt
  · next h => exact full (Instant.after?_eq_none.mp h)

/-- **Every request is answered in one of the ways of `Served`.** -/
theorem serve_served (m : Memory) (now : Nat) (r : Request) :
    Served m now r (m.serve now r).1 (m.serve now r).2 := by
  cases r with
  | acquire key token ttl =>
    simp only [serve]
    split
    · next e he =>
      have hh := holder_of_live he
      split
      · next ht =>
        subst ht
        exact served_write (.acquired fun owner ho => by simp_all)
          (.acquireOverflow fun owner ho => by simp_all)
      · next ht => exact .taken hh ht
    · next he =>
      have hh : m.holder now key = none := by simp [holder, he]
      exact served_write (.acquired (by simp [hh])) (.acquireOverflow (by simp [hh]))
  | refresh key token ttl =>
    simp only [serve]
    split
    · next e he =>
      have hh := holder_of_live he
      split
      · next ht =>
        subst ht
        exact served_write (.refreshed hh) (.refreshOverflow hh)
      · next ht => exact .stale (by simp [hh, ht])
    · next he => exact .stale (by simp [holder, he])
  | release key token =>
    simp only [serve]
    split
    · next he => exact .foreign (by simp [holder, live?, he])
    · next e he =>
      split
      · next hd => exact .swept (live?_eq_none.mpr fun e' he' => by simp_all [Entry.isLive])
      · next hd =>
        have hl : m.live? now key = some e := live?_eq_some.mpr ⟨he, by
          simpa [Entry.isLive] using hd⟩
        have hh := holder_of_live hl
        split
        · next ht => subst ht; exact .released hh
        · next ht => exact .foreign (by simp [hh, ht])

/-- A request that fails for want of an instant leaves the table as it was. -/
lemma Served.eq_of_overflow {r : Request} (h : Served m now r none m') : m' = m := by
  cases h <;> rfl

/-- A key that is granted to a new owner has no other. -/
lemma Served.free {ttl : Span} (h : Served m now (.acquire key token ttl) (some true) m') :
    ∀ owner, m.holder now key = some owner → owner = token := by
  cases h; assumption

lemma served_of_serve {r : Request} {answer : Option Bool}
    (h : m.serve now r = (answer, m')) : Served m now r answer m' := by
  have := serve_served m now r
  rwa [h] at this

/-! ### Who holds a key afterwards -/

lemma holder_put : (⟨m.entries.put key e⟩ : Memory).holder now k =
    if k = key then (if now < e.expires then some e.token else none) else m.holder now k := by
  unfold holder
  rw [live?_put]
  split
  · split <;> rfl
  · rfl

lemma holder_expire : (m.expire key).holder now k =
    if k = key then none else m.holder now k := by
  unfold holder
  rw [live?_expire]
  split <;> rfl

/-- Only a request that presents a token as a new one can make it the holder of a key. -/
lemma Served.holder_ne {r : Request} {answer : Option Bool} (serve : Served m now r answer m')
    (h : m.holder now k ≠ some token) (hr : r.presents? ≠ some token) :
    m'.holder now k ≠ some token := by
  cases serve with
  | @acquired key owner ttl free fits =>
    rw [holder_put]
    split
    · split
      · exact hr
      · simp
    · exact h
  | @refreshed key owner ttl own fits =>
    rw [holder_put]
    split
    · next hk =>
      subst hk
      rw [own] at h
      split
      · exact h
      · simp
    · exact h
  | released own | swept dead =>
    rw [holder_expire]
    split
    · simp
    · exact h
  | _ => exact h

/-- Who does not hold the key is refused. -/
lemma Served.refused {r : Request} {answer : Option Bool} (serve : Served m now r answer m')
    (h : m.holder now r.key ≠ some r.token) (hr : r.presents? = none) :
    answer = some false := by
  cases serve with
  | refreshed own | released own | refreshOverflow own => exact absurd own h
  | acquired | taken | acquireOverflow => cases hr
  | stale | foreign | swept => rfl

/-- The owner of a key refreshes it, if the clock can name the deadline. -/
lemma Served.refresh_own {ttl : Span} {yes : Bool}
    (serve : Served m now (.refresh key token ttl) (some yes) m')
    (own : m.holder now key = some token) :
    yes = true ∧ m'.entries.find? key = some ⟨token, now + ttl.nanos⟩ ∧
      now + ttl.nanos < Instant.limit := by
  cases serve with
  | refreshed own' fits => exact ⟨rfl, by simp [Table.find?_put], fits⟩
  | stale other => exact absurd own other

/-- A request for another key leaves an entry as it is. -/
lemma Served.find?_of_ne {r : Request} {answer : Option Bool} (serve : m.Served now r answer m')
    (h : r.key ≠ key) : m'.entries.find? key = m.entries.find? key := by
  cases serve with
  | acquired | refreshed => exact (Table.find?_put ..).trans (if_neg (Ne.symm h))
  | released | swept => exact find?_expire.trans (if_neg (Ne.symm h))
  | taken | stale | foreign | acquireOverflow | refreshOverflow => rfl

/-! ### Deadlines -/

/-- Whether every deadline in the table is one that the clock can name. -/
def Bounded (m : Memory) : Prop :=
  ∀ key e, m.entries.find? key = some e → e.expires < Instant.limit

lemma Bounded.expire (h : m.Bounded) (key : String) : (m.expire key).Bounded := by
  intro k e hf
  rw [find?_expire] at hf
  split at hf
  · cases hf
  · exact h k e hf

lemma Bounded.put (h : m.Bounded) (he : e.expires < Instant.limit) (key : String) :
    (⟨m.entries.put key e⟩ : Memory).Bounded := by
  intro k x hf
  simp only [Table.find?_put] at hf
  split at hf
  · cases hf
    exact he
  · exact h k x hf

lemma Served.bounded {r : Request} {answer : Option Bool} (serve : Served m now r answer m')
    (h : m.Bounded) : m'.Bounded := by
  cases serve with
  | acquired free fits => exact h.put fits _
  | refreshed own fits => exact h.put fits _
  | released | swept => exact h.expire _
  | taken | stale | foreign | acquireOverflow | refreshOverflow => exact h

end LeaseLock.Memory
