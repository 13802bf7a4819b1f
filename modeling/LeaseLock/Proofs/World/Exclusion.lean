import Mathlib.Tactic.Common
import LeaseLock.Proofs.World.Effect

/-!
Mutual exclusion over whole runs.

The history determines how long an owner may count on a key: until the deadline of the last
write that the store granted it, unless the key was released or dropped since. `Upheld` is
the invariant that the store honours all of these deadlines.
-/

namespace LeaseLock

/-- Until when `token` may count on `key`, going by the history. -/
def standing (key : String) (token : Token) : List Event → Option Nat
  | [] => none
  | e :: history => (e.deadline? key token).or
      (if e.frees key token then none else standing key token history)

/-- The store at instant `now` honours every deadline that has not passed. -/
def Upheld (now : Nat) (m : Memory) (history : List Event) : Prop :=
  ∀ key token deadline, standing key token history = some deadline →
    m.entries.find? key = some ⟨token, deadline⟩ ∨ deadline ≤ now

variable {now : Nat} {m m' : Memory} {history : List Event} {e : Event} {key : String}
  {token : Token}

lemma deadline?_of_none (h : e.granted? = none) : e.deadline? key token = none := by
  simp [Event.deadline?, h]

lemma standing_of_none (h : e.granted? = none) (hd : e.drops key = false) :
    standing key token (e :: history) = standing key token history := by
  simp [standing, deadline?_of_none h, Event.frees, h, hd]

lemma standing_of_write {r : Request} {k : String} {owner : Token} {ttl : Span}
    (h : e.granted? = some (now, r)) (hr : r.write? = some (k, owner, ttl))
    (hd : e.drops key = false) :
    standing key token (e :: history) =
      if k = key ∧ owner = token then some (now + ttl.nanos)
      else standing key token history := by
  have hrel : r ≠ .release key token := by
    rintro rfl
    cases hr
  by_cases hk : k = key ∧ owner = token <;>
    simp [standing, Event.deadline?, Event.frees, h, hr, hd, hk, hrel]

lemma standing_of_release {k : String} {owner : Token}
    (h : e.granted? = some (now, .release k owner)) (hd : e.drops key = false) :
    standing key token (e :: history) =
      if k = key ∧ owner = token then none else standing key token history := by
  simp [standing, Event.deadline?, Event.frees, Request.write?, h, hd]

namespace Upheld

lemma later {after : Nat} (hu : Upheld now m history) (hle : now ≤ after) :
    Upheld after m history := by
  intro key token deadline hs
  rcases hu key token deadline hs with h | h
  · exact .inl h
  · exact .inr (Nat.le_trans h hle)

/-- An event that grants nothing and drops nothing. -/
lemma other (hu : Upheld now m history) (hg : e.granted? = none)
    (hd : ∀ key, e.drops key = false) : Upheld now m (e :: history) := by
  intro key token deadline hs
  rw [standing_of_none hg (hd key)] at hs
  exact hu key token deadline hs

/-- An owner whose deadline has not passed holds the key. -/
lemma holder (hu : Upheld now m history) {deadline : Nat}
    (hs : standing key token history = some deadline) (hlt : now < deadline) :
    m.holder now key = some token := by
  rcases hu key token deadline hs with h | h
  · exact Memory.holder_of_live (Memory.live?_eq_some.mpr ⟨h, hlt⟩)
  · omega

/-- Dropping the entry of a key does no harm to deadlines on other keys, nor to those of the
key if all of them have passed. -/
lemma drop (hu : Upheld now m history) {dropped : String}
    (hdead : ∀ token deadline, standing dropped token history = some deadline →
      deadline ≤ now) : Upheld now (m.expire dropped) history := by
  intro key token deadline hs
  rw [Memory.find?_expire]
  split
  · next hk => exact .inr (hdead token deadline (hk ▸ hs))
  · exact hu key token deadline hs

/-- A write by the holder, or to a key that is free, is upheld. -/
lemma write (hu : Upheld now m history) {r : Request} {k : String} {owner : Token} {ttl : Span}
    (h : e.granted? = some (now, r)) (hr : r.write? = some (k, owner, ttl))
    (hd : ∀ key, e.drops key = false)
    (free : ∀ holder, m.holder now k = some holder → holder = owner) :
    Upheld now ⟨m.entries.put k ⟨owner, now + ttl.nanos⟩⟩ (e :: history) := by
  intro key token deadline hs
  rw [standing_of_write h hr (hd key)] at hs
  simp only [Table.find?_put]
  by_cases hk : key = k
  · subst hk
    by_cases ho : owner = token
    · left
      simp_all
    · -- Another owner's deadline has passed, or the key would not have been free.
      right
      rw [if_neg fun hc => ho hc.2] at hs
      by_contra hlt
      exact ho (free token (hu.holder hs (by omega))).symm
  · rw [if_neg fun hc => hk hc.1.symm] at hs
    rw [if_neg hk]
    exact hu key token deadline hs

lemma release (hu : Upheld now m history) {k : String} {owner : Token}
    (h : e.granted? = some (now, .release k owner)) (hd : ∀ key, e.drops key = false)
    (own : m.holder now k = some owner) : Upheld now (m.expire k) (e :: history) := by
  intro key token deadline hs
  rw [standing_of_release h (hd key)] at hs
  split at hs
  · cases hs
  · next hk =>
    rw [Memory.find?_expire]
    split
    · next hkey =>
      subst hkey
      right
      by_contra hlt
      have := hu.holder hs (by omega)
      exact hk ⟨rfl, by simpa [own] using this⟩
    · exact hu key token deadline hs

/-- Whatever the store answers, the deadlines stay upheld. -/
lemma answer (hu : Upheld now m history) {r : Request} {yes : Bool}
    (serve : m.Served now r (some yes) m')
    (h : e.granted? = if yes then some (now, r) else none)
    (hd : ∀ key, e.drops key = false) : Upheld now m' (e :: history) := by
  cases serve with
  | acquired free fits => exact hu.write h rfl hd free
  | refreshed own fits =>
    exact hu.write h rfl hd fun holder hh => by simpa [own] using hh.symm
  | released own => exact hu.release h hd own
  | taken | stale | foreign => exact hu.other h hd
  | swept dead =>
    refine (hu.drop fun token deadline hs => ?_).other h hd
    by_contra hlt
    have := hu.holder hs (by omega)
    simp [Memory.holder, dead] at this

end Upheld

namespace World

/-- Every world of a run upholds the deadlines of its history. -/
def Honours (w : World) : Prop := Upheld w.now w.memory w.history

lemma honours_start (plans : Plans) : (start plans).Honours := by
  intro key token deadline hs
  cases hs

lemma Honours.act {w : World} (hw : w.Honours) (a : Act) : (w.act a).Honours := by
  unfold Honours at hw ⊢
  cases w.act_effect a with
  | still memory history now =>
    rw [memory, history]
    exact hw.later now
  | noted e quiet memory history now =>
    rw [memory, history, now]
    exact hw.other quiet.granted? quiet.drops
  | asked i t p r act task turn memory history now =>
    rw [memory, history, now]
    exact hw.other rfl fun _ => rfl
  | served i t u yes act task underway stage serve history now =>
    rw [history, now]
    exact hw.answer serve (by cases yes <;> rfl) fun _ => rfl
  | intruded r yes act serve history now =>
    rw [history, now]
    exact hw.answer serve (by cases yes <;> rfl) fun _ => rfl
  | expired key memory history now =>
    rw [memory, history, now]
    intro k token deadline hs
    rw [Memory.find?_expire]
    by_cases hk : k = key
    · simp [standing, Event.deadline?, Event.granted?, Event.frees, Event.drops, hk] at hs
    · rw [if_neg hk]
      rw [standing_of_none rfl (by simp [Event.drops, Ne.symm hk])] at hs
      exact hw k token deadline hs

lemma Honours.run {w : World} (hw : w.Honours) (acts : List Act) : (w.run acts).Honours := by
  induction acts generalizing w with
  | nil => exact hw
  | cons a acts ih => exact ih (hw.act a)

end World

/-- The last grant to an owner stands unless the key was freed since. -/
lemma standing_append {between : List Event} (earlier : List Event) {first : Event}
    (hfirst : (first.deadline? key token).isSome)
    (hb : ∀ e ∈ between, e.frees key token = false) :
    standing key token (between ++ first :: earlier) =
      (between ++ [first]).findSome? (·.deadline? key token) := by
  induction between with
  | nil =>
    obtain ⟨deadline, hd⟩ := Option.isSome_iff_exists.mp hfirst
    simp [standing, hd]
  | cons e between ih =>
    rw [List.cons_append, standing, ih fun x hx => hb x (List.mem_cons_of_mem e hx),
      hb e List.mem_cons_self, List.cons_append, List.findSome?_cons]
    cases e.deadline? key token <;> rfl

/-- **Mutual exclusion.** Whenever the store of a run grants a key to one owner and later to
another, then in between it granted a release by the first owner, or the key was dropped, or
the deadline of the first owner's last write has passed. -/
theorem mutual_exclusion (plans : Plans) (acts : List World.Act)
    {later between earlier : List Event} {first second : Event} {key : String}
    {owner other : Token} {ttl ttl' : Span} {time time' : Nat}
    (h : ((World.start plans).run acts).history =
      later ++ second :: (between ++ first :: earlier))
    (hfirst : first.granted? = some (time, .acquire key owner ttl))
    (hsecond : second.granted? = some (time', .acquire key other ttl'))
    (hne : other ≠ owner) :
    (∃ e ∈ between, ∃ s, e.granted? = some (s, .release key owner)) ∨
    (∃ s, .expired s key ∈ between) ∨
    ∃ deadline, (between ++ [first]).findSome? (·.deadline? key owner) = some deadline ∧
      deadline ≤ time' := by
  obtain ⟨before, a, after, rfl, hold, hact⟩ := World.exists_act h (Nat.zero_le _)
  have hw : ((World.start plans).run before).Honours := (World.honours_start plans).run before
  rw [← hold] at hact
  obtain ⟨rfl, hserve⟩ := World.served_of_granted hact hsecond
  by_cases hfreed : ∃ e ∈ between, e.frees key owner = true
  · obtain ⟨e, he, hf⟩ := hfreed
    rcases Bool.or_eq_true_iff.mp hf with hdrop | hrelease
    · obtain ⟨s, rfl⟩ : ∃ s, e = .expired s key := by
        cases e <;> simp_all [Event.drops]
      exact .inr (.inl ⟨s, he⟩)
    · obtain ⟨⟨s, r⟩, hg, hr⟩ := (Option.any_eq_true _ _).mp hrelease
      exact .inl ⟨e, he, s, by simp_all⟩
  · have hdeadline : (first.deadline? key owner).isSome := by
      simp [Event.deadline?, hfirst, Request.write?]
    have hstands := standing_append earlier hdeadline fun e he => by
      simpa using fun hf => hfreed ⟨e, he, hf⟩
    obtain ⟨deadline, hd⟩ : ∃ deadline,
        (between ++ [first]).findSome? (·.deadline? key owner) = some deadline := by
      rw [← Option.isSome_iff_exists, List.findSome?_isSome_iff]
      exact ⟨first, by simp, hdeadline⟩
    refine .inr (.inr ⟨deadline, hd, ?_⟩)
    by_contra hlt
    rw [← hold] at hstands
    have hheld := hw.holder (hstands.trans hd) (by omega)
    exact hne (hserve.free owner hheld).symm

/-- A second owner gets the key at the deadline of the first, five nanoseconds on. -/
theorem mutual_exclusion_at_deadline :
    let attempt := World.Act.spawn (.errand (.attempt "k" (.ofNanos 5)))
    let w := (World.start ⟨[], [], []⟩).run [attempt, attempt, .step 0, .step 0, .step 0,
      .advance 5, .step 1, .step 1]
    let first := Event.served 0 0 (.acquire "k" (.minted 1) (.ofNanos 5)) true
    let second := Event.served 5 1 (.acquire "k" (.minted 2) (.ofNanos 5)) true
    ∃ between earlier, w.history = [] ++ second :: (between ++ first :: earlier) ∧
      ∃ deadline, (between ++ [first]).findSome? (·.deadline? "k" (.minted 1)) = some deadline ∧
        deadline ≤ 5 := by
  intro attempt w first second
  let between : List Event := [.asked 5 1 (.acquire "k" (.minted 2) (.ofNanos 5)),
    .ended 0 0 (.leased ⟨⟨"k", .minted 1, .ofNanos 5⟩, 0⟩)]
  let earlier : List Event := [.asked 0 0 (.acquire "k" (.minted 1) (.ofNanos 5))]
  have h : w.history = [] ++ second :: (between ++ first :: earlier) := by decide
  refine ⟨between, earlier, h, ?_⟩
  rcases mutual_exclusion ⟨[], [], []⟩ _ h rfl rfl (by decide) with ⟨e, he, s, hs⟩ | ⟨s, hs⟩ | hd
  · simp [between] at he
    rcases he with rfl | rfl <;> cases hs
  · simp [between] at hs
  · exact hd

end LeaseLock
