import Mathlib.Tactic.Common
import LeaseLock.Proofs.World.Sound

/-!
The tokens that a world has minted.

Every attempt at a key presents a token of its own, so the store serves at most one request
that presents a given token as new. `Orderly` states this of the history alone, `Kept` that a
minted token owns nothing that it was not granted.
-/

namespace LeaseLock

variable {minted : Nat} {history : List Event} {e : Event} {i j : Nat} {token : Token}
  {r : Request}

/-- Whether the last request of task `i` presents `token` as new and has not been served. -/
def Pending (i : Nat) (token : Token) (history : List Event) : Prop :=
  ∃ r, latest? i history = some (r, none) ∧ r.presents? = some token

/-- Whether the store has served a request that presents `token` as new. -/
def Tried (token : Token) (history : List Event) : Prop :=
  ∃ time i r yes, .served time i r yes ∈ history ∧ r.presents? = some token

/-- Tokens are minted one after another, and presented as new at most once. -/
structure Orderly (minted : Nat) (history : List Event) : Prop where
  pending : ∀ i token, Pending i token history → ∃ n ≤ minted, token = .minted n
  tried : ∀ token, Tried token history → ∃ n ≤ minted, token = .minted n
  untried : ∀ i token, Pending i token history → ¬ Tried token history
  alone : ∀ i j token, Pending i token history → Pending j token history → i = j

lemma orderly_nil : Orderly 0 [] where
  pending i token := by rintro ⟨r, h, -⟩; cases h
  tried token := by rintro ⟨time, i, r, yes, h, -⟩; cases h
  untried i token := by rintro ⟨r, h, -⟩; cases h
  alone i j token := by rintro ⟨r, h, -⟩; cases h

namespace Orderly

/-- An event that is about no request of a task. -/
lemma other (ho : Orderly minted history) (hr : ∀ i, e.request? i = none) :
    Orderly minted (e :: history) := by
  have hpending (i : Nat) (token : Token) :
      Pending i token (e :: history) ↔ Pending i token history := by
    unfold Pending
    rw [latest?_of_none (hr i)]
  have htried (token : Token) (h : Tried token (e :: history)) : Tried token history := by
    obtain ⟨time, i, r, yes, hm, ht⟩ := h
    rcases List.mem_cons.mp hm with rfl | hm
    · simpa [Event.request?] using hr i
    · exact ⟨time, i, r, yes, hm, ht⟩
  exact
    { pending i token h := ho.pending i token ((hpending i token).mp h)
      tried token h := ho.tried token (htried token h)
      untried i token h ht := ho.untried i token ((hpending i token).mp h) (htried token ht)
      alone i j token hi hj :=
        ho.alone i j token ((hpending i token).mp hi) ((hpending j token).mp hj) }

/-- A request that presents the next token, or none. -/
lemma asked (ho : Orderly minted history) {time : Nat} {next : Nat} (hle : minted ≤ next)
    (hnew : ∀ token, r.presents? = some token → token = .minted (minted + 1) ∧ minted < next) :
    Orderly next (.asked time i r :: history) := by
  have hpending {j : Nat} {token : Token} (h : Pending j token (.asked time i r :: history)) :
      (j = i ∧ token = .minted (minted + 1) ∧ minted < next) ∨ Pending j token history := by
    obtain ⟨r', hl, ht⟩ := h
    rw [latest?_cons] at hl
    by_cases hj : i = j
    · simp [Event.request?, hj] at hl
      subst hl
      exact .inl ⟨hj.symm, hnew token ht⟩
    · simp [Event.request?, hj] at hl
      exact .inr ⟨r', hl, ht⟩
  have htried {token : Token} (h : Tried token (.asked time i r :: history)) :
      Tried token history := by
    obtain ⟨time', j, r', yes, hm, ht⟩ := h
    exact ⟨time', j, r', yes, (List.mem_cons.mp hm).resolve_left (by simp), ht⟩
  refine ⟨fun j token h => ?_, fun token h => ?_, fun j token h ht => ?_, fun j k token h h' => ?_⟩
  · rcases hpending h with ⟨-, rfl, hlt⟩ | h
    · exact ⟨minted + 1, hlt, rfl⟩
    · obtain ⟨n, hn, rfl⟩ := ho.pending j token h
      exact ⟨n, Nat.le_trans hn hle, rfl⟩
  · obtain ⟨n, hn, rfl⟩ := ho.tried token (htried h)
    exact ⟨n, Nat.le_trans hn hle, rfl⟩
  · rcases hpending h with ⟨-, rfl, -⟩ | h
    · obtain ⟨n, hn, heq⟩ := ho.tried _ (htried ht)
      cases heq
      omega
    · exact ho.untried j token h (htried ht)
  · rcases hpending h with ⟨rfl, rfl, -⟩ | hj <;> rcases hpending h' with ⟨rfl, heq, -⟩ | hk
    · rfl
    · obtain ⟨n, hn, heq⟩ := ho.pending k _ hk
      cases heq
      omega
    · obtain ⟨n, hn, heq'⟩ := ho.pending j _ hj
      rw [heq] at heq'
      cases heq'
      omega
    · exact ho.alone j k token hj hk

/-- The store serves the request that a task put to it last. -/
lemma served (ho : Orderly minted history) {time : Nat} {yes : Bool}
    (hl : latest? i history = some (r, none)) :
    Orderly minted (.served time i r yes :: history) := by
  have hpending {j : Nat} {token : Token}
      (h : Pending j token (.served time i r yes :: history)) :
      j ≠ i ∧ Pending j token history := by
    obtain ⟨r', hl', ht⟩ := h
    rw [latest?_cons] at hl'
    by_cases hj : i = j
    · simp [Event.request?, hj] at hl'
    · simp [Event.request?, hj] at hl'
      exact ⟨Ne.symm hj, r', hl', ht⟩
  have htried {token : Token} (h : Tried token (.served time i r yes :: history)) :
      Pending i token history ∨ Tried token history := by
    obtain ⟨time', j, r', yes', hm, ht⟩ := h
    rcases List.mem_cons.mp hm with heq | hm
    · cases heq
      exact .inl ⟨r, hl, ht⟩
    · exact .inr ⟨time', j, r', yes', hm, ht⟩
  refine ⟨fun j token h => ho.pending j token (hpending h).2, fun token h => ?_,
    fun j token h ht => ?_,
    fun j k token h h' => ho.alone j k token (hpending h).2 (hpending h').2⟩
  · rcases htried h with h | h
    · exact ho.pending i token h
    · exact ho.tried token h
  · obtain ⟨hne, h⟩ := hpending h
    rcases htried ht with h' | h'
    · exact hne (ho.alone j i token h h')
    · exact ho.untried j token h h'

end Orderly

/-! ### What minted tokens own -/

/-- Every key in the table of the store was granted to its owner, if that is a minted token. -/
def Kept (m : Memory) (history : List Event) : Prop :=
  ∀ key entry n, m.entries.find? key = some entry → entry.token = .minted n →
    ∃ time i ttl, .served time i (.acquire key entry.token ttl) true ∈ history

namespace Kept

variable {m m' : Memory} {now : Nat}

lemma grow (hk : Kept m history) : Kept m (e :: history) := by
  intro key entry n hf ht
  obtain ⟨time, i, ttl, hm⟩ := hk key entry n hf ht
  exact ⟨time, i, ttl, List.mem_cons_of_mem e hm⟩

lemma expire (hk : Kept m history) (key : String) : Kept (m.expire key) history := by
  intro k entry n hf ht
  rw [Memory.find?_expire] at hf
  split at hf
  · cases hf
  · exact hk k entry n hf ht

/-- A write is kept if the owner already has the key, or is granted it by this event. -/
lemma put (hk : Kept m history) {key : String} {entry : Entry}
    (h : ∀ n, entry.token = .minted n →
      ∃ time i ttl, .served time i (.acquire key entry.token ttl) true ∈ history) :
    Kept ⟨m.entries.put key entry⟩ history := by
  intro k x n hf ht
  simp only [Table.find?_put] at hf
  split at hf
  · next heq =>
    cases hf
    rw [heq]
    exact h n ht
  · exact hk k x n hf ht

/-- What the store serves is kept, unless someone else presents a minted token. -/
lemma answer (hk : Kept m history) {yes : Bool} (serve : m.Served now r (some yes) m')
    (he : (∃ time i, e = .served time i r yes) ∨ ∀ n, r.token ≠ .minted n) :
    Kept m' (e :: history) := by
  cases serve with
  | acquired free fits =>
    refine hk.grow.put fun n hn => ?_
    rcases he with ⟨time, i, rfl⟩ | he
    · exact ⟨time, i, _, List.mem_cons_self⟩
    · exact absurd hn (he n)
  | refreshed own fits =>
    obtain ⟨x, hx, ht⟩ := Memory.holder_eq_some.mp own
    refine hk.grow.put fun n hn => ?_
    rw [← ht]
    exact hk.grow _ x n (Memory.find?_of_live hx) (ht.trans hn)
  | released | swept => exact hk.grow.expire _
  | taken | stale | foreign => exact hk.grow

end Kept

/-! ### Runs -/

namespace World

/-- A world whose tasks, tokens and owners are as its history has them. -/
structure Regular (w : World) : Prop where
  sound : w.Sound
  orderly : Orderly w.minted w.history
  kept : Kept w.memory w.history

variable {w : World} {a : Act}

lemma regular_start {plans : Plans} (h : plans.Honest) : (start plans).Regular where
  sound := sound_start h
  orderly := orderly_nil
  kept _ _ _ hf := by cases hf

/-- A request that has come to the store is the last one that its task put. -/
lemma Sound.latest?_of_arrived (hw : w.Sound) {t : Task} {u : Underway}
    (ht : w.tasks[i]? = some t) (hu : t.underway = some u) (hs : u.stage = .arrived) :
    latest? i w.history = some (u.request, none) := by
  rw [(hw.tasks i t ht).told u hu, hs]
  rfl

lemma Sound.orderly_act (hw : w.Sound) (ho : Orderly w.minted w.history) (a : Act) :
    Orderly (w.act a).minted (w.act a).history := by
  cases w.act_effect a with
  | still memory history now minted =>
    rw [history, minted]
    exact ho
  | noted e quiet memory history now minted =>
    rw [history, minted]
    exact ho.other quiet.request?
  | asked i t p r act task turn memory history now minted =>
    rw [history, minted]
    refine ho.asked (Nat.le_add_right _ _) fun token ht => ?_
    have hfresh := (Task.took_of_turn? turn).ask.2 token ht
    exact ⟨hfresh, by simp [ht]⟩
  | served i t u yes act task underway stage serve history now minted =>
    rw [history, minted]
    exact ho.served (hw.latest?_of_arrived task underway stage)
  | intruded r yes act serve history now minted =>
    rw [history, minted]
    exact ho.other fun _ => rfl
  | expired key memory history now minted =>
    rw [history, minted]
    exact ho.other fun _ => rfl

lemma kept_act (hk : Kept w.memory w.history) (ha : a.Lawful) :
    Kept (w.act a).memory (w.act a).history := by
  cases w.act_effect a with
  | still memory history =>
    rw [memory, history]
    exact hk
  | noted e quiet memory history =>
    rw [memory, history]
    exact hk.grow
  | asked i t p r act task turn memory history =>
    rw [memory, history]
    exact hk.grow
  | served i t u yes act task underway stage serve history =>
    rw [history]
    exact hk.answer serve (.inl ⟨_, _, rfl⟩)
  | intruded r yes act serve history =>
    subst act
    rw [history]
    exact hk.answer serve (.inr ha)
  | expired key memory history =>
    rw [memory, history]
    exact hk.grow.expire key

lemma Regular.act (hw : w.Regular) (ha : a.Lawful) : (w.act a).Regular where
  sound := hw.sound.act ha
  orderly := hw.sound.orderly_act hw.orderly a
  kept := kept_act hw.kept ha

lemma Regular.run (hw : w.Regular) {acts : List Act} (ha : ∀ a ∈ acts, a.Lawful) :
    (w.run acts).Regular := by
  induction acts generalizing w with
  | nil => exact hw
  | cons a acts ih =>
    exact ih (hw.act (ha a List.mem_cons_self)) fun b hb => ha b (List.mem_cons_of_mem a hb)

end World
end LeaseLock
