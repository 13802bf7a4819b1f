import Mathlib.Tactic.Common
import LeaseLock.Proofs.World.Frame
import LeaseLock.Proofs.World.Steps
import LeaseLock.World.History

/-!
What an act does to the clock, to the store, to the tokens and to the history.

An act adds at most one event, and the store changes only by an act that says so in its event.
`exists_act` finds the act behind an event of a run.
-/

namespace LeaseLock

/-- Whether the event is about neither the store nor a request. -/
def Event.Quiet : Event → Prop
  | .fired .. | .ended .. => True
  | .asked .. | .served .. | .intruded .. | .expired .. => False

namespace Event.Quiet

variable {e : Event}

lemma granted? (h : e.Quiet) : e.granted? = none := by
  cases e <;> first | rfl | cases h

lemma drops (h : e.Quiet) (key : String) : e.drops key = false := by
  cases e <;> first | rfl | cases h

lemma request? (h : e.Quiet) (i : Nat) : e.request? i = none := by
  cases e <;> first | rfl | cases h

end Event.Quiet

namespace World

variable {w w' : World} {i : Nat} {t : Task} {a : Act}

/-- Every way in which an act can touch the clock, the store, the tokens and the history. -/
inductive Effect (w : World) (a : Act) (w' : World) : Prop
  | still (memory : w'.memory = w.memory) (history : w'.history = w.history)
      (now : w.now ≤ w'.now) (minted : w'.minted = w.minted)
  | noted (e : Event) (quiet : e.Quiet) (memory : w'.memory = w.memory)
      (history : w'.history = e :: w.history) (now : w'.now = w.now)
      (minted : w'.minted = w.minted)
  | asked (i : Nat) (t : Task) (p : Process) (r : Request) (act : a = .step i)
      (task : w.tasks[i]? = some t) (turn : t.turn? w = some (.ask p r))
      (memory : w'.memory = w.memory) (history : w'.history = .asked w.now i r :: w.history)
      (now : w'.now = w.now)
      (minted : w'.minted = w.minted + if r.presents?.isSome then 1 else 0)
  | served (i : Nat) (t : Task) (u : Underway) (yes : Bool) (act : a = .step i)
      (task : w.tasks[i]? = some t) (underway : t.underway = some u)
      (stage : u.stage = .arrived)
      (serve : w.memory.Served w.now u.request (some yes) w'.memory)
      (history : w'.history = .served w.now i u.request yes :: w.history)
      (now : w'.now = w.now) (minted : w'.minted = w.minted)
  | intruded (r : Request) (yes : Bool) (act : a = .intrude r)
      (serve : w.memory.Served w.now r (some yes) w'.memory)
      (history : w'.history = .intruded w.now r yes :: w.history)
      (now : w'.now = w.now) (minted : w'.minted = w.minted)
  | expired (key : String) (memory : w'.memory = w.memory.expire key)
      (history : w'.history = .expired w.now key :: w.history)
      (now : w'.now = w.now) (minted : w'.minted = w.minted) (act : a = .expire key)

/-- What a task holds is none of the things that effects are about. -/
lemma Effect.setTask (h : Effect w a w') (i : Nat) (t : Task) : Effect w a (w'.setTask i t) := by
  cases h with
  | still memory history now minted => exact .still memory history now minted
  | noted e quiet memory history now minted => exact .noted e quiet memory history now minted
  | asked j x p r act task turn memory history now minted =>
    exact .asked j x p r act task turn memory history now minted
  | served j x u yes act task underway stage serve history now minted =>
    exact .served j x u yes act task underway stage serve history now minted
  | intruded r yes act serve history now minted =>
    exact .intruded r yes act serve history now minted
  | expired key memory history now minted act =>
    exact .expired key memory history now minted act

lemma fire_effect (w : World) (s : Signal) : Effect w a (w.fire s) := by
  rcases w.fire_cases s with ⟨-, h⟩ | ⟨-, h⟩
  · rw [h]
    exact .still rfl rfl (Nat.le_refl _) rfl
  · exact .noted (.fired w.now s) trivial (by simp) h (by simp) (by simp)

lemma finish_effect (w : World) (i : Nat) (t : Task) (ending : Ending) :
    Effect w a (w.finish i t ending) :=
  .noted (.ended w.now i ending) trivial (by simp) (by simp) (by simp) (by simp)

lemma Moved.effect (ht : w.tasks[i]? = some t) (h : Moved w i t w') :
    Effect w (.step i) w' := by
  cases h with
  | served u yes m underway stage deed serve =>
    exact .served i t u yes rfl ht underway stage serve rfl rfl rfl
  | _ => exact .still rfl rfl (Nat.le_refl _) rfl

lemma Turned.effect (ht : w.tasks[i]? = some t) (h : Turned w i t w') :
    Effect w (.step i) w' := by
  cases h with
  | fired p signal turn => exact (w.fire_effect signal).setTask i _
  | asked p r turn =>
    exact .asked i t p r rfl ht turn rfl (ask_history ..) rfl (ask_minted ..)
  | leased grant turn =>
    let w₁ := w.newSignal.2
    exact .noted (.ended w.now i _) trivial (w₁.finish_memory i t _) (w₁.finish_history i t _)
      (w₁.finish_now i t _) (w₁.finish_minted i t _)
  | went | joined | entered | launched => exact .still rfl rfl (Nat.le_refl _) rfl
  | _ => exact w.finish_effect i t _

/-- **An act does to the store what its event says, and nothing if it has none.** -/
theorem act_effect (w : World) (a : Act) : Effect w a (w.act a) := by
  cases a with
  | step i =>
    rcases w.act_step i with h | ⟨t, ht, -, hm | htu⟩
    · rw [h]
      exact .still rfl rfl (Nat.le_refl _) rfl
    · exact hm.effect ht
    · exact htu.effect ht
  | advance d => exact .still rfl rfl (Nat.le_add_right _ _) rfl
  | spawn process => exact .still rfl rfl (Nat.le_refl _) rfl
  | abort i =>
    rcases w.act_abort i with h | ⟨t, -, -, h⟩
    · rw [h]
      exact .still rfl rfl (Nat.le_refl _) rfl
    · rw [h]
      exact w.finish_effect i t _
  | fire s => exact w.fire_effect s
  | newSignal => exact .still rfl rfl (Nat.le_refl _) rfl
  | expire key => exact .expired key rfl rfl rfl rfl rfl
  | intrude r =>
    simp only [act]
    split
    · next yes m h => exact .intruded r yes rfl (Memory.served_of_serve h) rfl rfl rfl
    · next m h =>
      exact .still (Memory.served_of_serve h).eq_of_overflow rfl (Nat.le_refl _) rfl
  | plan plans => exact .still rfl rfl (Nat.le_refl _) rfl

/-- What an act is to task `j`: time that passes, a step of its own, or neither. -/
inductive Act.View (j : Nat) : Act → Prop
  | advance (d : Nat) : View j (.advance d)
  | own : View j (.step j)
  | other {a : Act} (hstep : a ≠ .step j) (hadvance : ∀ d, a ≠ .advance d) : View j a

lemma Act.view (a : Act) (j : Nat) : a.View j := by
  by_cases hadvance : ∃ d, a = .advance d
  · obtain ⟨d, rfl⟩ := hadvance
    exact .advance d
  by_cases hstep : a = .step j
  · exact hstep ▸ .own
  · exact .other hstep fun d hd => hadvance ⟨d, hd⟩

/-- Time passes only when the clock advances. -/
lemma act_now (w : World) (ha : ∀ x, a ≠ .advance x) : (w.act a).now = w.now := by
  cases a with
  | step i =>
    rcases w.act_step i with h | ⟨t, -, -, hm | htu⟩
    · rw [h]
    · generalize w.act (.step i) = v at hm ⊢
      cases hm <;> rfl
    · generalize w.act (.step i) = v at htu ⊢
      cases htu with
      | fired p signal turn => exact w.fire_now signal
      | leased grant turn => exact w.newSignal.2.finish_now i t _
      | went | asked | joined | entered | launched => rfl
      | _ => exact w.finish_now i t _
  | advance x => exact absurd rfl (ha x)
  | abort i =>
    rcases w.act_abort i with h | ⟨t, -, -, h⟩
    · rw [h]
    · rw [h, finish_now]
  | fire s => exact w.fire_now s
  | intrude r =>
    simp only [act]
    split <;> rfl
  | spawn | newSignal | expire | plan => rfl

lemma minted_le_act (w : World) (b : Act) : w.minted ≤ (w.act b).minted := by
  cases w.act_effect b with
  | asked _ _ _ _ _ _ _ _ _ _ minted => exact minted ▸ Nat.le_add_right ..
  | still _ _ _ minted | noted _ _ _ _ _ minted | served _ _ _ _ _ _ _ _ _ _ _ minted
  | intruded _ _ _ _ _ _ minted | expired _ _ _ _ minted => exact Nat.le_of_eq minted.symm

/-! ### The history of a run -/

/-- An act adds at most one event. -/
lemma act_history (w : World) (a : Act) :
    (w.act a).history = w.history ∨ ∃ e, (w.act a).history = e :: w.history := by
  cases w.act_effect a with
  | still memory history => exact .inl history
  | noted e quiet memory history => exact .inr ⟨_, history⟩
  | asked i t p r act task turn memory history => exact .inr ⟨_, history⟩
  | served i t u yes act task underway stage serve history => exact .inr ⟨_, history⟩
  | intruded r yes act serve history => exact .inr ⟨_, history⟩
  | expired key memory history => exact .inr ⟨_, history⟩

@[simp] lemma run_nil (w : World) : w.run [] = w := rfl

@[simp] lemma run_cons (w : World) (a : Act) (acts : List Act) :
    w.run (a :: acts) = (w.act a).run acts := rfl

lemma run_append (w : World) (before after : List Act) :
    w.run (before ++ after) = (w.run before).run after :=
  List.foldl_append ..

/-- What every act of a run preserves, the run preserves. -/
lemma run_induction {P : World → Prop} {acts : List Act} (h : P w)
    (hstep : ∀ v, ∀ a ∈ acts, P v → P (v.act a)) : P (w.run acts) := by
  induction acts generalizing w with
  | nil => exact h
  | cons a acts ih =>
    exact ih (hstep w a List.mem_cons_self h)
      fun v b hb => hstep v b (List.mem_cons_of_mem a hb)

/-- What holds after a run and not before it comes about by one of the acts. -/
lemma exists_turning {P : World → Prop} {acts : List Act} (h : ¬ P w) (hrun : P (w.run acts)) :
    ∃ before a after, acts = before ++ a :: after ∧ ¬ P (w.run before) ∧
      P ((w.run before).act a) := by
  induction acts generalizing w with
  | nil => exact absurd hrun h
  | cons a acts ih =>
    by_cases ha : P (w.act a)
    · exact ⟨[], a, acts, rfl, h, ha⟩
    · obtain ⟨before, b, after, rfl, hb, hb'⟩ := ih ha hrun
      exact ⟨a :: before, b, after, rfl, hb, hb'⟩

/-- A run only adds to the history. -/
lemma run_history (w : World) (acts : List Act) :
    ∃ news, (w.run acts).history = news ++ w.history := by
  induction acts generalizing w with
  | nil => exact ⟨[], rfl⟩
  | cons a acts ih =>
    obtain ⟨news, h⟩ := ih (w.act a)
    rcases w.act_history a with ha | ⟨e, ha⟩
    · exact ⟨news, by rw [run_cons, h, ha]⟩
    · exact ⟨news ++ [e], by rw [run_cons, h, ha, List.append_assoc, List.singleton_append]⟩

/-- The events of a run, the latest first. -/
def news (w : World) (acts : List Act) : List Event :=
  (w.run acts).history.take ((w.run acts).history.length - w.history.length)

lemma history_run (w : World) (acts : List Act) :
    (w.run acts).history = w.news acts ++ w.history := by
  obtain ⟨events, h⟩ := w.run_history acts
  simp [news, h]

lemma news_snoc (w : World) (acts : List Act) (b : Act) :
    w.news (acts ++ [b]) = (w.run acts).news [b] ++ w.news acts := by
  have hrun := (w.run acts).history_run [b]
  rw [← run_append, history_run, w.history_run acts, ← List.append_assoc] at hrun
  exact List.append_cancel_right hrun

lemma mem_news {e : Event} (h : (w.act b).history = e :: w.history) : e ∈ w.news [b] := by
  have hrun := w.history_run [b]
  rw [show w.run [b] = w.act b from rfl, h] at hrun
  have hevent : [e] = w.news [b] := List.append_cancel_right hrun
  exact hevent ▸ List.mem_singleton_self e

/-- **Behind every event of a run there is the act that brought it about.** -/
theorem exists_act {acts : List Act} {later older : List Event} {e : Event}
    (h : (w.run acts).history = later ++ e :: older) (hlen : w.history.length ≤ older.length) :
    ∃ before a after, acts = before ++ a :: after ∧ (w.run before).history = older ∧
      ((w.run before).act a).history = e :: older := by
  induction acts generalizing w with
  | nil =>
    have := congrArg List.length h
    simp only [run_nil, List.length_append, List.length_cons] at this
    omega
  | cons a acts ih =>
    by_cases hle : (w.act a).history.length ≤ older.length
    · obtain ⟨before, b, after, rfl, hb, ha⟩ := ih h hle
      exact ⟨a :: before, b, after, rfl, hb, ha⟩
    · -- The event that `a` adds stands where `e` stands, so it is `e`.
      obtain ⟨news, hn⟩ := (w.act a).run_history acts
      rcases w.act_history a with ha | ⟨x, ha⟩
      · rw [ha] at hle
        exact absurd hlen hle
      · rw [ha, List.length_cons] at hle
        have hlen' : (x :: w.history).length = (e :: older).length := by
          simp only [List.length_cons]
          omega
        rw [run_cons, hn, ha] at h
        obtain ⟨-, hx⟩ := List.append_inj' h hlen'
        obtain ⟨rfl, hold⟩ := List.cons.inj hx
        exact ⟨[], a, acts, rfl, hold, by rw [run_nil, ha, hold]⟩

/-- A grant happens at the instant of the act behind it, and is what the store then served. -/
lemma served_of_granted {e : Event} {time : Nat} {r : Request}
    (h : (w.act a).history = e :: w.history) (hg : e.granted? = some (time, r)) :
    time = w.now ∧ w.memory.Served w.now r (some true) (w.act a).memory := by
  cases w.act_effect a with
  | still memory history now =>
    have := congrArg List.length (history.symm.trans h)
    simp at this
  | noted x quiet memory history now =>
    obtain ⟨rfl, -⟩ := List.cons.inj (history.symm.trans h)
    rw [quiet.granted?] at hg
    cases hg
  | asked i t p r act task turn memory history now =>
    obtain ⟨rfl, -⟩ := List.cons.inj (history.symm.trans h)
    cases hg
  | served i t u yes act task underway stage serve history now =>
    obtain ⟨rfl, -⟩ := List.cons.inj (history.symm.trans h)
    cases yes <;> cases hg
    exact ⟨rfl, serve⟩
  | intruded r yes act serve history now =>
    obtain ⟨rfl, -⟩ := List.cons.inj (history.symm.trans h)
    cases yes <;> cases hg
    exact ⟨rfl, serve⟩
  | expired key memory history now =>
    obtain ⟨rfl, -⟩ := List.cons.inj (history.symm.trans h)
    cases hg

/-- A request that the store serves for a task has come to it, and is the one under way. -/
lemma served_of_history {time : Nat} {r : Request} {yes : Bool}
    (h : (w.act a).history = .served time i r yes :: w.history) :
    ∃ t u, w.tasks[i]? = some t ∧ t.underway = some u ∧ u.stage = .arrived ∧ u.request = r ∧
      w.memory.Served w.now r (some yes) (w.act a).memory := by
  cases w.act_effect a with
  | still memory history now =>
    have := congrArg List.length (history.symm.trans h)
    simp at this
  | noted x quiet memory history now =>
    obtain ⟨rfl, -⟩ := List.cons.inj (history.symm.trans h)
    exact quiet.elim
  | served j t u yes act task underway stage serve history now =>
    obtain ⟨heq, -⟩ := List.cons.inj (history.symm.trans h)
    cases heq
    exact ⟨t, u, task, underway, stage, rfl, serve⟩
  | asked j t p r act task turn memory history => cases history.symm.trans h
  | intruded r yes act serve history => cases history.symm.trans h
  | expired key memory history => cases history.symm.trans h

end World
end LeaseLock
