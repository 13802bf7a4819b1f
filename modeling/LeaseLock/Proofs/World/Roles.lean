import Mathlib.Tactic.Common
import LeaseLock.Proofs.Shared.Listing
import LeaseLock.Proofs.World.Tasks

/-!
What tasks are to flights.

`Role` is what a task is to the flights of its world, and `Crewed` how roles and flights agree. A
flight that boards has at most one caller that is about to launch it; one that was launched has
one task for its work, by whose end it lands.
-/

namespace LeaseLock

/-- What a task is to the flights. -/
inductive Role
  | bystander
  /-- A caller that has entered a flight and is about to launch it. -/
  | launcher (group : String) (number : Nat) (work : Acquisition)
  | waiter (group : String) (number : Nat) (signal : Option Signal) (ending : Option Ending)
  /-- The work of a flight. -/
  | crew (duty : Duty) (ending : Option Ending)

/-- What a caller is to the flights. -/
def Caller.role (c : Caller) (ending : Option Ending) : Role :=
  match c.stage with
  | .entering _ => .bystander
  | .launching number work => if ending.isSome then .bystander else .launcher c.group number work
  | .waiting number => .waiter c.group number c.signal ending

def Process.role (ending : Option Ending) : Process → Role
  | .caller c => c.role ending
  | _ => .bystander

def Task.role (t : Task) : Role :=
  match t.duty with
  | some duty => .crew duty t.ending
  | none => t.process.role t.ending

/-- What becomes of a role by the end of its task. -/
def Role.finish (ending : Ending) : Role → Role
  | .waiter group number signal _ => .waiter group number signal (some ending)
  | .crew duty _ => .crew duty (some ending)
  | .bystander | .launcher .. => .bystander

/-- How far a flight is when its work has ended in a way, or not yet. -/
def Flight.Stage.ofEnding : Option Ending → Flight.Stage Shared
  | none => .flying
  | some ending => .landed (World.outcomeOf ending)

/-- How a caller ends that gets an outcome. -/
def Ending.ofShared : Shared → Ending
  | .ok lease => .leased lease
  | .error e => .failed e

/-! ### Roles -/

lemma Process.role_of_not_caller {p : Process} (h : p.isCaller = false) (ending : Option Ending) :
    p.role ending = .bystander := by
  cases p <;> first | rfl | cases h

lemma Task.role_finish {t : Task} (h : t.ending = none) (ending : Ending) :
    ({ t with underway := none, ending := some ending } : Task).role = t.role.finish ending := by
  obtain ⟨process, underway, duty, e⟩ := t
  subst h
  cases duty with
  | some duty => rfl
  | none =>
    cases process with
    | caller c =>
      simp only [role, Process.role, Caller.role]
      cases c.stage <;> rfl
    | _ => rfl

/-- Of a task that is no caller only its duty and its end count. -/
lemma Task.role_congr {t t' : Task} (hp : t.process.isCaller = false)
    (hp' : t'.process.isCaller = false) (hd : t'.duty = t.duty) (he : t'.ending = t.ending) :
    t'.role = t.role := by
  unfold role
  rw [hd, he, Process.role_of_not_caller hp, Process.role_of_not_caller hp']

/-- Only the work of a flight is its crew. -/
lemma Task.duty_of_role {t : Task} {duty : Duty} {ending : Option Ending}
    (h : t.role = .crew duty ending) : t.duty = some duty := by
  unfold role at h
  split at h
  · next d hd =>
    cases h
    exact hd
  · cases hp : t.process with
    | caller c =>
      rw [hp] at h
      simp only [Process.role, Caller.role] at h
      split at h
      · cases h
      · split at h <;> cases h
      · cases h
    | errand | acquisition | renewal | refused =>
      rw [hp] at h
      cases h

/-- A task that has not ended and is no flight's work. -/
lemma Task.role_cases {t : Task} (hd : t.duty = none) (he : t.ending = none) :
    t.role = .bystander ∨ (∃ group n work, t.role = .launcher group n work) ∨
      ∃ group n signal, t.role = .waiter group n signal none := by
  unfold role
  rw [hd, he]
  cases t.process with
  | caller c =>
    simp only [Process.role, Caller.role]
    cases c.stage with
    | entering work => exact .inl rfl
    | launching number work => exact .inr (.inl ⟨_, _, _, rfl⟩)
    | waiting number => exact .inr (.inr ⟨_, _, _, rfl⟩)
  | _ => exact .inl rfl

/-- Whether a caller is as callers begin: with a new acquisition, under its own signal. -/
def Caller.Begins (c : Caller) : Prop :=
  ∃ group key ttl timeout strategy signal, c = .start group (.start key ttl timeout strategy signal)

@[simp] lemma Caller.begins_start (group key : String) (ttl timeout : Span)
    (strategy : Retry.Strategy) (signal : Option Signal) :
    (start group (.start key ttl timeout strategy signal)).Begins :=
  ⟨group, key, ttl, timeout, strategy, signal, rfl⟩

/-- What a task needs to be for its role to say it all. -/
structure Task.Apt (t : Task) : Prop where
  /-- The work of a flight is an acquisition. -/
  crew : ∀ duty, t.duty = some duty → ∃ a, t.process = .acquisition a
  idle : t.process.isCaller = true → t.underway = none
  begins : ∀ c work, t.process = .caller c → c.stage = .entering work → c.Begins

lemma Task.Apt.of_not_caller {t : Task} (hp : t.process.isCaller = false)
    (hcrew : ∀ duty, t.duty = some duty → ∃ a, t.process = .acquisition a) : t.Apt where
  crew := hcrew
  idle h := by
    rw [hp] at h
    cases h
  begins c work h := by
    rw [h] at hp
    cases hp

/-- A call that goes on is of the kind that it was. -/
lemma Task.Took.kind {w : World} {t : Task} {turn : Turn Process (Option Grant)} {p : Process}
    (h : t.Took w turn) (hp : turn.next? = some p) :
    t.process.isCaller = false ∧ p.isCaller = false ∧
      ∀ a, t.process = .acquisition a → ∃ b, p = .acquisition b := by
  cases h with
  | errand e turn process took =>
    rw [process]
    cases turn <;> cases hp <;> exact ⟨rfl, rfl, fun a ha => by cases ha⟩
  | acquisition a turn process took =>
    rw [process]
    cases turn <;> cases hp <;> exact ⟨rfl, rfl, fun _ _ => ⟨_, rfl⟩⟩
  | renewal x turn process took =>
    rw [process]
    cases turn <;> cases hp <;> exact ⟨rfl, rfl, fun a ha => by cases ha⟩

/-- The machine of a task is no caller's. -/
lemma Task.Took.not_caller {w : World} {t : Task} {turn : Turn Process (Option Grant)}
    (h : t.Took w turn) : t.process.isCaller = false := by
  cases h with
  | errand e turn process took => rw [process]; rfl
  | acquisition a turn process took => rw [process]; rfl
  | renewal x turn process took => rw [process]; rfl

namespace World

variable {w w' : World} {i k n : Nat} {t t' : Task} {group : String}

/-- Whether an act starts callers only where they begin. -/
def Act.Proper : Act → Prop
  | .spawn (.caller c) => c.Begins
  | _ => True

def role? (w : World) (k : Nat) : Option Role := (w.tasks[k]?).map (·.role)

/-- How a caller on a flight may end. -/
def Tells (w : World) (group : String) (number : Nat) (signal : Option Signal)
    (ending : Ending) : Prop :=
  ending = .aborted ∨ (ending = .failed .cancelled ∧ w.hasFired signal = true) ∨
    ∃ outcome, (w.flightsOf group).outcome? number = some outcome ∧ ending = .ofShared outcome

/-- How the tasks of a world agree with its flights. -/
structure Crewed (w : World) : Prop where
  apt : ∀ (k : Nat) (t : Task), w.tasks[k]? = some t → t.Apt
  listed : ∀ group, (w.flightsOf group).Listed
  launcher : ∀ k group n work, w.role? k = some (.launcher group n work) →
    (w.flightsOf group).stage? n = some .boarding
  crew : ∀ k duty ending, w.role? k = some (.crew duty ending) →
    (w.flightsOf duty.group).stage? duty.number = some (.ofEnding ending)
  manned : ∀ group n stage, (w.flightsOf group).stage? n = some stage → stage ≠ .boarding →
    ∃ k ending, w.role? k = some (.crew ⟨group, n⟩ ending)
  waiter : ∀ k group n signal ending, w.role? k = some (.waiter group n signal ending) →
    ((w.flightsOf group).stage? n).isSome ∧ ∀ e, ending = some e → w.Tells group n signal e
  soleLauncher : ∀ j k group n work work', w.role? j = some (.launcher group n work) →
    w.role? k = some (.launcher group n work') → j = k
  soleCrew : ∀ j k duty ending ending', w.role? j = some (.crew duty ending) →
    w.role? k = some (.crew duty ending') → j = k

lemma crewed_start (plans : Plans) : (start plans).Crewed where
  apt k t h := by cases h
  listed group := .empty 0
  launcher k group n work h := by cases h
  crew k duty ending h := by cases h
  manned group n stage h := by cases h
  waiter k group n signal ending h := by cases h
  soleLauncher j k group n work work' h := by cases h
  soleCrew j k duty ending ending' h := by cases h

/-! ### Changes of roles and of flights -/

lemma role?_of_task (ht : w.tasks[k]? = some t) : w.role? k = some t.role := by
  simp [role?, ht]

lemma role?_set (ht : w.tasks[i]? = some t) (htasks : w'.tasks = w.tasks.set i t') (k : Nat) :
    w'.role? k = if k = i then some t'.role else w.role? k := by
  unfold role?
  rw [htasks]
  split
  · next hk =>
    rw [hk, List.getElem?_set_self (List.getElem?_eq_some_iff.mp ht).1]
    rfl
  · next hk => rw [List.getElem?_set_ne (Ne.symm hk)]

lemma role?_push (htasks : w'.tasks = w.tasks ++ [t']) (k : Nat) :
    w'.role? k = if k = w.tasks.length then some t'.role else w.role? k := by
  unfold role?
  rw [htasks]
  split
  · next hk => simp [hk]
  · next hk =>
    rcases Nat.lt_or_ge k w.tasks.length with hlt | hge
    · rw [List.getElem?_append_left hlt]
    · rw [List.getElem?_eq_none (by simp; omega), List.getElem?_eq_none hge]

lemma Tells.mono {signal : Option Signal} {ending : Ending} (h : w.Tells group n signal ending)
    (hfired : ∀ s ∈ w.fired, s ∈ w'.fired)
    (houtcome : ∀ outcome, (w.flightsOf group).outcome? n = some outcome →
      (w'.flightsOf group).outcome? n = some outcome) : w'.Tells group n signal ending := by
  rcases h with h | ⟨h, hs⟩ | ⟨outcome, ho, h⟩
  · exact .inl h
  · refine .inr (.inl ⟨h, ?_⟩)
    cases signal with
    | none => cases hs
    | some s => simpa [hasFired] using hfired s (by simpa [hasFired] using hs)
  · exact .inr (.inr ⟨outcome, houtcome outcome ho, h⟩)

/-- A task whose place another takes that is apt as well. -/
lemma apt_set (hw : ∀ (k : Nat) (t : Task), w.tasks[k]? = some t → t.Apt) (h : t'.Apt)
    (htasks : w'.tasks = w.tasks.set i t') :
    ∀ (k : Nat) (t : Task), w'.tasks[k]? = some t → t.Apt := by
  intro k x hx
  rw [htasks, List.getElem?_set] at hx
  split at hx
  · split at hx
    · cases hx
      exact h
    · cases hx
  · exact hw k x hx

lemma apt_push (hw : ∀ (k : Nat) (t : Task), w.tasks[k]? = some t → t.Apt) (h : t'.Apt)
    (htasks : w'.tasks = w.tasks ++ [t']) :
    ∀ (k : Nat) (t : Task), w'.tasks[k]? = some t → t.Apt := by
  intro k x hx
  rw [htasks] at hx
  rcases List.mem_append.mp (List.mem_of_getElem? hx) with hm | hm
  · obtain ⟨j, hj⟩ := List.getElem?_of_mem hm
    exact hw j x hj
  · obtain rfl := List.mem_singleton.mp hm
    exact h

namespace Crewed

/-- Nobody but bystanders comes or goes, and flights at most begin to board. -/
lemma same (hw : w.Crewed) (hapt : ∀ (k : Nat) (t : Task), w'.tasks[k]? = some t → t.Apt)
    (hroles : ∀ k r, r ≠ .bystander → (w'.role? k = some r ↔ w.role? k = some r))
    (hlisted : ∀ group, (w'.flightsOf group).Listed)
    (hstages : ∀ group n, (w'.flightsOf group).stage? n = (w.flightsOf group).stage? n ∨
      ((w.flightsOf group).stage? n = none ∧ (w'.flightsOf group).stage? n = some .boarding))
    (hfired : ∀ s ∈ w.fired, s ∈ w'.fired) : w'.Crewed := by
  have keep {group : String} {n : Nat} {stage : Flight.Stage Shared}
      (h : (w.flightsOf group).stage? n = some stage) :
      (w'.flightsOf group).stage? n = some stage := by
    rcases hstages group n with hs | ⟨hs, -⟩
    · rw [hs, h]
    · rw [h] at hs
      cases hs
  refine ⟨hapt, hlisted, fun k group n work h => ?_, fun k duty ending h => ?_,
    fun group n stage hs hne => ?_, fun k group n signal ending h => ?_,
    fun j k group n work work' hj hk => ?_, fun j k duty ending ending' hj hk => ?_⟩
  · exact keep (hw.launcher k group n work ((hroles k _ (by simp)).mp h))
  · exact keep (hw.crew k duty ending ((hroles k _ (by simp)).mp h))
  · rcases hstages group n with hsame | ⟨-, hnew⟩
    · obtain ⟨k, ending, hk⟩ := hw.manned group n stage (hsame ▸ hs) hne
      exact ⟨k, ending, (hroles k _ (by simp)).mpr hk⟩
    · rw [hs] at hnew
      exact absurd (Option.some.inj hnew) hne
  · obtain ⟨hsome, htells⟩ := hw.waiter k group n signal ending ((hroles k _ (by simp)).mp h)
    obtain ⟨stage, hstage⟩ := Option.isSome_iff_exists.mp hsome
    refine ⟨by rw [keep hstage]; rfl, fun e he => (htells e he).mono hfired fun outcome ho => ?_⟩
    exact Flights.outcome?_eq_some.mpr (keep (Flights.outcome?_eq_some.mp ho))
  · exact hw.soleLauncher j k group n work work' ((hroles j _ (by simp)).mp hj)
      ((hroles k _ (by simp)).mp hk)
  · exact hw.soleCrew j k duty ending ending' ((hroles j _ (by simp)).mp hj)
      ((hroles k _ (by simp)).mp hk)

end Crewed

/-- Whether task `i` may take on a role that is no flight's work. -/
def Admits (w : World) (i : Nat) : Role → Prop
  | .bystander => True
  | .launcher group n _ => (w.flightsOf group).stage? n = some .boarding ∧
    ∀ k work, k ≠ i → w.role? k ≠ some (.launcher group n work)
  | .waiter group n signal ending => ((w.flightsOf group).stage? n).isSome ∧
    ∀ e, ending = some e → w.Tells group n signal e
  | .crew .. => False

namespace Crewed

/-- A task that is no flight's work takes on another such role. -/
lemma turn (hw : w.Crewed) (hapt : ∀ (k : Nat) (t : Task), w'.tasks[k]? = some t → t.Apt)
    {r : Role} (hi : ∀ duty ending, w.role? i ≠ some (.crew duty ending)) (hr : w.Admits i r)
    (hroles : ∀ k, w'.role? k = if k = i then some r else w.role? k)
    (hflights : ∀ group, w'.flightsOf group = w.flightsOf group)
    (hfired : ∀ s ∈ w.fired, s ∈ w'.fired) : w'.Crewed := by
  have hcrew (k : Nat) (duty : Duty) (ending : Option Ending) :
      w'.role? k = some (.crew duty ending) ↔ w.role? k = some (.crew duty ending) := by
    rw [hroles]
    split
    · next hk =>
      subst hk
      refine ⟨fun h => ?_, fun h => absurd h (hi duty ending)⟩
      rw [Option.some.inj h] at hr
      exact hr.elim
    · rfl
  refine ⟨hapt, fun group => ?_, fun k group n work h => ?_, fun k duty ending h => ?_,
    fun group n stage hs hne => ?_, fun k group n signal ending h => ?_,
    fun j k group n work work' hj hk => ?_, fun j k duty ending ending' hj hk => ?_⟩
  · rw [hflights]
    exact hw.listed group
  · rw [hflights]
    rw [hroles] at h
    split at h
    · rw [Option.some.inj h] at hr
      exact hr.1
    · exact hw.launcher k group n work h
  · rw [hflights]
    exact hw.crew k duty ending ((hcrew k duty ending).mp h)
  · rw [hflights] at hs
    obtain ⟨k, ending, hk⟩ := hw.manned group n stage hs hne
    exact ⟨k, ending, (hcrew k _ _).mpr hk⟩
  · have htells : ((w.flightsOf group).stage? n).isSome ∧
        ∀ e, ending = some e → w.Tells group n signal e := by
      rw [hroles] at h
      split at h
      · rw [Option.some.inj h] at hr
        exact hr
      · exact hw.waiter k group n signal ending h
    rw [hflights]
    exact ⟨htells.1, fun e he => (htells.2 e he).mono hfired fun o ho => by rwa [hflights]⟩
  · rw [hroles] at hj hk
    split at hj <;> split at hk
    · omega
    · next hij hik =>
      rw [Option.some.inj hj] at hr
      exact absurd hk (hr.2 k work' hik)
    · next hij hik =>
      rw [Option.some.inj hk] at hr
      exact absurd hj (hr.2 j work hij)
    · exact hw.soleLauncher j k group n work work' hj hk
  · exact hw.soleCrew j k duty ending ending' ((hcrew j _ _).mp hj) ((hcrew k _ _).mp hk)

end Crewed

/-- A flight gets under way or lands, and its work, which is task `i`, begins or ends with that. -/
structure Advances (w w' : World) (i : Nat) (duty : Duty) (ending : Option Ending) : Prop where
  role : w.role? i = none ∨ w.role? i = some (.crew duty none)
  stage : ∃ stage, (w.flightsOf duty.group).stage? duty.number = some stage ∧
    ∀ outcome, stage ≠ .landed outcome
  unlaunched : ∀ k work, w.role? k ≠ some (.launcher duty.group duty.number work)
  sole : ∀ k e, w.role? k = some (.crew duty e) → k = i
  roles : ∀ k, w'.role? k = if k = i then some (.crew duty ending) else w.role? k
  stages : ∀ group n, (w'.flightsOf group).stage? n =
    if group = duty.group ∧ n = duty.number then some (.ofEnding ending)
    else (w.flightsOf group).stage? n

namespace Advances

variable {duty : Duty} {ending : Option Ending}

lemma other (h : w.Advances w' i duty ending) {r : Role} (hr : ∀ e, r ≠ .crew duty e) :
    w'.role? k = some r ↔ w.role? k = some r := by
  rw [h.roles]
  split
  · next hk =>
    subst hk
    constructor
    · intro hi
      exact absurd (Option.some.inj hi).symm (hr ending)
    · intro hi
      rcases h.role with hrole | hrole <;> rw [hi] at hrole
      · cases hrole
      · exact absurd (Option.some.inj hrole) (hr none)
  · rfl

lemma eq_of_crew (h : w.Advances w' i duty ending) {e : Option Ending}
    (hk : w'.role? k = some (.crew duty e)) : k = i := by
  rw [h.roles] at hk
  split at hk
  · next heq => exact heq
  · exact h.sole k e hk

/-- Whatever has landed stays as it is. -/
lemma outcome? (h : w.Advances w' i duty ending) {x : Shared}
    (hx : (w.flightsOf group).outcome? n = some x) :
    (w'.flightsOf group).outcome? n = some x := by
  obtain ⟨stage, hstage, hopen⟩ := h.stage
  rw [Flights.outcome?_eq_some] at hx ⊢
  rw [h.stages]
  split
  · next heq =>
    rw [heq.1, heq.2, hstage] at hx
    exact absurd (Option.some.inj hx) (hopen x)
  · exact hx

end Advances

lemma Crewed.advance (hw : w.Crewed) {duty : Duty} {ending : Option Ending}
    (h : w.Advances w' i duty ending)
    (hapt : ∀ (k : Nat) (t : Task), w'.tasks[k]? = some t → t.Apt)
    (hlisted : ∀ group, (w'.flightsOf group).Listed)
    (hfired : ∀ s ∈ w.fired, s ∈ w'.fired) : w'.Crewed where
  apt := hapt
  listed := hlisted
  launcher k group n work hk := by
    rw [h.other (by simp)] at hk
    rw [h.stages, if_neg]
    · exact hw.launcher k group n work hk
    · rintro ⟨rfl, rfl⟩
      exact h.unlaunched k work hk
  crew k d e hk := by
    rw [h.stages]
    by_cases hd : d = duty
    · subst hd
      obtain rfl := h.eq_of_crew hk
      rw [h.roles, if_pos rfl] at hk
      cases hk
      simp
    · rw [h.other (by intro e' he; cases he; exact hd rfl)] at hk
      rw [if_neg]
      · exact hw.crew k d e hk
      · rintro ⟨hg, hn⟩
        exact hd (by cases d; cases duty; simp_all)
  manned group n stage hs hne := by
    rw [h.stages] at hs
    split at hs
    · next heq =>
      obtain ⟨rfl, rfl⟩ := heq
      exact ⟨i, ending, by rw [h.roles, if_pos rfl]⟩
    · next hdiff =>
      obtain ⟨k, e, hk⟩ := hw.manned group n stage hs hne
      refine ⟨k, e, (h.other fun e' he => ?_).mpr hk⟩
      cases he
      exact hdiff ⟨rfl, rfl⟩
  waiter k group n signal e hk := by
    rw [h.other (by simp)] at hk
    obtain ⟨hsome, htells⟩ := hw.waiter k group n signal e hk
    refine ⟨?_, fun x hx => (htells x hx).mono hfired fun o ho => h.outcome? ho⟩
    rw [h.stages]
    split
    · rfl
    · exact hsome
  soleLauncher j k group n work work' hj hk := by
    rw [h.other (by simp)] at hj hk
    exact hw.soleLauncher j k group n work work' hj hk
  soleCrew j k d e e' hj hk := by
    by_cases hd : d = duty
    · subst hd
      rw [h.eq_of_crew hj, h.eq_of_crew hk]
    · rw [h.other (by intro e' he; cases he; exact hd rfl)] at hj hk
      exact hw.soleCrew j k d e e' hj hk

end World
end LeaseLock
