import Mathlib.Tactic.Common
import LeaseLock.Proofs.World.Heed
import LeaseLock.Proofs.World.Roles

/-!
What tasks try, and with which tokens.

A token is presented as a new one with one request of one task, and never again. `Changes` lists
every way in which an act can change a task; with it, a request under way is the one that its call
waits for, and an attempt that was given up is not resumed. None of this depends on what the store
answers, or on whether it answers at all.
-/

namespace LeaseLock

/-- The signal that a call listens to. -/
def Process.signal? : Process → Option Signal
  | .acquisition a => a.signal
  | .renewal x => some x.lease.stop
  | .caller c => c.signal
  | .errand _ | .refused _ => none

/-- The flight for which a call waits, by its group and its number. -/
def Process.awaited? : Process → Option Duty
  | .caller c =>
    match c.stage with
    | .waiting n => some ⟨c.group, n⟩
    | .entering _ | .launching .. => none
  | .errand _ | .acquisition _ | .renewal _ | .refused _ => none

lemma Process.awaited?_eq_some {p : Process} {duty : Duty} : p.awaited? = some duty ↔
    ∃ c, p = .caller c ∧ c.group = duty.group ∧ c.stage = .waiting duty.number := by
  constructor
  · intro h
    unfold awaited? at h
    split at h
    · next c =>
      split at h
      · next n hs =>
        cases h
        exact ⟨c, rfl, rfl, hs⟩
      all_goals cases h
    all_goals cases h
  · rintro ⟨c, rfl, hg, hs⟩
    simp [awaited?, hg, hs]

/-- Whether a call that has an attempt under way counts its deadline from an instant. -/
def Process.CountsFrom (time : Nat) : Process → Prop
  | .acquisition a => ∀ token deadline, a.stage = .asking token deadline →
      deadline = Instant.timer time a.timeout
  | .errand _ | .renewal _ | .caller _ | .refused _ => True

/-- The token that the event has a task present as a new one. -/
def Event.presents? : Event → Option Token
  | .asked _ _ r => r.presents?
  | _ => none

/-- The tokens that tasks have presented as new ones, the latest first. -/
def presented (history : List Event) : List Token := history.filterMap (·.presents?)

section presented

variable {history : List Event} {e e' : Event} {token : Token}

lemma presented_cons : presented (e :: history) = e.presents?.toList ++ presented history := by
  unfold presented
  cases h : e.presents? <;> simp [h]

lemma mem_presented : token ∈ presented history ↔ ∃ e ∈ history, e.presents? = some token :=
  List.mem_filterMap

lemma presented_of_none (h : e.presents? = none) :
    presented (e :: history) = presented history := by
  rw [presented_cons, h]
  rfl

/-- If no token was presented twice, then it was presented by one event. -/
lemma eq_of_presents (hnodup : (presented history).Nodup) (he : e ∈ history) (he' : e' ∈ history)
    (h : e.presents? = some token) (h' : e'.presents? = some token) : e = e' := by
  induction history with
  | nil => cases he
  | cons x history ih =>
    rw [presented_cons] at hnodup
    -- the token of the first event is none of those behind it
    have first {y : Event} (hx : x.presents? = some token) (hy : y ∈ history) :
        y.presents? ≠ some token := by
      intro hp
      rw [hx] at hnodup
      exact (List.nodup_cons.mp hnodup).1 (mem_presented.mpr ⟨y, hy, hp⟩)
    rcases List.mem_cons.mp he with rfl | hm <;> rcases List.mem_cons.mp he' with rfl | hm'
    · rfl
    · exact absurd h' (first h hm')
    · exact absurd h (first h' hm)
    · exact ih (List.nodup_append.mp hnodup).2.1 hm hm'

end presented

/-- A call that puts a request to the store counts from the instant at which it does. -/
lemma Task.Took.countsFrom {w : World} {t : Task} {p : Process} {r : Request}
    (h : t.Took w (.ask p r)) : p.CountsFrom w.now := by
  generalize hturn : Turn.ask p r = turn at h
  cases h with
  | errand e turn process took =>
    cases took with
    | asked stage => cases hturn; trivial
    | _ => cases hturn
  | acquisition a turn process took =>
    cases took with
    | asked fired stage =>
      cases hturn
      intro token deadline hstage
      cases hstage
      rfl
    | _ => cases hturn
  | renewal x turn process took => cases took <;> cases hturn <;> trivial

/-- A call that goes on listens to the signal that it listened to. -/
lemma Task.Took.signal? {w : World} {t : Task} {turn : Turn Process (Option Grant)} {p : Process}
    (h : t.Took w turn) (hp : turn.next? = some p) : p.signal? = t.process.signal? := by
  cases h with
  | errand e turn process took =>
    rw [process]
    cases took <;> cases hp <;> rfl
  | acquisition a turn process took =>
    rw [process]
    cases took <;> cases hp <;> rfl
  | renewal x turn process took =>
    rw [process]
    cases took <;> cases hp <;> rfl

namespace World

variable {w w' : World} {i j : Nat} {t t' : Task} {a : Act} {token : Token}

/-! ### What becomes of a task -/

/-- Every way in which an act can change a task. -/
inductive Changes (w : World) (a : Act) (i : Nat) (t : Task) : Task → Prop
  | same : Changes w a i t t
  | moved (u u' : Underway) (underway : t.underway = some u) (request : u'.request = u.request) :
      Changes w a i t { t with underway := some u' }
  | went (p : Process) (turn : t.turn? w = some (.go p)) :
      Changes w a i t { t with process := p, underway := none }
  | fired (p : Process) (signal : Signal) (turn : t.turn? w = some (.fire p signal)) :
      Changes w a i t { t with process := p }
  | asked (p : Process) (r : Request) (plan : Plan) (turn : t.turn? w = some (.ask p r))
      (history : (w.act a).history = .asked w.now i r :: w.history) :
      Changes w a i t { t with process := p, underway := some (.start r plan w.now) }
  | called (c c' : Caller) (process : t.process = .caller c) :
      Changes w a i t { t with process := .caller c' }
  | leased (grant : Grant) (act : a = .step i)
      (turn : t.turn? w = some (.fin (.ok (some grant)))) :
      Changes w a i t
        { t with underway := none, ending := some (.leased { grant with stop := w.signals }) }
  | told (c : Caller) (lease : Lease) (act : a = .step i) (process : t.process = .caller c)
      (unfired : w.hasFired c.signal = false) :
      Changes w a i t { t with underway := none, ending := some (.leased lease) }
  | ended (e : Ending) (he : ∀ lease, e ≠ .leased lease) :
      Changes w a i t { t with underway := none, ending := some e }

/-- A step changes one task, and the tasks that it adds have not begun. -/
lemma changes_of_step (h : Moved w i t w' ∨ Turned w i t w') (hact : w.act (.step i) = w') :
    ∃ t' new, w'.tasks = w.tasks.set i t' ++ new ∧ w.Changes (.step i) i t t' ∧
      ∀ x ∈ new, x.underway = none ∧ x.ending = none := by
  have set {t' : Task} (htasks : w'.tasks = w.tasks.set i t')
      (hchanges : w.Changes (.step i) i t t') :
      ∃ t' new, w'.tasks = w.tasks.set i t' ++ new ∧ w.Changes (.step i) i t t' ∧
        ∀ x ∈ new, x.underway = none ∧ x.ending = none :=
    ⟨t', [], by rw [htasks, List.append_nil], hchanges, fun x hx => by cases hx⟩
  rcases h with h | h
  · cases h with
    | arrived u _ underway | served u _ _ underway | overflowed u underway
    | answered u _ underway | failed u _ underway | broke u underway | returned u _ _ underway =>
      exact set rfl (.moved u _ underway rfl)
  · cases h with
    | went p turn => exact set rfl (.went p turn)
    | fired p signal turn =>
      have htasks : ((w.fire signal).setTask i { t with process := p }).tasks =
          w.tasks.set i { t with process := p } := by simp
      exact set htasks (.fired p signal turn)
    | asked p r turn => exact set rfl (.asked p r _ turn (by rw [hact]; exact ask_history ..))
    | leased grant turn => exact set (w.newSignal.2.finish_tasks i t _) (.leased grant rfl turn)
    | joined c work row process | entered c work process => exact set rfl (.called c _ process)
    | launched c number work process =>
      refine ⟨_, _, rfl, .called c _ process, fun x hx => ?_⟩
      obtain rfl := List.mem_singleton.mp hx
      exact ⟨rfl, rfl⟩
    | told c number lease process stage hfired =>
      exact set (w.finish_tasks i t _) (.told c lease rfl process hfired)
    | done | failed | broke | refused | cancelled | toldFailure =>
      exact set (w.finish_tasks i t _) (.ended _ fun _ => Ending.noConfusion)

/-- **A task stays, and goes on in one of the ways of `Changes`.** -/
theorem changes_act (w : World) (a : Act) (ht : w.tasks[i]? = some t) :
    ∃ t', (w.act a).tasks[i]? = some t' ∧ w.Changes a i t t' := by
  have hlt := (List.getElem?_eq_some_iff.mp ht).1
  by_cases hstep : a = .step i
  · subst hstep
    rcases w.act_step i with h | ⟨x, hx, -, h⟩
    · exact ⟨t, by rw [h, ht], .same⟩
    · cases ht.symm.trans hx
      obtain ⟨t', new, htasks, hchanges, -⟩ := changes_of_step h rfl
      refine ⟨t', ?_, hchanges⟩
      rw [htasks, List.getElem?_append_left (by simpa using hlt), List.getElem?_set_self hlt]
  by_cases habort : a = .abort i
  · subst habort
    rcases w.act_abort i with h | ⟨x, hx, -, h⟩
    · exact ⟨t, by rw [h, ht], .same⟩
    · cases ht.symm.trans hx
      refine ⟨_, ?_, .ended .aborted fun _ => Ending.noConfusion⟩
      rw [h, finish_tasks, List.getElem?_set_self hlt]
  · exact ⟨t, other_act ht hstep habort, .same⟩

/-- A task that is new with an act has nothing under way and has not ended. -/
lemma fresh_of_act (h : w.tasks[i]? = none) (ht' : (w.act a).tasks[i]? = some t') :
    t'.underway = none ∧ t'.ending = none := by
  have hlen := List.getElem?_eq_none_iff.mp h
  have old (tasks : (w.act a).tasks = w.tasks) : t'.underway = none ∧ t'.ending = none := by
    rw [tasks, h] at ht'
    cases ht'
  cases a with
  | step k =>
    rcases w.act_step k with hs | ⟨x, hx, -, hs⟩
    · exact old (by rw [hs])
    · obtain ⟨x', new, htasks, -, hnew⟩ := changes_of_step hs rfl
      rw [htasks, List.getElem?_append_right (by simpa using hlen)] at ht'
      exact hnew t' (List.mem_of_getElem? ht')
  | spawn p =>
    have ht' : (w.tasks ++ [⟨p, none, none, none⟩])[i]? = some t' := ht'
    rw [List.getElem?_append_right hlen] at ht'
    obtain rfl := List.mem_singleton.mp (List.mem_of_getElem? ht')
    exact ⟨rfl, rfl⟩
  | abort k =>
    rcases w.act_abort k with hs | ⟨x, hx, -, hs⟩
    · exact old (by rw [hs])
    · rw [hs, finish_tasks, List.getElem?_eq_none (by simpa using hlen)] at ht'
      cases ht'
  | fire s => exact old (w.fire_tasks s)
  | intrude r =>
    refine old ?_
    simp only [World.act]
    split <;> rfl
  | advance | newSignal | expire | plan => exact old rfl

/-- A task that comes to its end by an act was running before it. -/
lemma running_before {e : Ending} (hnew : w.ending? i ≠ some e)
    (h : (w.act a).ending? i = some e) :
    ∃ t t', w.tasks[i]? = some t ∧ t.ending = none ∧ (w.act a).tasks[i]? = some t' ∧
      t'.ending = some e ∧ w.Changes a i t t' := by
  obtain ⟨t', ht', he'⟩ := Option.bind_eq_some_iff.mp h
  cases ht : w.tasks[i]? with
  | none =>
    rw [(fresh_of_act ht ht').2] at he'
    cases he'
  | some t =>
    cases hend : t.ending with
    | some e₀ =>
      cases ht'.symm.trans (w.ended_act a ht hend)
      exact absurd (by simp [ending?, ht, he']) hnew
    | none =>
      obtain ⟨x, hx, hchanges⟩ := w.changes_act a ht
      cases ht'.symm.trans hx
      exact ⟨t, t', rfl, hend, ht', he', hchanges⟩

/-- A call goes on as one of its kind that listens to the same signal. -/
lemma Follows.same_kind {p : Process} (h : w.Follows t p) :
    p.isCaller = t.process.isCaller ∧ p.signal? = t.process.signal? := by
  cases h with
  | same => exact ⟨rfl, rfl⟩
  | next turn p turns next =>
    have htook := Task.took_of_turn? turns
    obtain ⟨hcaller, hcaller', -⟩ := htook.kind next
    exact ⟨hcaller'.trans hcaller.symm, htook.signal? next⟩
  | joined c work number process | entered c work number process
  | launched c work number process =>
    rw [process]
    exact ⟨rfl, rfl⟩

/-- A task stays what it is, and once it has ended it has ended for good. -/
lemma stays_run (ht : w.tasks[j]? = some t) (acts : List Act) :
    ∃ t', (w.run acts).tasks[j]? = some t' ∧ t'.process.isCaller = t.process.isCaller ∧
      t'.process.signal? = t.process.signal? ∧ t'.duty = t.duty ∧
      (t'.ending = none → t.ending = none) := by
  induction acts generalizing w t with
  | nil => exact ⟨t, ht, rfl, rfl, rfl, id⟩
  | cons a acts ih =>
    obtain ⟨x, hx, hfollows⟩ := w.follows_act a ht
    obtain ⟨y, hy, hchanges⟩ := w.changes_act a ht
    cases hx.symm.trans hy
    obtain ⟨hcaller, hsignal⟩ := hfollows.same_kind
    have hduty : x.duty = t.duty := by cases hchanges <;> rfl
    obtain ⟨t', ht', hcaller', hsignal', hduty', hend'⟩ := ih hx
    exact ⟨t', ht', hcaller'.trans hcaller, hsignal'.trans hsignal, hduty'.trans hduty,
      fun h => running_of_act ht hx (hend' h)⟩

/-! ### Requests under way -/

/-- How the tokens that were presented agree with the requests under way. -/
structure Attempting (w : World) : Prop where
  awaits : ∀ (i : Nat) (t : Task) (u : Underway), w.tasks[i]? = some t → t.underway = some u →
    t.process.Awaits u.request
  asked : ∀ (i : Nat) (t : Task) (u : Underway), w.tasks[i]? = some t → t.underway = some u →
    ∃ time, .asked time i u.request ∈ w.history ∧ t.process.CountsFrom time
  idle : ∀ (i : Nat) (t : Task), w.tasks[i]? = some t → t.ending.isSome → t.underway = none
  minted : ∀ token ∈ presented w.history, ∃ n ≤ w.minted, token = .minted n
  nodup : (presented w.history).Nodup

lemma attempting_start (plans : Plans) : (start plans).Attempting where
  awaits i t u h := by cases h
  asked i t u h := by cases h
  idle i t h := by cases h
  minted token h := by cases h
  nodup := List.nodup_nil

/-- What has happened stays in the history. -/
lemma mem_history_act (w : World) (a : Act) {e : Event} (h : e ∈ w.history) :
    e ∈ (w.act a).history := by
  rcases w.act_history a with ha | ⟨x, ha⟩
  · rwa [ha]
  · rw [ha]
    exact List.mem_cons_of_mem x h

lemma mem_history_run (w : World) (acts : List Act) {e : Event} (h : e ∈ w.history) :
    e ∈ (w.run acts).history := by
  obtain ⟨news, hn⟩ := w.run_history acts
  rw [hn]
  exact List.mem_append_right news h

/-- A request under way was so before the act, or was put to the store by it. -/
lemma Attempting.underway_act (hw : w.Attempting) {u' : Underway}
    (ht' : (w.act a).tasks[i]? = some t') (hu' : t'.underway = some u') :
    (∃ t u, w.tasks[i]? = some t ∧ t.underway = some u ∧ t'.process = t.process ∧
      u'.request = u.request) ∨
    ∃ t, w.tasks[i]? = some t ∧ t.turn? w = some (.ask t'.process u'.request) ∧
      (w.act a).history = .asked w.now i u'.request :: w.history := by
  cases ht : w.tasks[i]? with
  | none =>
    rw [(fresh_of_act ht ht').1] at hu'
    cases hu'
  | some t =>
    obtain ⟨x, hx, hchanges⟩ := w.changes_act a ht
    cases ht'.symm.trans hx
    cases hchanges with
    | same => exact .inl ⟨t', u', rfl, hu', rfl, rfl⟩
    | moved u v underway request =>
      cases hu'
      exact .inl ⟨t, u, rfl, underway, rfl, request⟩
    | fired p signal turn =>
      exact absurd (hw.awaits i t u' ht hu') (Task.took_of_turn? turn).fire
    | asked p r plan turn history =>
      cases hu'
      exact .inr ⟨t, rfl, turn, history⟩
    | called c c' process =>
      have := hw.awaits i t u' ht hu'
      rw [process] at this
      exact this.elim
    | went | leased | told | ended => cases hu'

/-- A task that ends drops what it has under way. -/
lemma Attempting.idle_act (hw : w.Attempting) (ht' : (w.act a).tasks[i]? = some t')
    (hend' : t'.ending.isSome) : t'.underway = none := by
  cases ht : w.tasks[i]? with
  | none => exact (fresh_of_act ht ht').1
  | some t =>
    cases hend : t.ending with
    | some e =>
      cases ht'.symm.trans (w.ended_act a ht hend)
      exact hw.idle i t' ht hend'
    | none =>
      obtain ⟨x, hx, hchanges⟩ := w.changes_act a ht
      cases ht'.symm.trans hx
      cases hchanges with
      | leased | told | ended => rfl
      | same | moved | went | fired | asked | called => simp [hend] at hend'

/-- **However an act goes, tokens stay apart and requests stay those of their calls.** -/
theorem Attempting.act (hw : w.Attempting) (a : Act) : (w.act a).Attempting := by
  have tokens : (∀ token ∈ presented (w.act a).history, ∃ n ≤ (w.act a).minted,
      token = .minted n) ∧ (presented (w.act a).history).Nodup := by
    have same (hp : presented (w.act a).history = presented w.history)
        (hm : (w.act a).minted = w.minted) : (∀ token ∈ presented (w.act a).history,
          ∃ n ≤ (w.act a).minted, token = .minted n) ∧ (presented (w.act a).history).Nodup := by
      rw [hp, hm]
      exact ⟨hw.minted, hw.nodup⟩
    cases w.act_effect a with
    | still memory history now minted => exact same (by rw [history]) minted
    | noted e quiet memory history now minted =>
      refine same ?_ minted
      rw [history]
      exact presented_of_none (by cases e <;> first | rfl | exact quiet.elim)
    | served i t u yes act task underway stage serve history now minted =>
      exact same (by rw [history]; exact presented_of_none rfl) minted
    | intruded r yes act serve history now minted =>
      exact same (by rw [history]; exact presented_of_none rfl) minted
    | expired key memory history now minted =>
      exact same (by rw [history]; exact presented_of_none rfl) minted
    | asked i t p r act task turn memory history now minted =>
      rw [history, minted]
      cases hr : r.presents? with
      | none =>
        rw [presented_of_none (e := .asked w.now i r) hr]
        exact ⟨fun token ht => by simpa using hw.minted token ht, hw.nodup⟩
      | some token =>
        obtain rfl := (Task.took_of_turn? turn).ask.2 token hr
        -- the token is the next one, and all others come before it
        have hnew : Token.minted (w.minted + 1) ∉ presented w.history := fun h => by
          obtain ⟨n, hn, heq⟩ := hw.minted _ h
          cases heq
          omega
        rw [presented_cons, Event.presents?, hr]
        refine ⟨fun token ht => ?_, List.nodup_cons.mpr ⟨hnew, hw.nodup⟩⟩
        rcases List.mem_cons.mp ht with rfl | ht
        · exact ⟨w.minted + 1, by simp, rfl⟩
        · obtain ⟨n, hn, heq⟩ := hw.minted token ht
          exact ⟨n, Nat.le_trans hn (Nat.le_add_right _ _), heq⟩
  refine ⟨fun i t' u' ht' hu' => ?_, fun i t' u' ht' hu' => ?_, fun i t' => hw.idle_act,
    tokens.1, tokens.2⟩
  · rcases hw.underway_act ht' hu' with ⟨t, u, ht, hu, hp, hr⟩ | ⟨t, ht, turn, -⟩
    · rw [hp, hr]
      exact hw.awaits i t u ht hu
    · exact (Task.took_of_turn? turn).ask.1
  · rcases hw.underway_act ht' hu' with ⟨t, u, ht, hu, hp, hr⟩ | ⟨t, ht, turn, history⟩
    · obtain ⟨time, hm, hcounts⟩ := hw.asked i t u ht hu
      rw [hp, hr]
      exact ⟨time, w.mem_history_act a hm, hcounts⟩
    · rw [history]
      exact ⟨w.now, List.mem_cons_self, (Task.took_of_turn? turn).countsFrom⟩

lemma Attempting.run (hw : w.Attempting) (acts : List Act) : (w.run acts).Attempting :=
  run_induction hw fun _ a _ hv => hv.act a

lemma attempting_run (plans : Plans) (acts : List Act) : ((start plans).run acts).Attempting :=
  (attempting_start plans).run acts

/-- What a task has put to the store is a request of its own. -/
lemma puts_of_asked {plans : Plans} {acts : List Act} {time : Nat} {r : Request}
    (ht : ((start plans).run acts).tasks[i]? = some t)
    (hasked : .asked time i r ∈ ((start plans).run acts).history) : t.process.Puts r := by
  have hm : r ∈ requestsOf i ((start plans).run acts).history :=
    List.mem_reverse.mpr (List.mem_filterMap.mpr ⟨_, hasked, by simp [Event.asked?]⟩)
  obtain ⟨t', ht', hr⟩ := asked_run plans acts i r hm
  cases ht.symm.trans ht'
  exact hr

/-! ### Attempts that are over -/

/-- The token that task `i` presents as a new one with the request that it has under way. -/
def presenting? (w : World) (i : Nat) : Option Token :=
  w.tasks[i]?.bind fun t => t.underway.bind (·.request.presents?)

/-- Whether task `i` is where a lease came into being: it has ended with the lease, which it has
from no flight. -/
def Source (w : World) (i : Nat) (lease : Lease) : Prop :=
  ∃ t, w.tasks[i]? = some t ∧ t.process.isCaller = false ∧ t.ending = some (.leased lease)

lemma presenting?_eq_some : w.presenting? i = some token ↔ ∃ t u, w.tasks[i]? = some t ∧
    t.underway = some u ∧ u.request.presents? = some token := by
  simp only [presenting?, Option.bind_eq_some_iff]
  exact ⟨fun ⟨t, ht, u, hu, hr⟩ => ⟨t, u, ht, hu, hr⟩,
    fun ⟨t, u, ht, hu, hr⟩ => ⟨t, ht, u, hu, hr⟩⟩

lemma Source.act {lease : Lease} (h : w.Source i lease) (a : Act) : (w.act a).Source i lease := by
  obtain ⟨t, ht, hp, he⟩ := h
  exact ⟨t, w.ended_act a ht he, hp, he⟩

lemma Source.unique {lease lease' : Lease} (h : w.Source i lease) (h' : w.Source i lease') :
    lease = lease' := by
  obtain ⟨t, ht, -, he⟩ := h
  obtain ⟨t', ht', -, he'⟩ := h'
  cases ht.symm.trans ht'
  cases he.symm.trans he'
  rfl

/-- What a call that ends well with a grant has under way: a request for just this, to which the
store has said yes. -/
structure Granted (w : World) (t : Task) (u : Underway) (grant : Grant) : Prop where
  underway : t.underway = some u
  request : u.request = .acquire grant.key grant.token grant.ttl
  response : u.response? = some (.granted true)
  /-- The call has not seen its signal fire. -/
  unfired : w.hasFired t.process.signal? = false

lemma Attempting.granted (hw : w.Attempting) (ht : w.tasks[i]? = some t) {grant : Grant}
    (turn : t.turn? w = some (.fin (.ok (some grant)))) : ∃ u, w.Granted t u grant := by
  have under {signal : Option Signal}
      (hr : (w.glimpse t signal).response = some (.granted true)) :
      ∃ u, t.underway = some u ∧ u.response? = some (.granted true) ∧
        t.process.Awaits u.request := by
    obtain ⟨u, hu, hr⟩ := Option.bind_eq_some_iff.mp hr
    exact ⟨u, hu, hr, hw.awaits i t u ht hu⟩
  have htook := Task.took_of_turn? turn
  generalize hturn : Turn.fin (Outcome.ok (some grant)) = turn at htook
  cases htook with
  | errand e turn process took =>
    cases took with
    | granted token stage response =>
      obtain ⟨u, hu, hr, haw⟩ := under response
      rw [process] at haw
      obtain ⟨token', hstage, hrequest⟩ := haw
      cases stage.symm.trans hstage
      refine ⟨u, hu, ?_, hr, by rw [process]; rfl⟩
      rw [hrequest]
      cases hk : e.kind <;> rw [hk] at hturn <;> cases hturn
      rfl
    | _ => cases hturn
  | acquisition x turn process took =>
    cases took with
    | granted token deadline fired stage response =>
      obtain ⟨u, hu, hr, haw⟩ := under response
      rw [process] at haw
      obtain ⟨token', deadline', hstage, hrequest⟩ := haw
      cases stage.symm.trans hstage
      cases hturn
      exact ⟨u, hu, hrequest, hr, by rw [process]; exact fired⟩
    | _ => cases hturn
  | renewal x turn process took => cases took <;> cases hturn

lemma Attempting.presents_of_turn (hw : w.Attempting) (ht : w.tasks[i]? = some t) {grant : Grant}
    (turn : t.turn? w = some (.fin (.ok (some grant)))) : w.presenting? i = some grant.token := by
  obtain ⟨u, hu⟩ := hw.granted ht turn
  exact presenting?_eq_some.mpr ⟨t, u, ht, hu.underway, by rw [hu.request]; rfl⟩

/-- A task that is the source of a lease was so before the act, or comes to it by its turn. -/
lemma source_act {lease : Lease} (h : (w.act a).Source i lease) : w.Source i lease ∨
    ∃ t grant, w.tasks[i]? = some t ∧ t.turn? w = some (.fin (.ok (some grant))) ∧
      lease = { grant with stop := w.signals } := by
  obtain ⟨t', ht', hp', he'⟩ := h
  by_cases hold : w.ending? i = some (.leased lease)
  · obtain ⟨t, ht, he⟩ := Option.bind_eq_some_iff.mp hold
    cases ht'.symm.trans (w.ended_act a ht he)
    exact .inl ⟨t', ht, hp', he⟩
  have hended : (w.act a).ending? i = some (.leased lease) := by simp [ending?, ht', he']
  obtain ⟨t, x, ht, hend, hx, -, hchanges⟩ := running_before hold hended
  cases ht'.symm.trans hx
  cases hchanges with
  | leased grant act turn =>
    cases he'
    exact .inr ⟨t, grant, ht, turn, rfl⟩
  | told c lease act process =>
    rw [process] at hp'
    cases hp'
  | ended e he =>
    cases he'
    exact absurd rfl (he lease)
  | same | moved | went | fired | asked | called =>
    rw [hend] at he'
    cases he'

/-- What task `i` presents it has presented before the act, or nobody has. -/
lemma Attempting.presenting?_act (hw : w.Attempting)
    (h : (w.act a).presenting? i = some token) :
    w.presenting? i = some token ∨ token ∉ presented w.history := by
  obtain ⟨t', u', ht', hu', hr'⟩ := presenting?_eq_some.mp h
  rcases hw.underway_act ht' hu' with ⟨t, u, ht, hu, -, hr⟩ | ⟨t, ht, turn, -⟩
  · exact .inl (presenting?_eq_some.mpr ⟨t, u, ht, hu, hr ▸ hr'⟩)
  · right
    obtain rfl := (Task.took_of_turn? turn).ask.2 token hr'
    intro hm
    obtain ⟨n, hn, heq⟩ := hw.minted _ hm
    cases heq
    omega

/-- Whether task `i` has tried for a key with a token, and to no avail: it does not try with this
token any more, and no lease came of it. -/
structure Spent (w : World) (i : Nat) (token : Token) : Prop where
  asked : ∃ time r, .asked time i r ∈ w.history ∧ r.presents? = some token
  dropped : w.presenting? i ≠ some token
  unleased : ∀ lease, w.Source i lease → lease.token ≠ token

/-- **An attempt that came to nothing is not taken up again.** -/
theorem Spent.act (h : w.Spent i token) (hw : w.Attempting) (a : Act) :
    (w.act a).Spent i token := by
  obtain ⟨time, r, hm, hr⟩ := h.asked
  refine ⟨⟨time, r, w.mem_history_act a hm, hr⟩, fun hp => ?_, fun lease hs => ?_⟩
  · rcases hw.presenting?_act hp with hp | hp
    · exact h.dropped hp
    · exact hp (mem_presented.mpr ⟨_, hm, hr⟩)
  · rcases source_act hs with hs | ⟨t, grant, ht, turn, rfl⟩
    · exact h.unleased lease hs
    · exact fun heq => h.dropped (heq ▸ hw.presents_of_turn ht turn)

lemma Spent.run (h : w.Spent i token) (hw : w.Attempting) (acts : List Act) :
    (w.run acts).Spent i token :=
  (run_induction (P := fun v => v.Spent i token ∧ v.Attempting) ⟨h, hw⟩
    fun _ a _ ⟨hs, hv⟩ => ⟨hs.act hv a, hv.act a⟩).1

end World
end LeaseLock
