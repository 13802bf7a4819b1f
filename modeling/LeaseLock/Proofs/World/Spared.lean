import Mathlib.Tactic.Common
import LeaseLock.Proofs.World.Calls
import LeaseLock.Proofs.World.Loss

/-!
A lease that nobody takes away.

While nobody unlocks a lease and nobody expires its key, the one thing that the store does to its
entry is to write it again, for as long as the lease says, and its signal does not fire.
-/

namespace LeaseLock

variable {lease : Lease} {p : Process} {r : Request}

/-- Whether a call leaves a lease to its owners: it does not give the lease up, and if it comes
with the token of the lease, it comes with a copy of the lease. -/
def Process.Spares (lease : Lease) : Process → Prop
  | .errand e =>
    match e.kind with
    | .attempt .. => True
    | .refresh l => l.token = lease.token → l.toGrant = lease.toGrant
    | .unlock l => l.token ≠ lease.token ∧ l.stop ≠ lease.stop
  | .renewal x => x.lease.token = lease.token → x.lease.toGrant = lease.toGrant
  | .acquisition _ | .caller _ | .refused _ => True

instance : Decidable (p.Spares lease) :=
  match p with
  | .errand ⟨.attempt .., _⟩ => .isTrue trivial
  | .errand ⟨.refresh l, _⟩ =>
    inferInstanceAs (Decidable (l.token = lease.token → l.toGrant = lease.toGrant))
  | .errand ⟨.unlock l, _⟩ =>
    inferInstanceAs (Decidable (l.token ≠ lease.token ∧ l.stop ≠ lease.stop))
  | .renewal x =>
    inferInstanceAs (Decidable (x.lease.token = lease.token → x.lease.toGrant = lease.toGrant))
  | .acquisition _ | .caller _ | .refused _ => .isTrue trivial

/-- Whether an act leaves a lease to its owners. -/
def World.Act.Spares (lease : Lease) : World.Act → Prop
  | .spawn p => p.Spares lease
  | .expire key => key ≠ lease.key
  | .fire s => s ≠ lease.stop
  | _ => True

/-- With an old token a call that spares the lease can but refresh it. -/
lemma Process.Spares.request (h : p.Spares lease) (hp : p.Puts r)
    (ht : r.token = lease.token) (hnew : r.presents? ≠ some lease.token) :
    r = .refresh lease.key lease.token lease.ttl := by
  have copy {l : Lease} (hl : l.token = lease.token → l.toGrant = lease.toGrant)
      (hr : r = .refresh l.key l.token l.ttl) : r = .refresh lease.key lease.token lease.ttl := by
    subst hr
    rw [hl ht]
  cases p with
  | errand e =>
    obtain ⟨token, rfl⟩ := hp
    simp only [Spares] at h
    cases hk : e.kind with
    | attempt key ttl =>
      rw [hk] at ht hnew
      exact absurd (congrArg some ht) hnew
    | refresh l =>
      rw [hk] at h
      have := copy h (by rw [hk]; rfl)
      rwa [hk] at this
    | unlock l =>
      rw [hk] at h ht
      exact absurd ht h.1
  | acquisition a =>
    obtain ⟨token, rfl⟩ := hp
    exact absurd (congrArg some ht) hnew
  | renewal x => exact copy h hp
  | caller | refused => exact hp.elim

namespace World

variable {w w' : World} {i j : Nat} {t : Task} {a : Act} {s : Signal}

lemma Follows.spares (h : w.Follows t p) (hs : t.process.Spares lease) : p.Spares lease := by
  cases h with
  | same => exact hs
  | next turn p turns next =>
    cases Task.took_of_turn? turns with
    | errand e turn process took =>
      rw [process] at hs
      cases took <;> cases next <;> exact hs
    | acquisition a turn process took => cases took <;> cases next <;> trivial
    | renewal x turn process took =>
      rw [process] at hs
      cases took <;> cases next <;> exact hs
  | joined | entered | launched => trivial

/-- A signal that has fired was fired before, by the act itself, or by a call that gives up. -/
lemma fired_act (w : World) (a : Act) (h : s ∈ (w.act a).fired) : s ∈ w.fired ∨ a = .fire s ∨
    ∃ (i : Nat) (t : Task) (e : Errand) (l : Lease), w.tasks[i]? = some t ∧
      t.process = .errand e ∧ e.kind = .unlock l ∧ s = l.stop := by
  have fire {s' : Signal} (h : s ∈ (w.fire s').fired) : s ∈ w.fired ∨ s = s' := by
    rcases w.fire_cases s' with ⟨-, he⟩ | ⟨he, -⟩
    · rw [he] at h
      exact .inl h
    · rw [he] at h
      exact (List.mem_cons.mp h).symm
  cases a with
  | step i =>
    rcases w.act_step i with hs | ⟨t, ht, -, hm | htu⟩
    · rw [hs] at h
      exact .inl h
    · generalize w.act (.step i) = v at h hm
      left
      cases hm <;> exact h
    · generalize w.act (.step i) = v at h htu
      cases htu with
      | fired p signal turn =>
        rcases fire h with h | rfl
        · exact .inl h
        · refine .inr (.inr ⟨i, t, ?_⟩)
          have htook := Task.took_of_turn? turn
          generalize hturn : Turn.fire p s = turned at htook
          cases htook with
          | errand e turn process took =>
            cases took <;> cases hturn
            next lease kind stage => exact ⟨e, lease, ht, process, kind, rfl⟩
          | acquisition a turn process took => cases took <;> cases hturn
          | renewal x turn process took => cases took <;> cases hturn
      | leased grant turn =>
        rw [finish_fired] at h
        exact .inl h
      | done | failed | broke | refused | cancelled | told | toldFailure =>
        rw [finish_fired] at h
        exact .inl h
      | went | asked | joined | entered | launched => exact .inl h
  | abort i =>
    left
    rcases w.act_abort i with hs | ⟨t, -, -, hs⟩
    · rwa [hs] at h
    · rwa [hs, finish_fired] at h
  | fire s' =>
    rcases fire h with h | rfl
    · exact .inl h
    · exact .inr (.inl rfl)
  | intrude r =>
    simp only [World.act] at h
    split at h <;> exact .inl h
  | advance | newSignal | expire | plan | spawn => exact .inl h

/-! ### The entry of a lease -/

/-- A lease that was acquired and that no task is going to take away. -/
structure Spared (w : World) (lease : Lease) : Prop where
  regular : w.Regular
  acquired : w.Acquired lease.toGrant
  tasks : ∀ (k : Nat) (t : Task), w.tasks[k]? = some t → t.process.Spares lease
  unstopped : lease.stop ∉ w.fired

/-- No task is going to take a lease away, and nobody has told its owners to stop. -/
structure Untouched (w : World) (lease : Lease) : Prop where
  tasks : ∀ (k : Nat) (t : Task), w.tasks[k]? = some t → t.process.Spares lease
  unstopped : lease.stop ∉ w.fired

lemma Untouched.act (hw : w.Untouched lease) (hs : a.Spares lease) :
    (w.act a).Untouched lease where
  tasks k t' ht' := by
    rcases w.task_cases a ht' with ⟨t, ht, hfollows⟩ | rfl | ⟨b, hb⟩
    · exact hfollows.spares (hw.tasks k t ht)
    · exact hs
    · rw [hb]
      trivial
  unstopped h := by
    rcases w.fired_act a h with h | rfl | ⟨i, t, e, l, ht, hp, hk, hl⟩
    · exact hw.unstopped h
    · exact hs rfl
    · have := hw.tasks i t ht
      rw [hp] at this
      simp only [Process.Spares, hk] at this
      exact this.2 hl.symm

namespace Spared

lemma untouched (hw : w.Spared lease) : w.Untouched lease := ⟨hw.tasks, hw.unstopped⟩

lemma act (hw : w.Spared lease) (ha : a.Lawful) (hs : a.Spares lease) :
    (w.act a).Spared lease where
  regular := hw.regular.act ha
  acquired := hw.acquired.act a
  tasks := (hw.untouched.act hs).tasks
  unstopped := (hw.untouched.act hs).unstopped

/-- A request with the lease's token that has come to the store refreshes the lease. -/
lemma request (hw : w.Spared lease) (ht : w.tasks[i]? = some t) {u : Underway}
    (hu : t.underway = some u) (hs : u.stage = .arrived) (htoken : u.request.token = lease.token) :
    u.request = .refresh lease.key lease.token lease.ttl :=
  (hw.tasks i t ht).request ((hw.regular.sound.tasks i t ht).awaits u hu).puts htoken
    (hw.regular.spent hw.acquired ht hu hs)

end Spared

/-- What the store does to the entry of a lease that holds its key. -/
lemma entry_of_served {m m' : Memory} {now : Nat} {e : Entry} {yes : Bool}
    (he : m.entries.find? lease.key = some e) (ht : e.token = lease.token)
    (hlive : now < e.expires) (serve : m.Served now r (some yes) m')
    (hr : r.token = lease.token → r = .refresh lease.key lease.token lease.ttl) :
    m'.entries.find? lease.key = some e ∨
      (m'.entries.find? lease.key = some ⟨lease.token, now + lease.ttl.nanos⟩ ∧
        now + lease.ttl.nanos < Instant.limit) := by
  have hholder : m.holder now lease.key = some lease.token :=
    Memory.holder_eq_some.mpr ⟨e, Memory.live?_eq_some.mpr ⟨he, hlive⟩, ht⟩
  cases serve with
  | @acquired key token ttl free fits =>
    left
    simp only [Table.find?_put]
    split
    · next hk =>
      subst hk
      cases hr (free _ hholder).symm
    · exact he
  | @refreshed key token ttl own fits =>
    simp only [Table.find?_put]
    split
    · next hk =>
      rw [← hk, hholder] at own
      cases hr (Option.some.inj own).symm
      exact .inr ⟨rfl, fits⟩
    · exact .inl he
  | @released key token own =>
    left
    rw [Memory.find?_expire]
    split
    · next hk =>
      rw [← hk, hholder] at own
      cases hr (Option.some.inj own).symm
    · exact he
  | @swept key token dead =>
    left
    rw [Memory.find?_expire]
    split
    · next hk =>
      rw [← hk, Memory.live?_eq_some.mpr ⟨he, hlive⟩] at dead
      cases dead
    · exact he
  | taken | stale | foreign => exact .inl he

/-- **The entry of a spared lease stays, or is written anew for the lease.** -/
theorem Spared.entry_act (hw : w.Spared lease) (ha : a.Lawful) (hs : a.Spares lease) {e : Entry}
    (he : w.memory.entries.find? lease.key = some e) (ht : e.token = lease.token)
    (hlive : w.now < e.expires) :
    (w.act a).memory.entries.find? lease.key = some e ∨
      ((w.act a).memory.entries.find? lease.key = some ⟨lease.token, w.now + lease.ttl.nanos⟩ ∧
        w.now + lease.ttl.nanos < Instant.limit) := by
  cases w.act_effect a with
  | still memory | noted _ _ memory | asked _ _ _ _ _ _ _ memory =>
    rw [memory]
    exact .inl he
  | served i t u yes act task underway stage serve =>
    exact entry_of_served he ht hlive serve (hw.request task underway stage)
  | intruded r yes act serve =>
    subst act
    obtain ⟨n, hn⟩ := hw.regular.exists_minted hw.acquired
    exact entry_of_served he ht hlive serve fun htoken => absurd (htoken.trans hn) (ha n)
  | expired key memory history now minted act =>
    subst act
    rw [memory, Memory.find?_expire, if_neg (Ne.symm hs)]
    exact .inl he

end World
end LeaseLock
