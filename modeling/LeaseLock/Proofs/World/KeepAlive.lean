import Mathlib.Tactic.Common
import LeaseLock.Proofs.Settings.Usable
import LeaseLock.Proofs.World.Sustain
import LeaseLock.Scenario.Basic

/-!
Leases that a client keeps alive.

A client renews a lease as its settings say, and its settings are checked against the lifetime that
they give. A lease may have another lifetime, and ticks come at whole milliseconds only, while the
check goes to the nanosecond. So a lease is kept if it lasts longer than the interval of the
settings in whole milliseconds, and that they are accepted is not enough.
-/

namespace LeaseLock

/-! ### Settings -/

/-- The renewal by which a client keeps a lease. -/
def Client.upkeep (c : Client) (lease : Lease) : Renewal :=
  .start lease c.settings.effectiveRefreshInterval c.settings.refreshTimeout

/-- What the check of the settings finds out. -/
lemma LockSettings.of_validate {s : LockSettings} (h : s.validate = .ok ()) :
    0 < s.ttl.nanos ∧ 0 < s.refreshTimeout.nanos ∧ 0 < s.effectiveRefreshInterval.nanos ∧
      s.effectiveRefreshInterval.nanos < s.ttl.nanos := by
  obtain ⟨hpositive, hrenews, hinTime⟩ := usable_of_validate h
  exact ⟨hpositive s.ttl (by simp [spans]), hpositive s.refreshTimeout (by simp [spans]), hrenews,
    hinTime⟩

lemma Client.keepAlive_of_validate {c : Client} {lease : Lease}
    (h : c.settings.validate = .ok ()) : c.keepAlive lease = .ok (.renewal (c.upkeep lease)) := by
  rw [keepAlive, h]
  rfl

/-- A client that keeps a lease has settings that are accepted. -/
lemma Client.of_keepAlive {c : Client} {lease : Lease} {p : Process}
    (h : c.keepAlive lease = .ok p) :
    c.settings.validate = .ok () ∧ p = .renewal (c.upkeep lease) := by
  unfold keepAlive at h
  split at h
  · cases h
  · next hvalid =>
    cases h
    exact ⟨hvalid, rfl⟩

/-- What an acquisition by the settings of a client may put to the store. -/
lemma Client.of_acquire_puts {c : Client} {key key' : String} {token : Token} {ttl : Span}
    (h : (c.acquire key).Puts (.acquire key' token ttl)) : key' = key ∧ ttl = c.settings.ttl := by
  unfold acquire at h
  split at h
  · exact h.elim
  · obtain ⟨token', heq⟩ := h
    cases heq
    exact ⟨rfl, rfl⟩

lemma Client.acquire_spares {c : Client} {key : String} {lease : Lease} :
    (c.acquire key).Spares lease := by
  unfold acquire
  split <;> trivial

namespace World

variable {w : World} {i j k : Nat} {t : Task} {lease : Lease}

/-! ### Leases that were just obtained -/

lemma puts_run (ht : w.tasks[j]? = some t) (acts : List Act) :
    ∃ t', (w.run acts).tasks[j]? = some t' ∧ t'.process.Puts = t.process.Puts := by
  induction acts generalizing w t with
  | nil => exact ⟨t, ht, rfl⟩
  | cons a acts ih =>
    obtain ⟨t₁, ht₁, hfollows⟩ := w.follows_act a ht
    obtain ⟨t₂, ht₂, hputs⟩ := ih ht₁
    exact ⟨t₂, ht₂, hputs.trans hfollows.puts⟩

/-- An entry that was written at an instant is as good as new for as long as that instant lasts. -/
lemma Spared.entry_run (hw : w.Spared lease) {acts : List Act} (ha : ∀ a ∈ acts, a.Lawful)
    (hs : ∀ a ∈ acts, a.Spares lease) (hnow : (w.run acts).now = w.now)
    (hpositive : 0 < lease.ttl.nanos)
    (he : w.memory.entries.find? lease.key = some ⟨lease.token, w.now + lease.ttl.nanos⟩) :
    (w.run acts).Spared lease ∧ (w.run acts).memory.entries.find? lease.key =
      some ⟨lease.token, (w.run acts).now + lease.ttl.nanos⟩ := by
  induction acts generalizing w with
  | nil => exact ⟨hw, he⟩
  | cons a acts ih =>
    have hmem : a ∈ a :: acts := List.mem_cons_self
    have hact : (w.act a).now = w.now := by
      have hle := w.now_le_act a
      have hle' := (w.act a).now_le_run acts
      rw [run_cons] at hnow
      omega
    have hentry : (w.act a).memory.entries.find? lease.key =
        some ⟨lease.token, (w.act a).now + lease.ttl.nanos⟩ := by
      rw [hact]
      rcases hw.entry_act (ha a hmem) (hs a hmem) he rfl (Nat.lt_add_of_pos_right hpositive) with
        hold | ⟨hnew, -⟩
      · exact hold
      · exact hnew
    exact ih (hw.act (ha a hmem) (hs a hmem)) (fun b hb => ha b (List.mem_cons_of_mem a hb))
      (fun b hb => hs b (List.mem_cons_of_mem a hb)) (hnow.trans hact.symm) hentry

/-- A run at a store that answers at once, in which task `k` was granted a lease at the present
instant, that was handed out and left alone. -/
structure Obtained (plans : Plans) (before : List Act) (k : Nat) (lease : Lease) : Prop where
  prompt : plans.All Plan.Immediate
  lawful : ∀ a ∈ before, a.Lawful
  immediate : ∀ a ∈ before, a.Supplies Plan.Immediate
  spares : ∀ a ∈ before, a.Spares lease
  handed : ((start plans).run before).HandedOut lease
  granted : .served ((start plans).run before).now k
    (.acquire lease.key lease.token lease.ttl) true ∈ ((start plans).run before).history

namespace Obtained

variable {plans : Plans} {before : List Act}

/-- The entry of the lease was written at the present instant. -/
lemma entry (h : Obtained plans before k lease) (hpositive : 0 < lease.ttl.nanos) :
    ((start plans).run before).Spared lease ∧
      ((start plans).run before).memory.entries.find? lease.key =
        some ⟨lease.token, ((start plans).run before).now + lease.ttl.nanos⟩ := by
  obtain ⟨later, older, hhistory⟩ := List.append_of_mem h.granted
  obtain ⟨first, a, rest, hsplit, rfl, hact⟩ := exists_act hhistory (Nat.zero_le _)
  obtain ⟨hlawful, hlawful'⟩ := List.forall_mem_append.mp (hsplit ▸ h.lawful)
  obtain ⟨hspares, hspares'⟩ := List.forall_mem_append.mp (hsplit ▸ h.spares)
  obtain ⟨hnow, hserved⟩ := served_of_granted hact rfl
  have hregular : ((start plans).run first).Regular :=
    (regular_start h.prompt.honest).run hlawful
  have huntouched : ((start plans).run first).Untouched lease :=
    run_induction (P := fun v => v.Untouched lease)
      ⟨fun k t ht => (by cases ht), List.not_mem_nil⟩ fun _ a hmem hv => hv.act (hspares a hmem)
  have hrun : (start plans).run before = (((start plans).run first).act a).run rest := by
    rw [hsplit, run_append, run_cons]
  rw [hrun] at hnow hact ⊢
  generalize (start plans).run first = v at *
  have hmem : a ∈ a :: rest := List.mem_cons_self
  have hnow' : (v.act a).now = v.now := by
    have hle := v.now_le_act a
    have hle' := (v.act a).now_le_run rest
    omega
  have hspared : (v.act a).Spared lease := by
    have huntouched' := huntouched.act (hspares' a hmem)
    have hacquired : (v.act a).Acquired lease.toGrant := by
      refine ⟨((v.act a).run rest).now, k, ?_⟩
      rw [hact]
      exact List.mem_cons_self
    exact ⟨hregular.act (hlawful' a hmem), hacquired, huntouched'.tasks, huntouched'.unstopped⟩
  refine hspared.entry_run (fun b hb => hlawful' b (List.mem_cons_of_mem a hb))
    (fun b hb => hspares' b (List.mem_cons_of_mem a hb)) (by omega) hpositive ?_
  rw [hnow']
  generalize (v.act a).memory = m at hserved ⊢
  cases hserved with
  | acquired free fits => rw [Table.find?_put, if_pos rfl]

/-- A renewal that starts now keeps the lease, if its first tick comes in time and it comes often
enough from then on. -/
lemma sustaining (h : Obtained plans before k lease) {interval timeout : Span}
    (hinterval : 0 < interval.nanos) (htimeout : 0 < timeout.nanos)
    (hfirst : Instant.roundUp (((start plans).run before).now + interval.nanos) <
      ((start plans).run before).now + lease.ttl.nanos)
    (hoften : Instant.roundUp interval.nanos < lease.ttl.nanos) :
    (((start plans).run before).act (.spawn (.renewal (.start lease interval timeout)))).Sustaining
      ((start plans).run before).tasks.length lease := by
  obtain ⟨hspared, hentry⟩ := h.entry (by omega)
  have hsupplied : ((start plans).run before).Supplied Plan.Immediate :=
    Supplied.run (P := Plan.Immediate) rfl (supplied_start h.prompt) h.immediate
  generalize (start plans).run before = w at *
  exact ⟨hspared.act (a := .spawn _) trivial fun _ => rfl,
    Supplied.act (P := Plan.Immediate) (a := .spawn _) rfl hsupplied trivial, _, _, _, hentry, rfl,
    Nat.le_refl _, List.getElem?_concat_length .., rfl, rfl, rfl,
    ⟨hinterval, htimeout, hoften⟩, .fresh rfl hfirst⟩

/-- The lease is one that the task asked for. -/
lemma puts (h : Obtained plans before k lease)
    (ht : ((start plans).run before).tasks[k]? = some t) :
    t.process.Puts (.acquire lease.key lease.token lease.ttl) := by
  obtain ⟨later, older, hhistory⟩ := List.append_of_mem h.granted
  obtain ⟨first, a, rest, hsplit, rfl, hact⟩ := exists_act hhistory (Nat.zero_le _)
  obtain ⟨hlawful, -⟩ := List.forall_mem_append.mp (hsplit ▸ h.lawful)
  obtain ⟨t', u, ht', hu, -, hrequest, -⟩ := served_of_history hact
  have hregular : ((start plans).run first).Regular :=
    (regular_start h.prompt.honest).run hlawful
  have hputs := ((hregular.sound.tasks k t' ht').awaits u hu).puts
  rw [hrequest] at hputs
  obtain ⟨t'', ht'', heq⟩ := puts_run ht' (a :: rest)
  rw [← run_append, ← hsplit] at ht''
  cases ht.symm.trans ht''
  rw [heq]
  exact hputs

end Obtained

/-! ### Keeping a lease alive -/

/-- **A client keeps a lease that lasts longer than its interval.** Take any run at a store that
answers at once, a lease with a lifetime of whole milliseconds that was obtained in it at the
present instant, and any client that keeps it alive from now on. Let the lifetime be longer than the
interval of the client in whole milliseconds. Then at every point of every run in which nobody gives
the lease up, expires its key or aborts the renewal, and at every instant between two points, the
lease holds its key. -/
theorem keep_alive_keeps_lease {plans : Plans} {before acts : List Act} {client : Client}
    {p : Process} (hlease : Obtained plans before k lease) (hp : client.keepAlive lease = .ok p)
    (hwhole : 1000000 ∣ lease.ttl.nanos)
    (hlong : Instant.roundUp client.settings.effectiveRefreshInterval.nanos < lease.ttl.nanos) :
    let j := ((start plans).run before).tasks.length
    let w := ((start plans).run before).act (.spawn p)
    w.Undisturbed j lease acts → ∀ first rest, acts = first ++ rest →
      (w.run first).Kept j lease ∧ ∀ d more, rest = .advance d :: more → ∀ y ≤ d,
        (w.run first).memory.holder ((w.run first).now + y) lease.key = some lease.token := by
  intro j w hacts first rest hsplit
  obtain ⟨hvalid, rfl⟩ := Client.of_keepAlive hp
  obtain ⟨-, htimeout, hinterval, -⟩ := LockSettings.of_validate hvalid
  have hfirst (now : Nat) :
      Instant.roundUp (now + client.settings.effectiveRefreshInterval.nanos) <
        now + lease.ttl.nanos := by
    have hlt := Instant.roundUp_lt (now + client.settings.effectiveRefreshInterval.nanos)
    have hle := Instant.le_roundUp client.settings.effectiveRefreshInterval.nanos
    have hdvd := Instant.dvd_roundUp client.settings.effectiveRefreshInterval.nanos
    omega
  exact (hlease.sustaining hinterval htimeout (hfirst _) hlong).held hacts hsplit

/-- With the default settings, a lease of twelve seconds is kept beyond them. -/
theorem keep_alive_keeps_lease_past_its_end :
    let client : Client := ⟨.standard, "clients"⟩
    let lease : Lease := ⟨⟨"k", .minted 1, .ofSecs 12⟩, 0⟩
    let plans : Plans := ⟨[], [], []⟩
    let before := [.spawn (.errand (.attempt "k" (.ofSecs 12))), .step 0, .step 0, .step 0]
    let acts := [.step 1, .advance 10000000000, .step 1, .step 1, .step 1, .advance 10000000000]
    let p := .renewal (client.upkeep lease)
    let w := ((start plans).run before).act (.spawn p)
    client.keepAlive lease = .ok p ∧ (w.run acts).Kept 1 lease ∧
      lease.ttl.nanos < (w.run acts).now := by
  intro client lease plans before acts p w
  have hlease : Obtained plans before 0 lease :=
    ⟨by simp [plans, Plans.All], by simp [before, Act.Lawful], by simp [before, Act.Supplies],
      by simp [before, Act.Spares, Process.Spares, Errand.attempt], ⟨0, 0, by decide⟩, by decide⟩
  have hp : client.keepAlive lease = .ok p := Client.keepAlive_of_validate (by decide)
  have hj : ((start plans).run before).tasks.length = 1 := by decide
  have hacts : w.Undisturbed ((start plans).run before).tasks.length lease acts :=
    ⟨by simp [acts, Act.Lawful], by simp [acts, Act.Supplies], by simp [acts, Act.Spares],
      by simp [acts], hj ▸ by decide, by decide⟩
  have h := keep_alive_keeps_lease hlease hp (by decide) (by decide) hacts acts []
    (List.append_nil acts).symm
  rw [hj] at h
  exact ⟨hp, h.1, by decide⟩

/-- With the default settings, a lease of three seconds runs out before the first tick. -/
theorem keep_alive_loses_short_lease :
    let client : Client := ⟨.standard, "clients"⟩
    let lease : Lease := ⟨⟨"k", .minted 1, .ofSecs 3⟩, 0⟩
    let plans : Plans := ⟨[], [], []⟩
    let before := [.spawn (.errand (.attempt "k" (.ofSecs 3))), .step 0, .step 0, .step 0]
    let acts := [.step 1, .advance 3000000000]
    let p := .renewal (client.upkeep lease)
    let w := ((start plans).run before).act (.spawn p)
    client.settings.validate = .ok () ∧ Obtained plans before 0 lease ∧
    client.keepAlive lease = .ok p ∧ 1000000 ∣ lease.ttl.nanos ∧
    ((start plans).run before).tasks.length = 1 ∧ w.Undisturbed 1 lease acts ∧
    (w.run acts).memory.holder (w.run acts).now "k" = none ∧ ¬ (w.run acts).Kept 1 lease := by
  intro client lease plans before acts p w
  have hholder : (w.run acts).memory.holder (w.run acts).now "k" = none := by decide
  have hvalid : client.settings.validate = .ok () := by decide
  refine ⟨hvalid, ⟨by simp [plans, Plans.All], by simp [before, Act.Lawful],
    by simp [before, Act.Supplies], by simp [before, Act.Spares, Process.Spares, Errand.attempt],
    ⟨0, 0, by decide⟩, by decide⟩, Client.keepAlive_of_validate hvalid, by decide, by decide,
    ⟨by simp [acts, Act.Lawful], by simp [acts, Act.Supplies], by simp [acts, Act.Spares],
      by simp [acts], by decide, by decide⟩, hholder, fun hkept => ?_⟩
  cases hholder.symm.trans hkept.held

/-- **Settings that are accepted keep a lease, up to rounding.** Take any run at a store that
answers at once in which a client with accepted settings acquires a key, and is granted it at the
present instant. Then the client can keep the lease alive. If the first tick comes before the end of
the lease, and the interval in whole milliseconds is shorter than the lifetime, then at every point
of every run in which nobody gives the lease up, expires its key or aborts the renewal, and at every
instant between two points, the lease holds its key. -/
theorem valid_settings_keep_lease {plans : Plans} {earlier later acts : List Act} {client : Client}
    {key : String} (hvalid : client.settings.validate = .ok ())
    (hlease : Obtained plans (earlier ++ .spawn (client.acquire key) :: later)
      ((start plans).run earlier).tasks.length lease)
    (hfirst : Instant.roundUp
        (((start plans).run (earlier ++ .spawn (client.acquire key) :: later)).now +
          client.settings.effectiveRefreshInterval.nanos) <
      ((start plans).run (earlier ++ .spawn (client.acquire key) :: later)).now +
        client.settings.ttl.nanos)
    (hoften : Instant.roundUp client.settings.effectiveRefreshInterval.nanos <
      client.settings.ttl.nanos) :
    let u := (start plans).run (earlier ++ .spawn (client.acquire key) :: later)
    ∃ p, client.keepAlive lease = .ok p ∧
      ((u.act (.spawn p)).Undisturbed u.tasks.length lease acts →
        ∀ first rest, acts = first ++ rest →
          ((u.act (.spawn p)).run first).Kept u.tasks.length lease ∧
          ∀ d more, rest = .advance d :: more → ∀ y ≤ d,
            ((u.act (.spawn p)).run first).memory.holder
              (((u.act (.spawn p)).run first).now + y) lease.key = some lease.token) := by
  intro u
  obtain ⟨-, htimeout, hinterval, -⟩ := LockSettings.of_validate hvalid
  -- the lease has the lifetime that the settings give
  have hspawned : (((start plans).run earlier).act (.spawn (client.acquire key))).tasks[
      ((start plans).run earlier).tasks.length]? = some ⟨client.acquire key, none, none, none⟩ :=
    List.getElem?_concat_length ..
  obtain ⟨t, ht, hputs⟩ := puts_run hspawned later
  rw [← run_cons, ← run_append] at ht
  have hasked := hlease.puts ht
  rw [hputs] at hasked
  obtain ⟨-, httl⟩ := Client.of_acquire_puts hasked
  refine ⟨_, Client.keepAlive_of_validate hvalid, fun hacts first rest hsplit => ?_⟩
  rw [← httl] at hfirst hoften
  exact (hlease.sustaining hinterval htimeout hfirst hoften).held hacts hsplit

/-- A lifetime of two and a half milliseconds, obtained between two of them, is enough. -/
theorem valid_settings_keep_lease_past_its_end :
    let client : Client := ⟨{ LockSettings.standard with ttl := .ofNanos 2500000 }, "clients"⟩
    let lease : Lease := ⟨⟨"k", .minted 1, .ofNanos 2500000⟩, 0⟩
    let plans : Plans := ⟨[], [], []⟩
    let earlier := [.advance 300000]
    let later := [.step 0, .step 0, .step 0]
    let acts := [.step 1, .advance 1700000, .step 1, .step 1, .step 1, .step 1, .step 1, .step 1,
      .advance 1000000]
    let u := (start plans).run (earlier ++ .spawn (client.acquire "k") :: later)
    ∃ p, client.keepAlive lease = .ok p ∧ ((u.act (.spawn p)).run acts).Kept 1 lease ∧
      u.now + lease.ttl.nanos < ((u.act (.spawn p)).run acts).now := by
  intro client lease plans earlier later acts u
  have hvalid : client.settings.validate = .ok () := by decide
  have hlease : Obtained plans (earlier ++ .spawn (client.acquire "k") :: later)
      ((start plans).run earlier).tasks.length lease :=
    ⟨by simp [plans, Plans.All], by simp [earlier, later, Act.Lawful],
      by simp [earlier, later, Act.Supplies],
      by simp [earlier, later, Act.Spares, Client.acquire_spares], ⟨300000, 0, by decide⟩,
      by decide⟩
  have hj : u.tasks.length = 1 := by decide
  obtain ⟨p, hp, hkept⟩ := valid_settings_keep_lease hvalid hlease (by decide) (by decide)
  cases hp.symm.trans (Client.keepAlive_of_validate hvalid)
  have hacts : (u.act (.spawn (.renewal (client.upkeep lease)))).Undisturbed u.tasks.length lease
      acts :=
    ⟨by simp [acts, Act.Lawful], by simp [acts, Act.Supplies], by simp [acts, Act.Spares],
      by simp [acts], hj ▸ by decide, by decide⟩
  have h := hkept hacts acts [] (List.append_nil acts).symm
  refine ⟨_, hp, ?_, by decide⟩
  rw [← hj]
  exact h.1

/-- With a lifetime of one millisecond, the first tick comes when the lease has run out. -/
theorem valid_settings_lose_brief_lease :
    let client : Client := ⟨{ LockSettings.standard with ttl := .ofMillis 1 }, "clients"⟩
    let lease : Lease := ⟨⟨"k", .minted 1, .ofMillis 1⟩, 0⟩
    let plans : Plans := ⟨[], [], []⟩
    let before := [.spawn (client.acquire "k"), .step 0, .step 0, .step 0]
    let acts := [.step 1, .advance 1000000, .step 1, .step 1, .step 1]
    let p := .renewal (client.upkeep lease)
    let w := ((start plans).run before).act (.spawn p)
    client.settings.validate = .ok () ∧ Obtained plans before 0 lease ∧
    client.keepAlive lease = .ok p ∧ ((start plans).run before).tasks.length = 1 ∧
    w.Undisturbed 1 lease acts ∧ (w.run acts).memory.holder (w.run acts).now "k" = none ∧
    (w.run acts).ending? 1 = some (.failed .notHeld) := by
  intro client lease plans before acts p w
  have hvalid : client.settings.validate = .ok () := by decide
  exact ⟨hvalid, ⟨by simp [plans, Plans.All], by simp [before, Act.Lawful],
    by simp [before, Act.Supplies], by simp [before, Act.Spares, Client.acquire_spares],
    ⟨0, 0, by decide⟩, by decide⟩, Client.keepAlive_of_validate hvalid, by decide,
    ⟨by simp [acts, Act.Lawful], by simp [acts, Act.Supplies], by simp [acts, Act.Spares],
      by simp [acts], by decide, by decide⟩, by decide, by decide⟩

end World
end LeaseLock
