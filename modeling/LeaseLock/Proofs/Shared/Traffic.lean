import Mathlib.Logic.ExistsUnique
import Mathlib.Tactic.Common
import LeaseLock.Proofs.Shared.Listing

/-!
The table of flights while they come and go.

Callers, guards, tasks and those who wait move in any order, and ids repeat. `Sound` is what they
keep: the table lists the flights that have their guards, and an outcome is out only after the
guard of its flight is gone.
-/

namespace LeaseLock.Traffic

variable {α : Type} {t : Traffic α} {key : String} {n : Nat} {outcome : α}

structure Sound (t : Traffic α) : Prop where
  listed : t.flights.Lists fun n => (t.log n).guarded = true
  ahead : ∀ n, t.flights.all.length ≤ n → t.log n = .fresh
  landed : ∀ n outcome, t.flights.outcome? n = some outcome →
    (t.log n).work = some outcome ∧ (t.log n).guarded = false
  /-- Of the flights for a key, the one with its guard is the last. -/
  latest : ∀ key n m id, t.Aloft key n → t.flights.name? m = some (key, id) → m ≤ n
  received : ∀ n outcome, (n, outcome) ∈ t.received → t.flights.outcome? n = some outcome

lemma sound_start (firstId : UInt64) : (start firstId : Traffic α).Sound where
  listed := .empty firstId
  ahead _ _ := rfl
  landed n outcome h := by simp [start, Flights.outcome?, Flights.stage?, Flights.empty] at h
  latest key n m id _ h := by simp [start, Flights.name?, Flights.empty] at h
  received n outcome h := by simp [start] at h

lemma lt_of_stage? {stage : Flight.Stage α} (h : t.flights.stage? n = some stage) :
    n < t.flights.all.length := by
  obtain ⟨flight, hf, -⟩ := Option.map_eq_some_iff.mp h
  exact (List.getElem?_eq_some_iff.mp hf).1

namespace Sound

/-- A change to the logs that leaves the guards, and what has landed, as they were. -/
lemma setLog (h : t.Sound) {log : Log α} (hn : n < t.flights.all.length)
    (hguard : log.guarded = (t.log n).guarded)
    (hwork : ∀ outcome, t.flights.outcome? n = some outcome → log.work = some outcome) :
    (t.setLog n log).Sound := by
  have guards (k : Nat) : ((t.setLog n log).log k).guarded = (t.log k).guarded := by
    simp only [Traffic.setLog]
    split
    · next hk => rw [hk, hguard]
    · rfl
  exact
    { listed := h.listed.congr fun k _ => by rw [guards]
      ahead k hk := by
        have hne : k ≠ n := fun he => absurd hn (Nat.not_lt.mpr (he ▸ hk))
        simp only [Traffic.setLog, if_neg hne]
        exact h.ahead k hk
      landed k outcome ho := by
        rw [guards]
        refine ⟨?_, (h.landed k outcome ho).2⟩
        simp only [Traffic.setLog]
        split
        · next hk => exact hwork outcome (hk ▸ ho)
        · exact (h.landed k outcome ho).1
      latest key k m id ha := by
        refine h.latest key k m id ⟨ha.1, ?_⟩
        rw [← guards]
        exact ha.2
      received := h.received }

/-- A change to the stage of a flight, after which the same outcomes are out and no others but
one that has been cleared to get out. -/
lemma setStage (h : t.Sound) (n : Nat) (stage : Flight.Stage α)
    (hnew : ∀ k outcome, (t.flights.setStage n stage).outcome? k = some outcome →
      (t.log k).work = some outcome ∧ (t.log k).guarded = false)
    (hold : ∀ k outcome, t.flights.outcome? k = some outcome →
      (t.flights.setStage n stage).outcome? k = some outcome) :
    ({ t with flights := t.flights.setStage n stage } : Traffic α).Sound where
  listed := h.listed.setStage n stage
  ahead k hk := h.ahead k (by simpa [Flights.setStage] using hk)
  landed := hnew
  latest key k m id ha hm := by
    rw [Flights.name?_setStage] at hm
    refine h.latest key k m id ⟨?_, ha.2⟩ hm
    obtain ⟨id', hk⟩ := ha.1
    exact ⟨id', by rwa [Flights.name?_setStage] at hk⟩
  received k outcome hr := hold k outcome (h.received k outcome hr)

lemma launch (h : t.Sound) (hs : t.flights.stage? n = some .boarding) :
    ({ t with flights := t.flights.launch n } : Traffic α).Sound := by
  refine h.setStage n .flying (fun k outcome ho => ?_) fun k outcome ho => ?_
  · exact h.landed k outcome (Flights.outcome?_of_launch ho)
  · rw [Flights.outcome?_eq_some] at ho ⊢
    have hk : k ≠ n := by
      rintro rfl
      rw [hs] at ho
      cases ho
    rwa [Flights.stage?_setStage, if_neg hk]

lemma reveal (h : t.Sound) {known : Bool} (hlog : t.log n = ⟨some outcome, false, known⟩) :
    ({ t with flights := t.flights.setStage n (.landed outcome) } : Traffic α).Sound := by
  refine h.setStage n (.landed outcome) (fun k x ho => ?_) fun k x ho => ?_
  · rw [Flights.outcome?_eq_some, Flights.stage?_setStage] at ho
    split at ho
    · next hk =>
      obtain ⟨stage, -, hx⟩ := Option.map_eq_some_iff.mp ho
      cases hx
      simp [hk, hlog]
    · exact h.landed k x (Flights.outcome?_eq_some.mpr ho)
  · have hwork := (h.landed k x ho).1
    rw [Flights.outcome?_eq_some] at ho ⊢
    rw [Flights.stage?_setStage]
    split
    · next hk =>
      rw [hk, hlog] at hwork
      cases hwork
      simp [ho]
    · exact ho

/-- Whoever looks at the table joins the flight on it, or enters one that has its guard. -/
lemma look (h : t.Sound) (key : String) (id : UInt64) :
    ({ t with flights := (t.flights.board key id).2 } : Traffic α).Sound := by
  cases hrow : t.flights.table.find? key with
  | some row => rwa [Flights.board_joins hrow]
  | none =>
    have hlen : (t.flights.board key id).2.all.length = t.flights.all.length + 1 := by
      simp [Flights.board_enters hrow]
    have hfresh := h.ahead t.flights.all.length (Nat.le_refl _)
    have houtcome (k : Nat) (outcome : α) :
        (t.flights.board key id).2.outcome? k = some outcome ↔
          t.flights.outcome? k = some outcome := by
      rw [Flights.outcome?_eq_some, Flights.outcome?_eq_some, Flights.stage?_board]
      split
      · next hk =>
        simp [hk.2, Flights.stage?]
      · rfl
    refine ⟨?_, fun k hk => ?_, fun k outcome ho => ?_, ?_,
      fun k outcome hr => (houtcome k outcome).mpr (h.received k outcome hr)⟩
    · exact h.listed.enters hrow id (fun k _ => Iff.rfl) (by rw [hfresh]; rfl)
    · have hk : (t.flights.board key id).2.all.length ≤ k := hk
      exact h.ahead k (by omega)
    · exact h.landed k outcome ((houtcome k outcome).mp ho)
    · rintro k' k m id' ⟨⟨id'', hk⟩, hguard⟩ hm
      rw [Flights.name?_board hrow] at hk hm
      split at hk
      · next heq =>
        split at hm
        · omega
        · have := Flights.lt_of_name? hm
          omega
      · split at hm
        · -- the new flight has a key that no flight aloft has
          obtain ⟨rfl, -⟩ := Prod.mk.inj (Option.some.inj hm)
          rw [h.listed.find? hk hguard] at hrow
          cases hrow
        · exact h.latest k' k m id' ⟨⟨id'', hk⟩, hguard⟩ hm

/-- A flight with a log of its own was entered. -/
lemma exists_name? (h : t.Sound) (hlog : t.log n ≠ .fresh) :
    ∃ key id, t.flights.name? n = some (key, id) := by
  rcases Nat.lt_or_ge n t.flights.all.length with hlt | hge
  · refine ⟨t.flights.all[n].key, t.flights.all[n].id, ?_⟩
    simp [Flights.name?, List.getElem?_eq_getElem hlt]
  · exact absurd (h.ahead n hge) hlog

lemma clear (h : t.Sound) {known : Bool} (hlog : t.log n = ⟨some outcome, true, known⟩) :
    ({ t with flights := t.flights.strike n }.setLog n ⟨some outcome, false, known⟩).Sound := by
  obtain ⟨key, id, hname⟩ := h.exists_name? (n := n) (by simp [hlog, Log.fresh])
  have hguard : (t.log n).guarded = true := by rw [hlog]
  have hall : (t.flights.strike n).all = t.flights.all := t.flights.strike_all n
  have houtcome (k : Nat) : (t.flights.strike n).outcome? k = t.flights.outcome? k := by
    simp only [Flights.outcome?, Flights.stage?, hall]
  have guards (k : Nat) : ((t.setLog n ⟨some outcome, false, known⟩).log k).guarded = true ↔
      (t.log k).guarded = true ∧ k ≠ n := by
    simp only [Traffic.setLog]
    split
    · next hk => simp [hk]
    · next hk => simp [hk]
  refine ⟨h.listed.strike hname hguard guards, fun k hk => ?_, fun k x ho => ?_, ?_,
    fun k x hr => (houtcome k).trans (h.received k x hr)⟩
  · have hlt := Flights.lt_of_name? hname
    have hk : t.flights.all.length ≤ k := by simpa [Traffic.setLog, hall] using hk
    simp only [Traffic.setLog, if_neg (show k ≠ n by omega)]
    exact h.ahead k hk
  · have hlanded := h.landed k x ((houtcome k).symm.trans ho)
    simp only [Traffic.setLog]
    split
    · next hk =>
      rw [hk, hlog] at hlanded
      cases hlanded.2
    · exact hlanded
  · rintro k' k m id' ⟨⟨id'', hk⟩, hg⟩ hm
    exact h.latest k' k m id'
      ⟨⟨id'', by simpa [Traffic.setLog] using hk⟩, ((guards k).mp hg).1⟩
      (by simpa [Traffic.setLog] using hm)

/-- **Every move keeps the table in order.** -/
theorem step (h : t.Sound) (move : Move α) : (t.step move).Sound := by
  cases move with
  | draw key => exact ⟨h.listed, h.ahead, h.landed, h.latest, h.received⟩
  | look i =>
    simp only [Traffic.step]
    split
    · next key id hcaller =>
      have hlook := h.look key id
      exact ⟨hlook.listed, hlook.ahead, hlook.landed, hlook.latest, hlook.received⟩
    · exact h
  | launch n =>
    simp only [Traffic.step]
    split
    · next hs hwork => exact h.launch hs
    · exact h
  | balk n outcome =>
    simp only [Traffic.step]
    split
    · next hs hwork =>
      refine h.setLog (lt_of_stage? hs) rfl fun x ho => ?_
      rw [(h.landed n x ho).1] at hwork
      cases hwork
    · exact h
  | announce n =>
    simp only [Traffic.step]
    split
    · next hs => exact h.setLog (lt_of_stage? hs) rfl fun x ho => (h.landed n x ho).1
    · exact h
  | finish n outcome =>
    simp only [Traffic.step]
    split
    · next hs hwork =>
      refine h.setLog (lt_of_stage? hs) rfl fun x ho => ?_
      rw [(h.landed n x ho).1] at hwork
      cases hwork
    · exact h
  | clear n =>
    simp only [Traffic.step]
    split
    · next outcome known hlog => exact h.clear hlog
    · exact h
  | reveal n =>
    simp only [Traffic.step]
    split
    · next outcome hlog => exact h.reveal hlog
    · exact h
  | poll n =>
    simp only [Traffic.step]
    split
    · next outcome ho =>
      refine ⟨h.listed, h.ahead, h.landed, h.latest, fun k x hr => ?_⟩
      rcases List.mem_cons.mp hr with heq | hr
      · cases heq
        exact ho
      · exact h.received k x hr
    · exact h

lemma run (h : t.Sound) (moves : List (Move α)) : (t.run moves).Sound := by
  induction moves generalizing t with
  | nil => exact h
  | cons move moves ih => exact ih (h.step move)

/-- An entry goes off the table only with the guard of its flight. -/
lemma find?_step (h : t.Sound) {row : Flights.Row}
    (hrow : t.flights.table.find? key = some row) (move : Move α) :
    (t.step move).flights.table.find? key = some row ∨
      move = .clear row.number ∧ (t.step move).flights.table.find? key = none := by
  cases move with
  | look i =>
    left
    simp only [Traffic.step]
    split
    · next k id hcaller =>
      dsimp only
      cases hk : t.flights.table.find? k with
      | some other => rwa [Flights.board_joins hk]
      | none =>
        have hne : key ≠ k := fun he => by rw [← he, hrow] at hk; cases hk
        rw [Flights.board_enters hk]
        simpa [Table.find?_put, hne] using hrow
    · exact hrow
  | clear n =>
    simp only [Traffic.step]
    split
    · next outcome known hlog =>
      obtain ⟨k, id, hname⟩ := h.exists_name? (n := n) (by simp [hlog, Log.fresh])
      have hguard : (t.log n).guarded = true := by rw [hlog]
      have htable := h.listed.strike_table hname hguard
      simp only [Traffic.setLog, htable, Table.find?_drop]
      by_cases hk : key = k
      · right
        subst hk
        rw [h.listed.find? hname hguard] at hrow
        obtain rfl := Option.some.inj hrow
        simp
      · left
        rwa [if_neg hk]
    · exact .inl hrow
  | draw key => exact .inl hrow
  | launch n | balk n outcome | announce n | finish n outcome | reveal n | poll n =>
    left
    simp only [Traffic.step]
    split <;> exact hrow

lemma aloft_iff (h : t.Sound) : (t.flights.table.find? key).isSome ↔ ∃ n, t.Aloft key n := by
  constructor
  · intro hsome
    obtain ⟨row, hrow⟩ := Option.isSome_iff_exists.mp hsome
    obtain ⟨hname, hguard⟩ := (h.listed key row).mp hrow
    exact ⟨row.number, ⟨row.id, hname⟩, hguard⟩
  · rintro ⟨n, ⟨id, hname⟩, hguard⟩
    rw [h.listed.find? hname hguard]
    rfl

lemma eq_of_aloft (h : t.Sound) {m : Nat} (hn : t.Aloft key n) (hm : t.Aloft key m) : n = m := by
  obtain ⟨⟨id, hname⟩, hguard⟩ := hn
  obtain ⟨⟨id', hname'⟩, hguard'⟩ := hm
  exact h.listed.unique hname hname' hguard hguard'

end Sound

/-! ### The moves of an operation in one go -/

lemma run_enter (t : Traffic α) (key : String) :
    t.run [.draw key, .look t.callers.length] =
      { t with flights := (t.flights.enter key).2 } := by
  simp [run, step, Flights.enter_eq_board, List.eraseIdx_append_of_length_le]

lemma run_land (hs : t.flights.stage? n = some .flying) (hlog : t.log n = ⟨none, true, true⟩)
    (outcome : α) :
    (t.run [.finish n outcome, .clear n, .reveal n]).flights = t.flights.land n outcome := by
  simp [run, step, hs, hlog, setLog, Flights.land_eq_strike]

/-- Whoever looks at the table gets on the flight for the key that has its guard, or on a new
one if there is none, and so never on one whose outcome is out. -/
lemma Sound.board_after {id own : UInt64} {number : Nat} {isNew : Bool} {flights : Flights α}
    (h : t.Sound) (ho : t.flights.outcome? n = some outcome)
    (hname : t.flights.name? n = some (key, id))
    (hb : t.flights.board key own = ((number, isNew), flights)) :
    n < number ∧ (isNew = true ↔ ∀ m, ¬ t.Aloft key m) ∧
      (isNew = false → t.Aloft key number) := by
  have hgone := (h.landed n outcome ho).2
  have haloft : (t.flights.table.find? key).isSome ↔ ∃ n, t.Aloft key n := h.aloft_iff
  cases hrow : t.flights.table.find? key with
  | some row =>
    rw [Flights.board_joins hrow] at hb
    cases hb
    obtain ⟨hnumber, hguard⟩ := (h.listed key row).mp hrow
    have hjoined : t.Aloft key row.number := ⟨⟨row.id, hnumber⟩, hguard⟩
    have hle := h.latest key row.number n id hjoined hname
    have hne : n ≠ row.number := by
      rintro rfl
      rw [hgone] at hguard
      cases hguard
    exact ⟨by omega, by simpa using ⟨_, hjoined⟩, fun _ => hjoined⟩
  | none =>
    rw [Flights.board_enters hrow] at hb
    cases hb
    refine ⟨Flights.lt_of_name? hname, ?_, by simp⟩
    simpa [hrow] using haloft

/-- **The table follows the flights.** However callers, guards, tasks and those who wait move,
and wherever ids start: a key has an entry just if one flight for it, and no other, has its
guard; an entry goes only with the guard of its own flight, and goes with it; the outcome of a
flight is out only when its entry is gone. So whoever looks at the table after an outcome was
received is on a later flight: on the one for the key that has its guard, or on a new one if
there is none. -/
theorem table_follows_flights (firstId : UInt64) (moves : List (Move α)) :
    let t := (start firstId).run moves
    (∀ key, (t.flights.table.find? key).isSome ↔ ∃! n, t.Aloft key n) ∧
    (∀ key n m, t.Aloft key n → t.Aloft key m → n = m) ∧
    (∀ key row move, t.flights.table.find? key = some row →
      (t.step move).flights.table.find? key ≠ some row →
      move = .clear row.number ∧ t.Aloft key row.number ∧
        (t.step move).flights.table.find? key = none) ∧
    (∀ key n, t.Aloft key n → (t.log n).work.isSome →
      (t.step (.clear n)).flights.table.find? key = none) ∧
    (∀ n outcome, t.flights.outcome? n = some outcome →
      ∀ key row, t.flights.table.find? key = some row → row.number ≠ n) ∧
    ∀ n outcome key id, (n, outcome) ∈ t.received → t.flights.name? n = some (key, id) →
      ∀ own number isNew flights, t.flights.board key own = ((number, isNew), flights) →
        n < number ∧ (isNew = true ↔ ∀ m, ¬ t.Aloft key m) ∧
          (isNew = false → t.Aloft key number) := by
  intro t
  have h : t.Sound := (sound_start firstId).run moves
  refine ⟨fun key => ?_, fun key n m => h.eq_of_aloft, fun key row move hrow hchanged => ?_,
    fun key n haloft hwork => ?_, fun n outcome ho key row hrow => ?_,
    fun n outcome key id hr hname own number isNew flights hb => ?_⟩
  · rw [h.aloft_iff]
    exact ⟨fun ⟨n, hn⟩ => ⟨n, hn, fun m hm => h.eq_of_aloft hm hn⟩, fun ⟨n, hn, _⟩ => ⟨n, hn⟩⟩
  · obtain ⟨hmove, hnone⟩ := (h.find?_step hrow move).resolve_left hchanged
    obtain ⟨hname, hguard⟩ := (h.listed key row).mp hrow
    exact ⟨hmove, ⟨⟨row.id, hname⟩, hguard⟩, hnone⟩
  · obtain ⟨outcome, hwork⟩ := Option.isSome_iff_exists.mp hwork
    obtain ⟨⟨id, hname⟩, hguard⟩ := haloft
    have hlog : t.log n = ⟨some outcome, true, (t.log n).known⟩ := by rw [← hwork, ← hguard]
    simp only [step]
    rw [hlog]
    simp [setLog, h.listed.strike_table hname hguard, Table.find?_drop]
  · rintro rfl
    obtain ⟨-, hguard⟩ := (h.listed key row).mp hrow
    rw [(h.landed row.number outcome ho).2] at hguard
    cases hguard
  · exact h.board_after (h.received n outcome hr) hname hb

/-- Both callers are on a flight that was entered before the outcome of the first was out. -/
theorem next_caller_joins : ¬ ∀ (firstId : UInt64) (moves : List (Move Unit)) n outcome key id,
    let t := (start firstId).run moves
    (n, outcome) ∈ t.received → t.flights.name? n = some (key, id) →
      ∀ own, (t.flights.board key own).1.2 = true := by
  intro always
  have := always 0 [.draw "k", .look 0, .launch 0, .announce 0, .finish 0 (), .clear 0,
    .draw "k", .look 0, .reveal 0, .poll 0] 0 () "k" 0 (by decide) (by decide) 2
  revert this
  decide

end LeaseLock.Traffic
