import Mathlib.Data.List.Perm.Basic
import Mathlib.Tactic.Common
import LeaseLock.Proofs.Redis.Scripts
import LeaseLock.Redis.Mailbox

/-!
Requests that come late do no harm.

A request may be carried out long after its sender has given it up, and in any order with others.
`Honours` says that a server keeps every deadline that it has granted, and `Accounts` that no
request presents a token as new a second time; both hold whatever is still in the mail.
-/

namespace LeaseLock.Redis

/-! ### What a script does to the rows -/

namespace Keyspace

variable {ks : Keyspace} {key : String} {token : Token}

lemma find?_put (ks : Keyspace) (key k : String) (row : Row) :
    (ks.put key row).rows.find? k = if k = key then some row else ks.rows.find? k :=
  Table.find?_put ks.rows key row k

lemma owner?_of_find? {deadline : Nat} (h : ks.rows.find? key = some ⟨token, some deadline⟩)
    (hlt : ks.now < deadline) : ks.owner? key = some token := by
  simp [owner?, live?, h, Option.filter, Row.isLive, hlt]

lemma find?_of_owner? (h : ks.owner? key = some token) :
    ∃ row, ks.rows.find? key = some row ∧ row.value = token := by
  obtain ⟨row, hlive, hv⟩ := Option.map_eq_some_iff.mp h
  exact ⟨row, (Option.filter_eq_some_iff.mp hlive).1, hv⟩

end Keyspace

namespace Script

variable {ks ks' : Keyspace} {r : Request} {reply : Reply} {key : String} {token : Token}

/-- A script leaves the row of a key as it was, sets it for an owner who may have it, or drops
it for the owner who has it. -/
inductive Touched (ks : Keyspace) (r : Request) (reply : Reply) (ks' : Keyspace) (key : String) :
    Prop
  | same (row : ks'.rows.find? key = ks.rows.find? key)
  | written (ttl : Span) (write : r.write? = some (key, r.token, ttl))
      (response : Link.response r reply = .granted true)
      (free : ∀ owner, ks.owner? key = some owner → owner = r.token)
      (own : r.presents? = none → ks.owner? key = some r.token)
      (row : ks'.rows.find? key = some ⟨r.token, some (ks.now + ttlMillis ttl)⟩)
  | dropped (release : r = .release key r.token) (own : ks.owner? key = some r.token)
      (row : ks'.rows.find? key = none)

theorem Ran.touched (h : Ran ks r reply ks') (key : String) : Touched ks r reply ks' key := by
  cases h with
  | @set k token ttl absent fits =>
    by_cases hk : key = k
    · subst hk
      exact .written ttl rfl rfl (by simp [absent]) (fun h => by cases h)
        (by simp [Keyspace.find?_put, Request.token])
    · exact .same (by simp [Keyspace.find?_put, hk])
  | @prolonged k token ttl own fits =>
    by_cases hk : key = k
    · subst hk
      exact .written ttl rfl rfl (by simp [own, Request.token]) (fun h => by cases h)
        (by simp [Keyspace.find?_put, Request.token])
    · exact .same (by simp [Keyspace.find?_put, hk])
  | @refreshed k token ttl own fits =>
    by_cases hk : key = k
    · subst hk
      exact .written ttl rfl rfl (by simp [own, Request.token]) (fun _ => own)
        (by simp [Keyspace.find?_put, Request.token])
    · exact .same (by simp [Keyspace.find?_put, hk])
  | @released k token own =>
    by_cases hk : key = k
    · subst hk
      exact .dropped rfl own (by simp [Table.find?_drop])
    · exact .same (by simp [Table.find?_drop, hk])
  | taken | stale | foreign | refused => exact .same rfl

/-- A write that is granted is done. -/
lemma Ran.written {ttl : Span} (h : Ran ks r reply ks') (hr : r.write? = some (key, token, ttl))
    (hg : Link.response r reply = .granted true) :
    ks'.rows.find? key = some ⟨token, some (ks.now + ttlMillis ttl)⟩ := by
  cases h with
  | set | prolonged | refreshed => cases hr; simp [Keyspace.find?_put]
  | taken | stale => cases hg
  | released | foreign => cases hr
  | refused refusal writes full => cases refusal <;> cases r <;> cases hg

/-- A key that is held is set for nobody else, whatever time is asked for. -/
lemma acquire_taken {owner : Token} {ttl : Span} (held : ks.owner? key = some owner)
    (other : owner ≠ token) :
    (program (.acquire key token ttl)).run ks = (.nil, ks, [.get key]) := by
  obtain ⟨row, hlive, rfl⟩ := Option.map_eq_some_iff.mp held
  simp [program, acquireProgram, Program.run, Keyspace.run, hlive, other]

end Script

/-! ### Deadlines that were granted -/

namespace Execution

variable {e : Execution} {key : String} {token : Token} {deadline : Nat}

lemma deadline?_eq_some : e.deadline? key token = some deadline ↔
    ∃ ttl, e.request.write? = some (key, token, ttl) ∧
      Link.response e.request e.reply = .granted true ∧ e.time + ttlMillis ttl = deadline := by
  unfold deadline?
  constructor
  · intro h
    obtain ⟨⟨k, owner, ttl⟩, hw, hd⟩ := Option.bind_eq_some_iff.mp h
    dsimp only at hd
    split at hd
    · next hc =>
      obtain ⟨rfl, rfl, hg⟩ := hc
      exact ⟨ttl, hw, hg, Option.some.inj hd⟩
    · cases hd
  · rintro ⟨ttl, hw, hg, rfl⟩
    simp [hw, hg]

end Execution

namespace Mailbox

variable {m : Mailbox} {r : Request} {i : Nat} {key : String} {token : Token}

/-- The owner of the last granted write to a key has it until the deadline of that write, unless
it was released since. -/
def Honours (m : Mailbox) : Prop :=
  ∀ key token deadline since earlier, m.history = since ++ earlier →
    (∀ e ∈ since, e.request ≠ .release key token) →
    since.findSome? (·.deadline? key token) = some deadline →
    m.keyspace.rows.find? key = some ⟨token, some deadline⟩ ∨ deadline ≤ m.keyspace.now

/-- What is left of a mailbox when a request has been carried out. -/
lemma execute_ran (m : Mailbox) (r : Request) : ∃ reply ks, Script.Ran m.keyspace r reply ks ∧
    m.execute r = { m with keyspace := ks, history := ⟨m.keyspace.now, r, reply⟩ :: m.history } :=
  ⟨_, _, Script.program_ran m.keyspace r, rfl⟩

/-- What is left when a request from the mail has been carried out. -/
lemma deliver_ran (m : Mailbox) (hr : m.pending[i]? = some r) :
    ∃ reply, Script.Ran m.keyspace r reply (m.step (.deliver i)).keyspace ∧
      (m.step (.deliver i)).history = ⟨m.keyspace.now, r, reply⟩ :: m.history := by
  simp only [Mailbox.step, hr]
  exact ⟨_, Script.program_ran m.keyspace r, rfl⟩

lemma Honours.execute (hm : m.Honours) (r : Request) : (m.execute r).Honours := by
  obtain ⟨reply, ks, hran, heq⟩ := m.execute_ran r
  rw [heq]
  intro key token deadline since earlier hsplit hkept hd
  have hnow : ks.now = m.keyspace.now := hran.now_eq
  cases since with
  | nil => cases hd
  | cons e since =>
    obtain ⟨rfl, hhistory⟩ := List.cons.inj hsplit
    rw [List.findSome?_cons] at hd
    split at hd
    · next d he =>
      obtain ⟨ttl, hw, hg, rfl⟩ := Execution.deadline?_eq_some.mp he
      cases hd
      exact .inl (hran.written hw hg)
    · next he =>
      have hbefore := hm key token deadline since earlier hhistory
        (fun x hx => hkept x (List.mem_cons_of_mem _ hx)) hd
      rw [hnow]
      by_cases hlt : deadline ≤ m.keyspace.now
      · exact .inr hlt
      · have hrow := hbefore.resolve_right hlt
        have howner := Keyspace.owner?_of_find? hrow (by omega)
        left
        cases hran.touched key with
        | same row => rw [row, hrow]
        | written ttl write response free own row =>
          -- it is the owner who wrote, and so with a deadline of its own
          obtain rfl := free token howner
          have hwrote : Execution.deadline? key r.token ⟨m.keyspace.now, r, reply⟩ =
              some (m.keyspace.now + ttlMillis ttl) :=
            Execution.deadline?_eq_some.mpr ⟨ttl, write, response, rfl⟩
          rw [he] at hwrote
          cases hwrote
        | dropped release own row =>
          obtain rfl := Option.some.inj (howner.symm.trans own)
          exact absurd release (hkept _ List.mem_cons_self)

lemma Honours.step (hm : m.Honours) (move : Move) : (m.step move).Honours := by
  cases move with
  | send r => exact hm
  | lose i => exact hm
  | deliver i =>
    simp only [Mailbox.step]
    split
    · next r hr => exact hm.execute r
    · exact hm
  | advance millis =>
    intro key token deadline since earlier hsplit hkept hd
    refine (hm key token deadline since earlier hsplit hkept hd).imp_right fun h => ?_
    exact Nat.le_trans h (Nat.le_add_right _ millis)

lemma honours_run (moves : List Move) : (start.run moves).Honours := by
  suffices h : ∀ m : Mailbox, m.Honours → (m.run moves).Honours from
    h start fun key token deadline since earlier hsplit _ hd => by
      obtain ⟨rfl, -⟩ := List.append_eq_nil_iff.mp hsplit.symm
      cases hd
  induction moves with
  | nil => exact fun m hm => hm
  | cons move moves ih => exact fun m hm => ih _ (hm.step move)

/-! ### Tokens that are presented as new -/

/-- How many requests present `token` as a new one, carried out or in the mail. -/
def presentations (m : Mailbox) (token : Token) : Nat :=
  m.history.countP (·.request.presents? = some token) +
    m.pending.countP (·.presents? = some token)

/-- Owners come from requests that presented them as new; whoever has released a key is none. -/
structure Accounts (m : Mailbox) : Prop where
  owners : ∀ key row, m.keyspace.rows.find? key = some row →
    ∃ e ∈ m.history, e.request.presents? = some row.value
  released : ∀ key token e, e ∈ m.history → e.request = .release key token → e.reply = .int 1 →
    (∃ e ∈ m.history, e.request.presents? = some token) ∧
    ∀ row, m.keyspace.rows.find? key = some row → row.value ≠ token

lemma accounts_start : start.Accounts where
  owners key row h := by cases h
  released key token e h := by cases h

/-- Two requests for the same token, one of them carried out, are two presentations of it. -/
lemma two_le_presentations (hr : m.pending[i]? = some r) (hnew : r.presents? = some token)
    (hold : ∃ e ∈ m.history, e.request.presents? = some token) :
    2 ≤ m.presentations token := by
  obtain ⟨e, he, hp⟩ := hold
  have h1 : 0 < m.history.countP (·.request.presents? = some token) :=
    List.countP_pos_iff.mpr ⟨e, he, by simpa using hp⟩
  have h2 : 0 < m.pending.countP (·.presents? = some token) :=
    List.countP_pos_iff.mpr ⟨r, List.mem_of_getElem? hr, by simpa using hnew⟩
  unfold presentations
  omega

lemma Accounts.presented (hm : m.Accounts) (h : m.keyspace.owner? key = some token) :
    ∃ e ∈ m.history, e.request.presents? = some token := by
  obtain ⟨row, hrow, rfl⟩ := Keyspace.find?_of_owner? h
  exact hm.owners key row hrow

lemma Accounts.execute (hm : m.Accounts) (hr : m.pending[i]? = some r)
    (once : ∀ token, m.presentations token ≤ 1) : (m.execute r).Accounts := by
  obtain ⟨reply, ks, hran, heq⟩ := m.execute_ran r
  rw [heq]
  have older {token : Token} (h : ∃ e ∈ m.history, e.request.presents? = some token) :
      ∃ e ∈ ⟨m.keyspace.now, r, reply⟩ :: m.history, e.request.presents? = some token := by
    obtain ⟨e, he, hp⟩ := h
    exact ⟨e, List.mem_cons_of_mem _ he, hp⟩
  refine ⟨fun key row hrow => ?_, fun key token e he hrel hone => ?_⟩
  · cases hran.touched key with
    | same same => exact older (hm.owners key row (same ▸ hrow))
    | written ttl write response free own written =>
      obtain rfl := Option.some.inj (written.symm.trans hrow)
      cases hnew : r.presents? with
      | some t =>
        refine ⟨_, List.mem_cons_self, ?_⟩
        cases r <;> cases hnew
        rfl
      | none =>
        exact older (hm.presented (own hnew))
    | dropped release own gone => rw [gone] at hrow; cases hrow
  · rcases List.mem_cons.mp he with rfl | he
    · -- the release itself
      dsimp only at hrel hone
      subst hrel
      by_cases own : m.keyspace.owner? key = some token
      · obtain ⟨-, rfl⟩ := hran.release_own own
        exact ⟨older (hm.presented own), by simp [Table.find?_drop]⟩
      · rw [(hran.release_foreign own).1] at hone
        cases hone
    · obtain ⟨hpresented, hrows⟩ := hm.released key token e he hrel hone
      refine ⟨older hpresented, fun row hrow => ?_⟩
      cases hran.touched key with
      | same same => exact hrows row (same ▸ hrow)
      | written ttl write response free own written =>
        obtain rfl := Option.some.inj (written.symm.trans hrow)
        rintro rfl
        cases hnew : r.presents? with
        | some t =>
          have ht : r.presents? = some r.token := by cases r <;> cases hnew; rfl
          have := two_le_presentations hr ht hpresented
          have := once r.token
          omega
        | none =>
          obtain ⟨old, hold, hv⟩ := Keyspace.find?_of_owner? (own hnew)
          exact hrows old hold hv
      | dropped release own gone => rw [gone] at hrow; cases hrow

/-- A request that is carried out is in the mail no more. -/
lemma presentations_deliver (hr : m.pending[i]? = some r) (token : Token) :
    (m.step (.deliver i)).presentations token = m.presentations token := by
  obtain ⟨hi, rfl⟩ := List.getElem?_eq_some_iff.mp hr
  have hmail := (List.getElem_cons_eraseIdx_perm hi).countP_eq (·.presents? = some token)
  simp only [List.countP_cons] at hmail
  simp only [Mailbox.step, hr, presentations, execute, List.countP_cons]
  rw [← hmail]
  omega

lemma presentations_step (m : Mailbox) (move : Move) (token : Token) :
    (m.step move).presentations token ≤
      m.presentations token + if move.presents token then 1 else 0 := by
  cases move with
  | send r =>
    simp [presentations, Mailbox.step, List.countP_append, List.countP_singleton, Move.presents,
      Nat.add_assoc]
  | deliver i =>
    cases hr : m.pending[i]? with
    | some r => exact Nat.le_add_right_of_le (Nat.le_of_eq (presentations_deliver hr token))
    | none => simp [Mailbox.step, hr]
  | lose i =>
    have := (List.eraseIdx_sublist m.pending i).countP_le (p := (·.presents? = some token))
    simp only [presentations, Mailbox.step]
    omega
  | advance millis => exact Nat.le_add_right _ _

lemma Accounts.step (hm : m.Accounts) {move : Move}
    (once : ∀ token, (m.step move).presentations token ≤ 1) : (m.step move).Accounts := by
  cases move with
  | send r => exact ⟨hm.owners, hm.released⟩
  | lose i => exact ⟨hm.owners, hm.released⟩
  | advance millis => exact ⟨hm.owners, hm.released⟩
  | deliver i =>
    cases hr : m.pending[i]? with
    | none => simpa [Mailbox.step, hr] using hm
    | some r =>
      simp only [presentations_deliver hr] at once
      have := hm.execute hr once
      simp only [Mailbox.step, hr]
      exact ⟨this.owners, this.released⟩

lemma Accounts.run (hm : m.Accounts) {moves : List Move}
    (once : ∀ token, m.presentations token + moves.countP (·.presents token) ≤ 1) :
    (m.run moves).Accounts := by
  induction moves generalizing m with
  | nil => exact hm
  | cons move moves ih =>
    have later (token : Token) :
        (m.step move).presentations token + moves.countP (·.presents token) ≤ 1 := by
      have hstep := m.presentations_step move token
      have honce := once token
      rw [List.countP_cons] at honce
      omega
    exact ih (hm.step fun token => by have := later token; omega) later

end Mailbox

/-- **Late requests do no harm.** Requests are carried out once at most, at any time after they
were sent and in any order, or get lost, and no two of them present the same token as a new one.
Then the refresh or release of one owner leaves the rows of all others as they are; from an
acquisition that was granted until the deadline of its owner's last write or until a release, any
other acquisition of the key is refused and changes nothing; and an owner whose release was
granted never has the key again. -/
theorem late_requests_do_no_harm {moves : List Mailbox.Move}
    (once : ∀ token, moves.countP (·.presents token) ≤ 1) :
    let m := Mailbox.start.run moves
    (∀ i r, m.pending[i]? = some r → r.presents? = none → ∀ key row,
      m.keyspace.rows.find? key = some row → row.value ≠ r.token →
      (m.step (.deliver i)).keyspace.rows.find? key = some row) ∧
    (∀ i key owner other ttl ttl' between first earlier,
      m.history = between ++ first :: earlier → first.request = .acquire key owner ttl →
      first.reply = granted → (∀ e ∈ between, e.request ≠ .release key owner) →
      m.pending[i]? = some (.acquire key other ttl') → other ≠ owner →
      (∃ deadline, (between ++ [first]).findSome? (·.deadline? key owner) = some deadline ∧
        deadline ≤ m.keyspace.now) ∨
      ((m.step (.deliver i)).keyspace = m.keyspace ∧ (m.step (.deliver i)).history =
        ⟨m.keyspace.now, .acquire key other ttl', .nil⟩ :: m.history)) ∧
    ∀ key owner e, e ∈ m.history → e.request = .release key owner → e.reply = .int 1 →
      m.keyspace.owner? key ≠ some owner := by
  intro m
  have honours : m.Honours := Mailbox.honours_run moves
  have accounts : m.Accounts := Mailbox.accounts_start.run fun token => by
    simpa [Mailbox.presentations, Mailbox.start] using once token
  refine ⟨fun i r hr hnew key row hrow hne => ?_, ?_, fun key owner e he hrel hone howner => ?_⟩
  · obtain ⟨reply, hran, -⟩ := m.deliver_ran hr
    have foreign : m.keyspace.owner? key ≠ some r.token := by
      intro own
      obtain ⟨row', hrow', hv⟩ := Keyspace.find?_of_owner? own
      obtain rfl := Option.some.inj (hrow'.symm.trans hrow)
      exact hne hv
    cases hran.touched key with
    | same same => rw [same, hrow]
    | written ttl write response free own written => exact absurd (own hnew) foreign
    | dropped release own gone => exact absurd own foreign
  · rintro i key owner other ttl ttl' between first earlier hsplit hacquire hgranted hkept hr hne
    have hfirst : first.deadline? key owner = some (first.time + ttlMillis ttl) :=
      Execution.deadline?_eq_some.mpr
        ⟨ttl, by rw [hacquire]; rfl, by rw [hacquire, hgranted]; rfl, rfl⟩
    obtain ⟨deadline, hd⟩ : ∃ deadline,
        (between ++ [first]).findSome? (·.deadline? key owner) = some deadline := by
      rw [← Option.isSome_iff_exists, List.findSome?_isSome_iff]
      exact ⟨first, by simp, by simp [hfirst]⟩
    have hsince : ∀ e ∈ between ++ [first], e.request ≠ .release key owner := by
      intro e he
      rcases List.mem_append.mp he with he | he
      · exact hkept e he
      · obtain rfl := List.mem_singleton.mp he
        simp [hacquire]
    rcases honours key owner deadline _ earlier (by simp [hsplit]) hsince hd with hrow | hle
    · by_cases hlt : m.keyspace.now < deadline
      · have hran : (Script.program (.acquire key other ttl')).run m.keyspace =
            (.nil, m.keyspace, [.get key]) :=
          Script.acquire_taken (Keyspace.owner?_of_find? hrow hlt) hne.symm
        right
        simp [Mailbox.step, hr, Mailbox.execute, hran]
      · exact .inl ⟨deadline, hd, by omega⟩
    · exact .inl ⟨deadline, hd, hle⟩
  · obtain ⟨row, hrow, hv⟩ := Keyspace.find?_of_owner? howner
    exact (accounts.released key owner e he hrel hone).2 row hrow hv

/-- One owner prolongs its hold and another has let go, with requests of a third in the mail. -/
theorem late_requests_do_no_harm_prolonged :
    let moves : List Mailbox.Move := [.send (.acquire "j" (.named "c") (.ofMillis 10)),
      .send (.acquire "k" (.named "a") (.ofMillis 10)),
      .send (.acquire "k" (.named "b") (.ofMillis 10)), .send (.release "k" (.named "b")),
      .send (.refresh "k" (.named "a") (.ofMillis 20)), .send (.release "j" (.named "c")),
      .deliver 0, .deliver 0, .advance 3, .deliver 3, .deliver 2, .advance 15]
    let m := Mailbox.start.run moves
    (m.pending = [.acquire "k" (.named "b") (.ofMillis 10), .release "k" (.named "b")] ∧
      m.keyspace.rows.find? "k" = some ⟨.named "a", some 23⟩) ∧
    (m.step (.deliver 1)).keyspace.rows.find? "k" = some ⟨.named "a", some 23⟩ ∧
    (m.step (.deliver 0)).keyspace = m.keyspace ∧
    m.keyspace.owner? "j" ≠ some (.named "c") := by
  intro moves m
  have once (token : Token) : moves.countP (·.presents token) ≤ 1 := by
    simp only [moves, List.countP_cons, List.countP_nil, Mailbox.Move.presents,
      Request.presents?, Option.some.injEq, decide_eq_true_eq, reduceCtorEq]
    grind
  obtain ⟨foreign, taken, released⟩ := late_requests_do_no_harm once
  have hrow : m.keyspace.rows.find? "k" = some ⟨.named "a", some 23⟩ := by decide
  let between : List Execution := [⟨3, .refresh "k" (.named "a") (.ofMillis 20), .int 1⟩,
    ⟨3, .release "j" (.named "c"), .int 1⟩]
  have history : m.history = between ++ ⟨0, .acquire "k" (.named "a") (.ofMillis 10), granted⟩ ::
      [⟨0, .acquire "j" (.named "c") (.ofMillis 10), granted⟩] := rfl
  have hmem : ⟨3, .release "j" (.named "c"), .int 1⟩ ∈ m.history := by
    rw [history]
    simp [between]
  refine ⟨⟨by decide, hrow⟩, foreign 1 _ rfl rfl "k" _ hrow (by decide), ?_,
    released "j" _ _ hmem rfl rfl⟩
  rcases taken 0 "k" _ _ _ _ between _ _ history rfl rfl (by simp [between]) rfl (by decide) with
    ⟨deadline, hd, hle⟩ | ⟨hkeys, -⟩
  · -- the deadline of the refresh is still to come
    have hlast : some 23 = some deadline := hd
    have hnow : deadline ≤ 18 := hle
    cases hlast
    omega
  · exact hkeys

end LeaseLock.Redis
