import Mathlib.Tactic.Common
import LeaseLock.Redis.Link

/-!
What the scripts of a lock come to.

`Ran` lists every way in which a script can end, each with what it needs of the current owner
and with the keys it leaves; proofs about servers look at scripts only through `program_ran`.
-/

namespace LeaseLock.Redis

namespace Keyspace

variable {ks : Keyspace} {key k : String} {row : Row} {d : Span}

/-- The owner of a key that is there. -/
def owner? (ks : Keyspace) (key : String) : Option Token := (ks.live? key).map (·.value)

lemma live?_put : (ks.put key row).live? k =
    if k = key then (if row.isLive ks.now then some row else none) else ks.live? k := by
  unfold live? put
  rw [Table.find?_put]
  split
  · simp [Option.filter]
  · rfl

lemma live?_drop : ({ ks with rows := ks.rows.drop key } : Keyspace).live? k =
    if k = key then none else ks.live? k := by
  unfold live?
  rw [Table.find?_drop]
  split <;> rfl

lemma ttlMillis_pos (d : Span) : 0 < ttlMillis d := by
  unfold ttlMillis
  omega

lemma deadline_fits (h : ks.now + ttlMillis d < limit) (command : String) :
    ks.deadline (ttlMillis d) command = .ok (ks.now + ttlMillis d) := by
  have hpos := ttlMillis_pos d
  unfold deadline
  rw [if_neg (by omega), if_neg (by omega)]

lemma deadline_full (h : limit ≤ ks.now + ttlMillis d) (command : String) :
    ∃ refusal, ks.deadline (ttlMillis d) command = .error refusal := by
  unfold deadline
  split
  · exact ⟨_, rfl⟩
  · exact ⟨_, if_pos (Or.inr h)⟩

end Keyspace

namespace Script

variable {ks : Keyspace}

/-- Every way in which the script for a request can end, and the keys that are left. -/
inductive Ran (ks : Keyspace) : Request → Reply → Keyspace → Prop
  | set {key : String} {token : Token} {ttl : Span} (absent : ks.owner? key = none)
      (fits : ks.now + ttlMillis ttl < Keyspace.limit) :
      Ran ks (.acquire key token ttl) granted (ks.put key ⟨token, some (ks.now + ttlMillis ttl)⟩)
  | prolonged {key : String} {token : Token} {ttl : Span} (own : ks.owner? key = some token)
      (fits : ks.now + ttlMillis ttl < Keyspace.limit) :
      Ran ks (.acquire key token ttl) granted (ks.put key ⟨token, some (ks.now + ttlMillis ttl)⟩)
  | taken {key : String} {token owner : Token} {ttl : Span} (held : ks.owner? key = some owner)
      (other : owner ≠ token) : Ran ks (.acquire key token ttl) .nil ks
  | refreshed {key : String} {token : Token} {ttl : Span} (own : ks.owner? key = some token)
      (fits : ks.now + ttlMillis ttl < Keyspace.limit) :
      Ran ks (.refresh key token ttl) (.int 1) (ks.put key ⟨token, some (ks.now + ttlMillis ttl)⟩)
  | released {key : String} {token : Token} (own : ks.owner? key = some token) :
      Ran ks (.release key token) (.int 1) { ks with rows := ks.rows.drop key }
  | stale {key : String} {token : Token} {ttl : Span} (other : ks.owner? key ≠ some token) :
      Ran ks (.refresh key token ttl) (.int 0) ks
  | foreign {key : String} {token : Token} (other : ks.owner? key ≠ some token) :
      Ran ks (.release key token) (.int 0) ks
  /-- The command that would write is refused, since the server's clock ends before. -/
  | refused {r : Request} {ttl : Span} (refusal : Refusal) (writes : r.ttl? = some ttl)
      (full : Keyspace.limit ≤ ks.now + ttlMillis ttl) : Ran ks r refusal.reply ks

lemma acquire_ran (ks : Keyspace) (key : String) (token : Token) (ttl : Span) :
    Ran ks (.acquire key token ttl) ((acquireProgram key token (ttlMillis ttl)).run ks).1
      ((acquireProgram key token (ttlMillis ttl)).run ks).2.1 := by
  rcases hlive : ks.live? key with _ | row
  · have habsent : ks.owner? key = none := by simp [Keyspace.owner?, hlive]
    rcases Nat.lt_or_ge (ks.now + ttlMillis ttl) Keyspace.limit with h | h
    · simp only [acquireProgram, Program.run, Keyspace.run, hlive, Option.elim,
        Keyspace.deadline_fits h]
      exact .set habsent h
    · obtain ⟨refusal, hr⟩ := Keyspace.deadline_full h "set"
      simp only [acquireProgram, Program.run, Keyspace.run, hlive, Option.elim, hr]
      exact .refused refusal rfl h
  · have hheld : ks.owner? key = some row.value := by simp [Keyspace.owner?, hlive]
    by_cases hv : row.value = token
    · subst hv
      rcases Nat.lt_or_ge (ks.now + ttlMillis ttl) Keyspace.limit with h | h
      · simp only [acquireProgram, Program.run, Keyspace.run, hlive, Option.elim,
          Keyspace.deadline_fits h, if_true]
        exact .prolonged hheld h
      · obtain ⟨refusal, hr⟩ := Keyspace.deadline_full h "pexpire"
        simp only [acquireProgram, Program.run, Keyspace.run, hlive, Option.elim, hr, if_true]
        exact .refused refusal rfl h
    · simp only [acquireProgram, Program.run, Keyspace.run, hlive, Option.elim, if_neg hv]
      exact .taken hheld hv

/-- The script of an owner does nothing for anybody else. -/
lemma ownerProgram_foreign {key : String} {token : Token} (h : ks.owner? key ≠ some token)
    (command : Command) :
    (ownerProgram key token command).run ks = (.int 0, ks, [.get key]) := by
  rcases hlive : ks.live? key with _ | row
  · simp [ownerProgram, Program.run, Keyspace.run, hlive]
  · have hv : row.value ≠ token := by simpa [Keyspace.owner?, hlive] using h
    simp [ownerProgram, Program.run, Keyspace.run, hlive, hv]

lemma refresh_ran (ks : Keyspace) (key : String) (token : Token) (ttl : Span) :
    Ran ks (.refresh key token ttl)
      ((ownerProgram key token (.pexpire key (ttlMillis ttl))).run ks).1
      ((ownerProgram key token (.pexpire key (ttlMillis ttl))).run ks).2.1 := by
  by_cases how : ks.owner? key = some token
  · obtain ⟨row, hlive, rfl⟩ := Option.map_eq_some_iff.mp how
    rcases Nat.lt_or_ge (ks.now + ttlMillis ttl) Keyspace.limit with h | h
    · simp only [ownerProgram, Program.run, Keyspace.run, hlive, Option.elim,
        Keyspace.deadline_fits h, if_true]
      exact .refreshed how h
    · obtain ⟨refusal, hr⟩ := Keyspace.deadline_full h "pexpire"
      simp only [ownerProgram, Program.run, Keyspace.run, hlive, Option.elim, hr, if_true]
      exact .refused refusal rfl h
  · rw [ownerProgram_foreign how]
    exact .stale how

lemma release_ran (ks : Keyspace) (key : String) (token : Token) :
    Ran ks (.release key token) ((ownerProgram key token (.del key)).run ks).1
      ((ownerProgram key token (.del key)).run ks).2.1 := by
  by_cases how : ks.owner? key = some token
  · obtain ⟨row, hlive, rfl⟩ := Option.map_eq_some_iff.mp how
    simp only [ownerProgram, Program.run, Keyspace.run, hlive, Option.elim, if_true]
    exact .released how
  · rw [ownerProgram_foreign how]
    exact .foreign how

/-- **Every script ends in one of the ways of `Ran`.** -/
theorem program_ran (ks : Keyspace) (r : Request) :
    Ran ks r ((program r).run ks).1 ((program r).run ks).2.1 := by
  cases r with
  | acquire key token ttl => exact acquire_ran ks key token ttl
  | refresh key token ttl => exact refresh_ran ks key token ttl
  | release key token => exact release_ran ks key token

lemma Ran.now_eq {r : Request} {reply : Reply} {ks' : Keyspace} (h : Ran ks r reply ks') :
    ks'.now = ks.now := by
  cases h <;> rfl

/-- No script says that it is not known. -/
lemma Ran.fault_ne {r : Request} {reply : Reply} {ks' : Keyspace} (h : Ran ks r reply ks') :
    reply.fault?.map (·.1) ≠ some Reply.unknownScriptCode := by
  cases h with
  | refused refusal => cases refusal <;> simp [Refusal.reply, Reply.fault?, Reply.unknownScriptCode]
  | _ => simp [granted, Reply.fault?]

/-! ### The same by owner, while the server's clock goes on -/

section

variable {key : String} {token : Token} {ttl : Span} {reply : Reply} {ks' : Keyspace}

lemma Ran.acquire_free (h : Ran ks (.acquire key token ttl) reply ks')
    (free : ∀ owner, ks.owner? key = some owner → owner = token)
    (fits : ks.now + ttlMillis ttl < Keyspace.limit) :
    reply = granted ∧ ks' = ks.put key ⟨token, some (ks.now + ttlMillis ttl)⟩ := by
  cases h with
  | set | prolonged => exact ⟨rfl, rfl⟩
  | taken held other => exact absurd (free _ held) other
  | refused refusal writes full =>
    obtain rfl := Option.some.inj writes
    omega

lemma Ran.acquire_taken (h : Ran ks (.acquire key token ttl) reply ks') {owner : Token}
    (held : ks.owner? key = some owner) (other : owner ≠ token)
    (fits : ks.now + ttlMillis ttl < Keyspace.limit) : reply = .nil ∧ ks' = ks := by
  cases h with
  | set absent => exact absurd held (by simp [absent])
  | prolonged own => exact absurd (Option.some.inj (held.symm.trans own)) other
  | taken => exact ⟨rfl, rfl⟩
  | refused refusal writes full =>
    obtain rfl := Option.some.inj writes
    omega

lemma Ran.refresh_own (h : Ran ks (.refresh key token ttl) reply ks')
    (own : ks.owner? key = some token) (fits : ks.now + ttlMillis ttl < Keyspace.limit) :
    reply = .int 1 ∧ ks' = ks.put key ⟨token, some (ks.now + ttlMillis ttl)⟩ := by
  cases h with
  | refreshed => exact ⟨rfl, rfl⟩
  | stale other => exact absurd own other
  | refused refusal writes full =>
    obtain rfl := Option.some.inj writes
    omega

lemma Ran.refresh_stale (h : Ran ks (.refresh key token ttl) reply ks')
    (other : ks.owner? key ≠ some token) (fits : ks.now + ttlMillis ttl < Keyspace.limit) :
    reply = .int 0 ∧ ks' = ks := by
  cases h with
  | refreshed own => exact absurd own other
  | stale => exact ⟨rfl, rfl⟩
  | refused refusal writes full =>
    obtain rfl := Option.some.inj writes
    omega

lemma Ran.release_own (h : Ran ks (.release key token) reply ks')
    (own : ks.owner? key = some token) :
    reply = .int 1 ∧ ks' = { ks with rows := ks.rows.drop key } := by
  cases h with
  | released => exact ⟨rfl, rfl⟩
  | foreign other => exact absurd own other
  | refused refusal writes => exact absurd writes (by simp [Request.ttl?])

lemma Ran.release_foreign (h : Ran ks (.release key token) reply ks')
    (other : ks.owner? key ≠ some token) : reply = .int 0 ∧ ks' = ks := by
  cases h with
  | released own => exact absurd own other
  | foreign => exact ⟨rfl, rfl⟩
  | refused refusal writes => exact absurd writes (by simp [Request.ttl?])

end

end Script

namespace Server

variable {s : Server} {r : Request}

lemma receive_plain (hs : s.plans = []) (m : Message) :
    s.receive m = (some ({ s with wire := s.wire ++ [m.words s.loaded.contains] }.carryOut m).1,
      ({ s with wire := s.wire ++ [m.words s.loaded.contains] }.carryOut m).2) := by
  simp [receive, takePlan, hs]

/-- A server that carries everything out runs the script for a request, whether or not it knew
the script before. -/
theorem evaluate_plain (hs : s.plans = []) (r : Request) :
    (s.evaluate r).1 = some ((Script.program r).run s.keyspace).1 ∧
      (s.evaluate r).2.keyspace = ((Script.program r).run s.keyspace).2.1 ∧
      (s.evaluate r).2.plans = [] := by
  have hfault := (Script.program_ran s.keyspace r).fault_ne
  unfold evaluate
  rw [receive_plain hs]
  by_cases hknown : s.loaded.contains (Script.of r)
  · simp only [carryOut, hknown, if_true, if_neg hfault]
    exact ⟨trivial, trivial, hs⟩
  · simp only [carryOut, hknown, Bool.false_eq_true, if_false]
    rw [receive_plain (by exact hs)]
    simp only [Reply.unknownScript, Reply.fault?, Option.map, if_true, carryOut, Option.isSome,
      Bool.false_eq_true, if_false]
    rw [receive_plain (by exact hs)]
    simp [carryOut, hs]

end Server
end LeaseLock.Redis
