import Mathlib.Tactic.Common
import LeaseLock.Proofs.World.Exclusion
import LeaseLock.Proofs.World.Fading
import LeaseLock.Proofs.World.Provenance

/-!
Orphans die on time.

An attempt can be served and still come to nothing, as when its confirmation is lost: then its key
is held under a token of which nobody has a lease. Such an orphan is not written again and not
given up, since whoever refreshes or releases does so with a lease. It ends when its ttl is over,
and with it the hold on the key.
-/

namespace LeaseLock

/-- The lease that a call is given to begin with. -/
def Process.lease? : Process → Option Lease
  | .errand e =>
    match e.kind with
    | .attempt .. => none
    | .refresh l | .unlock l => some l
  | .renewal x => some x.lease
  | .acquisition _ | .caller _ | .refused _ => none

/-- Whether by the event the store grants something in the name of a token. -/
def Event.favours (token : Token) (e : Event) : Bool := e.granted?.any (·.2.token = token)

/-- What the store has granted in the name of a token. -/
def grantsTo (token : Token) (history : List Event) : List Event :=
  history.filter (·.favours token)

lemma grantsTo_of_not_favours {token : Token} {e : Event} (h : e.favours token = false)
    (history : List Event) : grantsTo token (e :: history) = grantsTo token history :=
  List.filter_cons_of_neg (by simpa using h)

/-- If nobody but `token` holds a key, then somebody else gets it only by an acquire, and only if
`token` does not hold it any more. -/
lemma Memory.Served.usurped {m m' : Memory} {now : Nat} {r : Request} {yes : Bool} {key : String}
    {token : Token} {x : Entry} (serve : m.Served now r (some yes) m')
    (hlive : ∀ y, m.live? now key = some y → y.token = token)
    (hx : m'.live? now key = some x) (hne : x.token ≠ token) :
    m.holder now key ≠ some token ∧ yes = true ∧ ∃ ttl, r = .acquire key x.token ttl := by
  have old (h : m.live? now key = some x) : False := hne (hlive x h)
  cases serve with
  | @acquired k owner ttl free fits =>
    rw [Memory.live?_put] at hx
    split at hx
    · next hk =>
      subst hk
      split at hx
      · cases hx
        exact ⟨fun hh => hne (free token hh).symm, rfl, ttl, rfl⟩
      · cases hx
    · exact (old hx).elim
  | @refreshed k owner ttl own fits =>
    rw [Memory.live?_put] at hx
    split at hx
    · next hk =>
      subst hk
      obtain ⟨y, hy, ho⟩ := Memory.holder_eq_some.mp own
      split at hx
      · cases hx
        exact absurd (ho.symm.trans (hlive y hy)) hne
      · cases hx
    · exact (old hx).elim
  | released | swept =>
    rw [Memory.live?_expire] at hx
    split at hx
    · cases hx
    · exact (old hx).elim
  | taken | stale | foreign => exact (old hx).elim

/-- The store refuses a key that another owner holds, and changes nothing. -/
lemma Memory.serve_of_held {m : Memory} {now : Nat} {key : String} {x : Entry}
    (h : m.live? now key = some x) {owner : Token} (hne : x.token ≠ owner) (ttl : Span) :
    m.serve now (.acquire key owner ttl) = (some false, m) := by
  simp [Memory.serve, h, hne]

/-- The store grants a key that nobody holds, if the clock can name the deadline. -/
lemma Memory.serve_of_free {m : Memory} {now : Nat} {key : String} (h : m.live? now key = none)
    (owner : Token) {ttl : Span} (fits : now + ttl.nanos < Instant.limit) :
    (m.serve now (.acquire key owner ttl)).1 = some true := by
  simp [Memory.serve, h, Memory.write, Instant.after?, fits]

namespace Event

variable {token : Token} {e : Event} {key : String}

/-- What grants nothing in the name of a token sets it no deadline. -/
lemma deadline?_of_not_favours (h : e.favours token = false) : e.deadline? key token = none := by
  cases hg : e.granted? with
  | none => simp [deadline?, hg]
  | some x =>
    obtain ⟨s, r⟩ := x
    have hr : r.token ≠ token := by simpa [favours, hg] using h
    cases r with
    | acquire k owner ttl | refresh k owner ttl =>
      have ho : owner ≠ token := hr
      simp [deadline?, hg, Request.write?, ho]
    | release k owner => simp [deadline?, hg, Request.write?]

/-- What grants nothing in the name of a token and does not drop the key ends no hold on it. -/
lemma frees_of_not_favours (h : e.favours token = false) (hdrops : e.drops key = false) :
    e.frees key token = false := by
  cases hg : e.granted? with
  | none => simp [frees, hdrops, hg]
  | some x =>
    obtain ⟨s, r⟩ := x
    have hr : r.token ≠ token := by simpa [favours, hg] using h
    have hrelease : r ≠ .release key token := fun heq => hr (by rw [heq]; rfl)
    simp [frees, hdrops, hg, hrelease]

end Event

namespace World

variable {v w : World} {i j : Nat} {t : Task} {a : Act} {p : Process} {token : Token}
  {r : Request} {e : Event} {key : String} {time : Nat} {ttl : Span}

/-! ### Calls for leases -/

/-- Whether an act begins a call for a lease only if somebody has the lease. -/
def Act.Genuine (w : World) : Act → Prop
  | .spawn p => ∀ l, p.lease? = some l → w.HandedOut l
  | _ => True

/-- Whether a run begins calls for leases only when somebody has them. -/
def Genuine (w : World) : List Act → Prop
  | [] => True
  | a :: acts => a.Genuine w ∧ (w.act a).Genuine acts

lemma genuine_append {first rest : List Act} :
    w.Genuine (first ++ rest) ↔ w.Genuine first ∧ (w.run first).Genuine rest := by
  induction first generalizing w with
  | nil => simp [Genuine]
  | cons a first ih => simp only [List.cons_append, Genuine, run_cons, ih, and_assoc]

/-- Every call for a lease is for one that was handed out. -/
def Entrusted (w : World) : Prop :=
  ∀ (j : Nat) (t : Task) (l : Lease), w.tasks[j]? = some t → t.process.lease? = some l →
    w.HandedOut l

lemma HandedOut.run {l : Lease} (h : w.HandedOut l) (acts : List Act) :
    (w.run acts).HandedOut l := by
  obtain ⟨time, i, hm⟩ := h
  exact ⟨time, i, w.mem_history_run acts hm⟩

lemma Follows.lease? (h : w.Follows t p) : p.lease? = t.process.lease? := by
  cases h with
  | same => rfl
  | next turn p turns next =>
    cases Task.took_of_turn? turns with
    | errand x turn process took =>
      rw [process]
      cases took <;> cases next <;> rfl
    | acquisition x turn process took =>
      rw [process]
      cases took <;> cases next <;> rfl
    | renewal x turn process took =>
      rw [process]
      cases took <;> cases next <;> rfl
  | joined c work number process | entered c work number process
  | launched c work number process =>
    rw [process]
    rfl

lemma Entrusted.act (hw : w.Entrusted) (ha : a.Genuine w) : (w.act a).Entrusted := by
  intro j t' l ht' hl
  have later (h : w.HandedOut l) : (w.act a).HandedOut l := h.run [a]
  rcases w.task_cases a ht' with ⟨t, ht, hfollows⟩ | rfl | ⟨b, hb⟩
  · exact later (hw j t l ht (hfollows.lease? ▸ hl))
  · exact later (ha l hl)
  · rw [hb] at hl
    cases hl

/-- If nobody has a lease with a token, then whoever comes with the token comes with it as new. -/
lemma Entrusted.presents (hw : w.Entrusted) (ht : w.tasks[j]? = some t) (hr : t.process.Puts r)
    (hnone : ∀ l, w.HandedOut l → l.token ≠ r.token) : r.presents? = some r.token := by
  have hlease (l : Lease) (hl : t.process.lease? = some l) : l.token ≠ r.token :=
    hnone l (hw j t l ht hl)
  cases hp : t.process with
  | errand x =>
    rw [hp] at hr hlease
    obtain ⟨new, rfl⟩ := hr
    simp only [Process.lease?] at hlease
    cases hk : x.kind with
    | attempt key ttl => rfl
    | refresh l | unlock l =>
      rw [hk] at hlease
      exact absurd rfl (hlease l rfl)
  | acquisition x =>
    rw [hp] at hr
    obtain ⟨new, rfl⟩ := hr
    rfl
  | renewal x =>
    rw [hp] at hr hlease
    obtain rfl := hr
    exact absurd rfl (hlease x.lease rfl)
  | caller | refused =>
    rw [hp] at hr
    exact hr.elim

/-! ### One write -/

/-- All that the store has ever granted in the name of a token is at most one acquire of task `i`,
and what it has in its table under the token it has from that. -/
structure Lone (w : World) (i : Nat) (key : String) (token : Token) (ttl : Span) : Prop where
  once : grantsTo token w.history = [] ∨ ∃ time,
    grantsTo token w.history = [.served time i (.acquire key token ttl) true]
  entry : ∀ k entry, w.memory.entries.find? k = some entry → entry.token = token → k = key ∧
    ∃ time, grantsTo token w.history = [.served time i (.acquire key token ttl) true] ∧
      entry.expires = time + ttl.nanos

/-- What is needed for nobody to come to the store with a token but task `i`, by one acquire. -/
structure Barren (w : World) (i : Nat) (key : String) (token : Token) (ttl : Span) : Prop where
  minted : ∃ n, token = .minted n
  asker : ∀ time j r, .asked time j r ∈ w.history → r.presents? = some token →
    j = i ∧ r = .acquire key token ttl
  unleased : ∀ l, w.HandedOut l → l.token ≠ token

lemma Barren.earlier {acts : List Act} (h : (w.run acts).Barren i key token ttl) :
    w.Barren i key token ttl where
  minted := h.minted
  asker time j r hm := h.asker time j r (w.mem_history_run acts hm)
  unleased l hl := h.unleased l (hl.run acts)

namespace Lone

/-- An event that grants nothing in the name of the token, and no new entry under it. -/
lemma other (h : v.Lone i key token ttl) (hhistory : w.history = e :: v.history)
    (he : e.favours token = false)
    (hm : ∀ k entry, w.memory.entries.find? k = some entry → entry.token = token →
      v.memory.entries.find? k = some entry) : w.Lone i key token ttl := by
  have hgrants : grantsTo token w.history = grantsTo token v.history := by
    rw [hhistory, grantsTo_of_not_favours he]
  refine ⟨hgrants ▸ h.once, fun k entry hf ht => ?_⟩
  rw [hgrants]
  exact h.entry k entry (hm k entry hf ht) ht

/-- The store serves somebody else. -/
lemma foreign (h : v.Lone i key token ttl) (hhistory : w.history = e :: v.history) {yes : Bool}
    {now : Nat} (serve : v.memory.Served now r (some yes) w.memory) (hr : r.token ≠ token)
    (he : e.granted? = if yes then some (now, r) else none) : w.Lone i key token ttl := by
  refine h.other hhistory ?_ fun k entry hf ht => ?_
  · rw [Event.favours, he]
    cases yes <;> simp [hr]
  · refine (serve.written hf).resolve_right fun ⟨ttl, hwrite, _⟩ => hr ?_
    cases r <;> cases hwrite <;> exact ht

/-- The store serves the one acquire, and has granted nothing in the name of its token before. -/
lemma first (h : v.Lone i key token ttl) (hnil : grantsTo token v.history = []) {yes : Bool}
    {now : Nat} (hhistory : w.history = .served now i (.acquire key token ttl) yes :: v.history)
    (serve : v.memory.Served now (.acquire key token ttl) (some yes) w.memory) :
    w.Lone i key token ttl := by
  have hbare {k : String} {entry : Entry} (hf : v.memory.entries.find? k = some entry) :
      entry.token ≠ token := by
    intro ht
    obtain ⟨-, time, hone, -⟩ := h.entry k entry hf ht
    rw [hnil] at hone
    cases hone
  generalize hm : w.memory = m at serve
  cases serve with
  | acquired free fits =>
    have hone : grantsTo token w.history = [.served now i (.acquire key token ttl) true] := by
      rw [hhistory, grantsTo, List.filter_cons_of_pos (by simp [Event.favours, Event.granted?,
        Request.token]), ← grantsTo, hnil]
    refine ⟨.inr ⟨now, hone⟩, fun k entry hf ht => ?_⟩
    rw [hm, Table.find?_put] at hf
    split at hf
    · next hk =>
      cases hf
      exact ⟨hk, now, hone, rfl⟩
    · exact absurd ht (hbare hf)
  | taken held different => exact h.other hhistory rfl fun k entry hf _ => hm ▸ hf

/-- **Nothing that happens gives an orphan a second write.** -/
theorem act (h : w.Lone i key token ttl) (hregular : w.Regular) (hw : w.Attempting)
    (hentrusted : w.Entrusted) (hbarren : w.Barren i key token ttl) (ha : a.Lawful) :
    (w.act a).Lone i key token ttl := by
  cases w.act_effect a with
  | still memory history => exact ⟨history ▸ h.once, by rw [memory, history]; exact h.entry⟩
  | noted e quiet memory history =>
    exact h.other history (by simp [Event.favours, quiet.granted?]) fun _ _ hf _ => memory ▸ hf
  | asked j t p r act task turn memory history =>
    exact h.other history rfl fun _ _ hf _ => memory ▸ hf
  | expired dropped memory history =>
    refine h.other history rfl fun k entry hf _ => ?_
    rw [memory, Memory.find?_expire] at hf
    split at hf
    · cases hf
    · exact hf
  | intruded r yes act serve history =>
    subst act
    obtain ⟨n, hn⟩ := hbarren.minted
    exact h.foreign history serve (fun hr => ha n (hr.trans hn)) (by cases yes <;> rfl)
  | served j t u yes act task underway stage serve history =>
    by_cases hu : u.request.token = token
    · have hpresents : u.request.presents? = some token := by
        rw [← hu]
        exact hentrusted.presents task ((hregular.sound.tasks j t task).awaits u underway).puts
          fun l hl => hu ▸ hbarren.unleased l hl
      obtain ⟨time, hm, -⟩ := hw.asked j t u task underway
      obtain ⟨rfl, hrequest⟩ := hbarren.asker time j u.request hm hpresents
      -- a token is presented to the store once
      have huntried := hregular.orderly.untried j token
        ⟨u.request, hregular.sound.latest?_of_arrived task underway stage, hpresents⟩
      refine h.first (h.once.resolve_right ?_) (hrequest ▸ history) (hrequest ▸ serve)
      rintro ⟨time', hone⟩
      have hm' : .served time' j (.acquire key token ttl) true ∈ grantsTo token w.history := by
        rw [hone]
        exact List.mem_singleton_self _
      exact huntried ⟨time', j, _, true, (List.mem_filter.mp hm').1, rfl⟩
    · exact h.foreign history serve hu (by cases yes <;> rfl)

end Lone

lemma lone_start (plans : Plans) : (start plans).Lone i key token ttl where
  once := .inl rfl
  entry k entry hf := by cases hf

/-- What a run needs for an orphan to have been written once. -/
structure Steady (w : World) (i : Nat) (key : String) (token : Token) (ttl : Span) : Prop where
  regular : w.Regular
  attempting : w.Attempting
  entrusted : w.Entrusted
  lone : w.Lone i key token ttl
  honours : w.Honours

lemma Steady.act (h : w.Steady i key token ttl) (hbarren : w.Barren i key token ttl)
    (ha : a.Lawful) (hgenuine : a.Genuine w) : (w.act a).Steady i key token ttl where
  regular := h.regular.act ha
  attempting := h.attempting.act a
  entrusted := h.entrusted.act hgenuine
  lone := h.lone.act h.regular h.attempting h.entrusted hbarren ha
  honours := h.honours.act a

lemma Steady.run (h : w.Steady i key token ttl) {acts : List Act} (ha : ∀ a ∈ acts, a.Lawful)
    (hgenuine : w.Genuine acts) (hbarren : (w.run acts).Barren i key token ttl) :
    (w.run acts).Steady i key token ttl := by
  induction acts generalizing w with
  | nil => exact h
  | cons a acts ih =>
    have hfirst : w.Barren i key token ttl := hbarren.earlier
    exact ih (h.act hfirst (ha a List.mem_cons_self) hgenuine.1)
      (fun b hb => ha b (List.mem_cons_of_mem a hb)) hgenuine.2 hbarren

/-! ### From the write to the end -/

/-- Whether the history has the write of an orphan, and since then nobody has dropped the key. -/
structure Written (w : World) (i : Nat) (key : String) (token : Token) (ttl : Span) (time : Nat)
    (later earlier : List Event) : Prop where
  history : w.history = later ++ .served time i (.acquire key token ttl) true :: earlier
  kept : ∀ s, .expired s key ∉ later

namespace Written

variable {later earlier : List Event}

/-- Since the write of an orphan nothing was granted in its name. -/
lemma since (hw : w.Written i key token ttl time later earlier) (h : w.Lone i key token ttl) :
    ∀ e ∈ later, e.favours token = false := by
  have hgrants : grantsTo token w.history = grantsTo token later ++
      .served time i (.acquire key token ttl) true :: grantsTo token earlier := by
    rw [hw.history, grantsTo, List.filter_append, List.filter_cons_of_pos (by
      simp [Event.favours, Event.granted?, Request.token])]
    rfl
  have hnil : grantsTo token later = [] := by
    rcases h.once with hone | ⟨time', hone⟩
    · rw [hgrants] at hone
      simp at hone
    · rw [hgrants] at hone
      have hlen := congrArg List.length hone
      simp only [List.length_append, List.length_cons, List.length_nil] at hlen
      exact List.eq_nil_of_length_eq_zero (by omega)
  exact fun e he => by simpa using List.filter_eq_nil_iff.mp hnil e he

/-- Until its ttl is over, the orphan stays in the table as it was written. -/
lemma held (hw : w.Written i key token ttl time later earlier) (h : w.Steady i key token ttl)
    (hlt : w.now < time + ttl.nanos) :
    w.memory.entries.find? key = some ⟨token, time + ttl.nanos⟩ := by
  have hdeadline : (Event.served time i (.acquire key token ttl) true).deadline? key token =
      some (time + ttl.nanos) := by
    simp [Event.deadline?, Event.granted?, Request.write?]
  have hnone : ∀ e ∈ later, e.deadline? key token = none := fun e he =>
    Event.deadline?_of_not_favours (hw.since h.lone e he)
  have hfrees : ∀ e ∈ later, e.frees key token = false := by
    refine fun e he => Event.frees_of_not_favours (hw.since h.lone e he) ?_
    cases e with
    | expired s k =>
      have hk : k ≠ key := by
        rintro rfl
        exact hw.kept s he
      simp [Event.drops, hk]
    | _ => rfl
  have hstanding : standing key token w.history = some (time + ttl.nanos) := by
    rw [hw.history, standing_append earlier (by rw [hdeadline]; rfl) hfrees,
      List.findSome?_append, List.findSome?_eq_none_iff.mpr hnone]
    simp [hdeadline]
  exact (h.honours key token _ hstanding).resolve_right (by omega)

end Written

/-- Whether nobody but `token` holds a key. -/
def Reserved (w : World) (key : String) (token : Token) : Prop :=
  ∀ x, w.memory.live? w.now key = some x → x.token = token

/-- The key of an orphan goes to somebody else only by an acquire, and only after its ttl. -/
lemma Written.usurped {later earlier : List Event}
    (hw : w.Written i key token ttl time later earlier) (h : w.Steady i key token ttl)
    (hreserved : w.Reserved key token) (hlost : ¬ (w.act a).Reserved key token) :
    ∃ e owner d, (w.act a).history = e :: w.history ∧
      e.granted? = some (w.now, .acquire key owner d) ∧ time + ttl.nanos ≤ w.now := by
  obtain ⟨x, hx⟩ := not_forall.mp hlost
  obtain ⟨hx, hne⟩ := Classical.not_imp.mp hx
  have old (hnow : w.now ≤ (w.act a).now) (hm : (w.act a).memory = w.memory) : False := by
    rw [hm] at hx
    obtain ⟨hf, hlt⟩ := Memory.live?_eq_some.mp hx
    exact hne (hreserved x (Memory.live?_eq_some.mpr ⟨hf, by omega⟩))
  have tooLate (h' : w.memory.holder w.now key ≠ some token) : time + ttl.nanos ≤ w.now := by
    by_contra hlt
    have hheld := hw.held h (by omega)
    exact h' (Memory.holder_of_live (Memory.live?_eq_some.mpr ⟨hheld, by simp; omega⟩))
  cases w.act_effect a with
  | still memory history now => exact (old now memory).elim
  | noted e quiet memory history now => exact (old (Nat.le_of_eq now.symm) memory).elim
  | asked j t p r act task turn memory history now =>
    exact (old (Nat.le_of_eq now.symm) memory).elim
  | expired k memory history now =>
    rw [memory, now, Memory.live?_expire] at hx
    split at hx
    · cases hx
    · exact absurd (hreserved x hx) hne
  | served j t u yes act task underway stage serve history now =>
    rw [now] at hx
    obtain ⟨hholder, rfl, d, hr⟩ := serve.usurped hreserved hx hne
    exact ⟨_, x.token, d, history, by rw [hr]; rfl, tooLate hholder⟩
  | intruded r yes act serve history now =>
    rw [now] at hx
    obtain ⟨hholder, rfl, d, hr⟩ := serve.usurped hreserved hx hne
    exact ⟨_, x.token, d, history, by rw [hr]; rfl, tooLate hholder⟩

/-- As long as no acquire of its key is granted after its ttl, nobody but the orphan holds it. -/
lemma Written.reserved {plans : Plans} {before : List Act} {later earlier : List Event}
    (hw : ((start plans).run before).Written i key token ttl time later earlier)
    (hsteady : ∀ first rest, before = first ++ rest →
      ((start plans).run first).Steady i key token ttl)
    (hnew : ∀ e ∈ later, ∀ s owner d, e.granted? = some (s, .acquire key owner d) →
      s < time + ttl.nanos) : ((start plans).run before).Reserved key token := by
  obtain ⟨first, b, rest, rfl, hold, hact⟩ := exists_act hw.history (Nat.zero_le _)
  have hwritten : (((start plans).run first).act b).Reserved key token := by
    obtain ⟨-, hserve⟩ := served_of_granted (hold ▸ hact) rfl
    intro x hx
    generalize (((start plans).run first).act b).memory = m at hserve hx
    cases hserve with
    | acquired free fits =>
      rw [Memory.live?_put, if_pos rfl] at hx
      split at hx <;> cases hx
      rfl
  by_contra hlost
  rw [run_append, run_cons] at hlost
  obtain ⟨mid, c, last, rfl, hkept, hlost⟩ := exists_turning
    (P := fun v => ¬ v.Reserved key token) (fun h => h hwritten) hlost
  -- the key is lost by the act `c`, by an acquire of which the history tells
  obtain ⟨l, hl⟩ := (((start plans).run first).act b).run_history mid
  let u := (((start plans).run first).act b).run mid
  have hu : u = (start plans).run (first ++ b :: mid) := by rw [run_append, run_cons]
  have hfinal : (start plans).run (first ++ b :: (mid ++ c :: last)) = (u.act c).run last := by
    simp only [run_append, run_cons, u]
  have hlater (news : List Event) (h : ((u.act c).run last).history = news ++ u.history) :
      later = news ++ l := by
    rw [← hfinal, hw.history, hl, hact, ← List.append_assoc] at h
    exact List.append_cancel_right h
  obtain ⟨news, hnews⟩ := (u.act c).run_history last
  obtain ⟨more, hmore⟩ := u.run_history (c :: last)
  have hu' : u.Written i key token ttl time l earlier := by
    refine ⟨by rw [hl, hact], fun s hs => hw.kept s ?_⟩
    rw [hlater more hmore]
    exact List.mem_append_right more hs
  obtain ⟨e, owner, d, he, hg, hle⟩ := hu'.usurped
    (hu ▸ hsteady (first ++ b :: mid) (c :: last) (by simp)) (not_not.mp hkept) hlost
  have hm : e ∈ later := by
    rw [hlater (news ++ [e]) (by rw [hnews, he, List.append_assoc, List.singleton_append])]
    simp
  exact absurd (hnew e hm u.now owner d hg) (by omega)

/-- **Orphans die on time.** Take any run in which only the store answers, only tasks present minted
tokens, and calls for leases are begun with leases that somebody has; a task that has ended without
a lease, for whatever reason; and an acquire that it put to the store, which is one with the key and
the ttl of its call. At every moment of the run, what the store has in its table under the token of
this acquire was written by it and by nothing else, and lasts for its ttl from then. Unless somebody
has dropped the key since the write, until that instant the store refuses the key to every other
owner; and from that instant on the first acquire is granted whose own deadline the clock can
name. -/
theorem orphans_die_on_time {plans : Plans} (hplans : plans.Honest) {acts : List Act}
    (hacts : ∀ a ∈ acts, a.Lawful) (hgenuine : (start plans).Genuine acts)
    (ht : ((start plans).run acts).tasks[i]? = some t) {ending : Ending}
    (hend : t.ending = some ending) (hnone : ∀ lease, ending ≠ .leased lease) {asked : Nat}
    (hasked : .asked asked i (.acquire key token ttl) ∈ ((start plans).run acts).history) :
    t.process.Puts (.acquire key token ttl) ∧
    ∀ before after, acts = before ++ after →
      let w := (start plans).run before
      (∀ k entry, w.memory.entries.find? k = some entry → entry.token = token → k = key ∧
        ∃ time, grantsTo token w.history = [.served time i (.acquire key token ttl) true] ∧
          entry.expires = time + ttl.nanos) ∧
      ∀ later earlier time,
        w.history = later ++ .served time i (.acquire key token ttl) true :: earlier →
        (∀ s, .expired s key ∉ later) →
        (w.now < time + ttl.nanos →
          w.memory.entries.find? key = some ⟨token, time + ttl.nanos⟩ ∧
          ∀ owner d, owner ≠ token →
            w.memory.serve w.now (.acquire key owner d) = (some false, w.memory)) ∧
        (time + ttl.nanos ≤ w.now →
          (∀ e ∈ later, ∀ s owner d, e.granted? = some (s, .acquire key owner d) →
            s < time + ttl.nanos) →
          ∀ owner d, w.now + d.nanos < Instant.limit →
            (w.memory.serve w.now (.acquire key owner d)).1 = some true) := by
  obtain ⟨hsourced, hattempting⟩ := sourced_run plans acts
  have hspent : ((start plans).run acts).Spent i token := by
    refine ⟨⟨asked, _, hasked, rfl⟩, fun hp => ?_, fun lease hs => ?_⟩
    · obtain ⟨x, u, hx, hu, -⟩ := presenting?_eq_some.mp hp
      cases ht.symm.trans hx
      rw [hattempting.idle i t ht (by rw [hend]; rfl)] at hu
      cases hu
    · obtain ⟨x, hx, -, hleased⟩ := hs
      cases ht.symm.trans hx
      exact absurd (Option.some.inj (hend.symm.trans hleased)) (hnone lease)
  have hbarren : ((start plans).run acts).Barren i key token ttl := by
    obtain ⟨n, -, hn⟩ := hattempting.minted token (mem_presented.mpr ⟨_, hasked, rfl⟩)
    refine ⟨⟨n, hn⟩, fun time j r hm hr => ?_, fun l hl =>
      hsourced.unspent hattempting (.inl hl) hspent⟩
    exact (Event.asked.inj (eq_of_presents hattempting.nodup hm hasked hr rfl)).2
  have hsteady : ∀ first rest, acts = first ++ rest →
      ((start plans).run first).Steady i key token ttl := by
    rintro first rest rfl
    rw [run_append] at hbarren
    refine Steady.run ⟨regular_start hplans, attempting_start plans, ?_, lone_start plans,
      honours_start plans⟩ (fun a ha => hacts a (by simp [ha])) (genuine_append.mp hgenuine).1
      hbarren.earlier
    intro j x l hx
    cases hx
  refine ⟨puts_of_asked ht hasked, ?_⟩
  rintro before after rfl w
  have hw : w.Steady i key token ttl := hsteady before after rfl
  refine ⟨hw.lone.entry, fun later earlier time hhistory hkept => ⟨fun hlt => ?_,
    fun hle hnew owner d hfits => ?_⟩⟩
  · have hheld := Written.held ⟨hhistory, hkept⟩ hw hlt
    refine ⟨hheld, fun owner d hne => Memory.serve_of_held (x := ⟨token, time + ttl.nanos⟩) ?_
      (Ne.symm hne) d⟩
    exact Memory.live?_eq_some.mpr ⟨hheld, hlt⟩
  · have hreserved : w.Reserved key token := Written.reserved ⟨hhistory, hkept⟩
      (fun first rest hsplit => hsteady first (rest ++ after) (by rw [hsplit, List.append_assoc]))
      hnew
    refine Memory.serve_of_free (Option.eq_none_iff_forall_ne_some.mpr fun x hx => ?_) owner hfits
    obtain ⟨hf, hlt⟩ := Memory.live?_eq_some.mp hx
    -- what is left of the orphan is dead by then
    obtain ⟨-, time', hone, hexpires⟩ := hw.lone.entry key x hf (hreserved x hx)
    have hm : .served time i (.acquire key token ttl) true ∈ grantsTo token w.history := by
      rw [grantsTo, hhistory]
      simp [Event.favours, Event.granted?, Request.token]
    rw [hone, List.mem_singleton] at hm
    cases hm
    omega

/-- The confirmation of an attempt comes too late: its key is refused until the ttl is over, and
then granted. -/
theorem orphans_die_on_time_unconfirmed :
    let work : Acquisition := .start "k" (.ofMillis 100) (.ofMillis 10) .never none
    let before := [.spawn (.acquisition work), .step 0, .step 0, .advance 10000000, .step 0]
    let world (acts : List Act) := (start ⟨[⟨none, .serve, some (.ofMillis 50)⟩], [], []⟩).run acts
    let early := world before
    let late := world (before ++ [.advance 90000000])
    late.ending? 0 = some (.failed (.retriesExhausted 1 .timeout)) ∧
    (∀ owner d, owner ≠ .minted 1 →
      early.memory.serve early.now (.acquire "k" owner d) = (some false, early.memory)) ∧
    ∀ owner d, late.now + d.nanos < Instant.limit →
      (late.memory.serve late.now (.acquire "k" owner d)).1 = some true := by
  intro work before world early late
  have hplans : (⟨[⟨none, .serve, some (.ofMillis 50)⟩], [], []⟩ : Plans).Honest := by
    rintro plan (h | h | h) <;> cases h
    · exact fun yes => Deed.noConfusion
    · contradiction
  have hacts : ∀ a ∈ before ++ [.advance 90000000], a.Lawful := by
    simp [before, Act.Lawful]
  have hgenuine : (start ⟨[⟨none, .serve, some (.ofMillis 50)⟩], [], []⟩).Genuine
      (before ++ [.advance 90000000]) := by
    simp [before, Genuine, Act.Genuine, Process.lease?]
  let request : Request := .acquire "k" (.minted 1) (.ofMillis 100)
  have hend : late.ending? 0 = some (.failed (.retriesExhausted 1 .timeout)) := by decide
  obtain ⟨t, ht, hended⟩ := Option.bind_eq_some_iff.mp hend
  have hasked : .asked 0 0 request ∈ late.history := by decide
  obtain ⟨-, h⟩ := orphans_die_on_time hplans hacts hgenuine ht hended
    (fun _ => Ending.noConfusion) hasked
  have hearly : early.history = [.ended 10000000 0 (.failed (.retriesExhausted 1 .timeout))] ++
      .served 0 0 request true :: [.asked 0 0 request] := by decide
  have hlate : late.history = [.ended 10000000 0 (.failed (.retriesExhausted 1 .timeout))] ++
      .served 0 0 request true :: [.asked 0 0 request] := by decide
  refine ⟨hend, ?_, ?_⟩
  · obtain ⟨-, hwritten⟩ := h before [.advance 90000000] rfl
    exact ((hwritten _ _ 0 hearly (by simp)).1 (by decide)).2
  · obtain ⟨-, hwritten⟩ := h (before ++ [.advance 90000000]) [] (List.append_nil _).symm
    exact (hwritten _ _ 0 hlate (by simp)).2 (by decide) (by simp [Event.granted?])

/-- The first attempt after the end of an orphan comes to nothing if the key would be held for longer
than the clock can name: it breaks down, and nobody holds the key. -/
theorem orphan_then_overflow :
    let work : Acquisition := .start "k" (.ofMillis 100) (.ofMillis 10) .never none
    let w := (start ⟨[⟨none, .serve, some (.ofMillis 50)⟩], [], []⟩).run
      [.spawn (.acquisition work), .step 0, .step 0, .advance 10000000, .step 0, .advance 90000000]
    let attempt (d : Span) : World :=
      w.run [.spawn (.errand (.attempt "k" d)), .step 1, .step 1, .step 1]
    let v := attempt .longest
    let ttl := Span.ofMillis 100
    w.ending? 0 = some (.failed (.retriesExhausted 1 .timeout)) ∧
    w.history = [.ended 10000000 0 (.failed (.retriesExhausted 1 .timeout)),
      .served 0 0 (.acquire "k" (.minted 1) ttl) true, .asked 0 0 (.acquire "k" (.minted 1) ttl)] ∧
    0 + ttl.nanos ≤ w.now ∧
    v.history = [.ended 100000000 1 (.broken Instant.overflowText),
      .asked 100000000 1 (.acquire "k" (.minted 2) .longest)] ++ w.history ∧
    v.memory.holder v.now "k" = none ∧
    ¬ ∀ d, ∃ lease, (attempt d).ending? 1 = some (.leased lease) := by
  intro work w attempt v ttl
  refine ⟨by decide, by decide, by decide, by decide, by decide, fun h => ?_⟩
  obtain ⟨lease, hleased⟩ := h .longest
  have hbroken : v.ending? 1 = some (.broken Instant.overflowText) := by decide
  cases hbroken.symm.trans hleased

end World
end LeaseLock
