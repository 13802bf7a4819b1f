import LeaseLock.Proofs.Retry.Limits
import LeaseLock.Proofs.Settings.Reloading
import LeaseLock.Settings.Environment

/-!
Which settings of a lock are accepted.

They are if no span is zero and a lease is renewed before it ends. An environment cannot make others,
unless it gives a renewal interval that is too long. Writing settings and reading them back can, since
spans come back in whole milliseconds.
-/

namespace LeaseLock

namespace Span

variable {d e : Span}

lemma isZero_eq_false : d.isZero = false ↔ 0 < d.nanos := by
  rw [Nat.pos_iff_ne_zero, ← Bool.not_eq_true, isZero_iff]

lemma wholeMillis_pos : 0 < d.wholeMillis.nanos ↔ 0 < d.millis := by
  have hnanos : d.wholeMillis.nanos = min d.millis (Width.bits64 - 1) * 1000000 := rfl
  unfold Width.bits64 at hnanos
  omega

/-- Spans that differ are still apart in whole milliseconds if these differ and the lesser one is not
the greatest number of 64 bits. -/
lemma wholeMillis_lt :
    d.wholeMillis.nanos < e.wholeMillis.nanos ↔
      d.millis < e.millis ∧ d.millis < Width.bits64 - 1 := by
  have hd : d.wholeMillis.nanos = min d.millis (Width.bits64 - 1) * 1000000 := rfl
  have he : e.wholeMillis.nanos = min e.millis (Width.bits64 - 1) * 1000000 := rfl
  unfold Width.bits64 at hd he ⊢
  omega

/-- A third of a span of a millisecond or more is some time, and less than the whole. -/
lemma third_bounds (h : 0 < d.millis) : 0 < d.third.nanos ∧ d.third < d := by
  have hthird : d.third.nanos = d.nanos / 3 := rfl
  unfold millis at h
  rw [Span.lt_def]
  omega

lemma nanos_pos_of_millis (h : 0 < d.millis) : 0 < d.nanos := by
  unfold millis at h
  omega

lemma millis_ofSecs {n : Nat} (hn : n < Width.bits64) : (ofSecs n).millis = n * 1000 := by
  have hlt : n * 1000000000 < limit := by
    unfold Width.bits64 at hn
    unfold limit
    omega
  rw [millis, ofSecs, nanos_ofNanos hlt]
  omega

lemma millis_ofMillis {n : Nat} (hn : n < Width.bits64) : (ofMillis n).millis = n := by
  have hlt : n * 1000000 < limit := by
    unfold Width.bits64 at hn
    unfold limit
    omega
  rw [millis, ofMillis, nanos_ofNanos hlt]
  omega

end Span

lemma Environment.positive?_bounds {env : Environment} {name : String} {n : Nat}
    (h : env.positive? name = some n) : 0 < n ∧ n < Width.bits64 := by
  obtain ⟨hnumber, hpos⟩ := Option.filter_eq_some_iff.mp h
  obtain ⟨text, -, hread⟩ := Option.bind_eq_some_iff.mp hnumber
  exact ⟨by simpa using hpos, Text.readUnsigned_lt hread⟩

namespace LockSettings

variable {s : LockSettings} {d : Span}

/-! ### What is accepted -/

/-- Settings under which a lease can be held, and is renewed before it ends. -/
structure Usable (s : LockSettings) : Prop where
  positive : ∀ d ∈ s.spans, 0 < d.nanos
  renews : 0 < s.effectiveRefreshInterval.nanos
  inTime : s.effectiveRefreshInterval < s.ttl

/-- Where nothing is zero, it is only the renewal interval that may be refused. -/
lemma validate_of_positive (hpositive : ∀ d ∈ s.spans, 0 < d.nanos)
    (hrenews : 0 < s.effectiveRefreshInterval.nanos) :
    s.validate = if s.ttl ≤ s.effectiveRefreshInterval then
      .error (.refreshInterval s.effectiveRefreshInterval s.ttl) else .ok () := by
  have httl := Span.isZero_eq_false.mpr (hpositive s.ttl (by simp [spans]))
  have hacquire := Span.isZero_eq_false.mpr (hpositive s.acquireTimeout (by simp [spans]))
  have hrefresh := Span.isZero_eq_false.mpr (hpositive s.refreshTimeout (by simp [spans]))
  have hinterval := Span.isZero_eq_false.mpr hrenews
  have hstrategy : s.strategy = .ok ⟨s.retryInterval, s.maxRetries, 0⟩ :=
    Retry.Fixed.make_eq_ok.mpr ⟨hpositive s.retryInterval (by simp [spans]), rfl⟩
  simp [validate, httl, hacquire, hrefresh, hinterval, hstrategy, Except.map]

lemma usable_of_validate (h : s.validate = .ok ()) : s.Usable := by
  unfold validate at h
  split at h
  · cases h
  next httl =>
  split at h
  · cases h
  next hacquire =>
  split at h
  · cases h
  next hrefresh =>
  split at h
  · cases h
  next hinterval =>
  rw [Bool.or_eq_true, decide_eq_true_eq, not_or, Bool.not_eq_true, Span.isZero_eq_false,
    Span.le_def, Nat.not_le] at hinterval
  rw [Bool.not_eq_true, Span.isZero_eq_false] at httl hacquire hrefresh
  cases hstrategy : s.strategy with
  | error e =>
    rw [hstrategy] at h
    cases h
  | ok f =>
    have hretry := (Retry.Fixed.make_eq_ok.mp hstrategy).1
    refine ⟨fun d hd => ?_, hinterval.1, hinterval.2⟩
    simp only [spans, List.cons_append, List.nil_append, List.mem_cons, Option.mem_toList] at hd
    rcases hd with rfl | rfl | rfl | rfl | hd
    · exact httl
    · exact hacquire
    · exact hretry
    · exact hrefresh
    · have heffective : s.effectiveRefreshInterval = d := by simp [effectiveRefreshInterval, hd]
      exact heffective ▸ hinterval.1

/-- **Settings are accepted if and only if they are usable.** -/
theorem validate_eq_ok : s.validate = .ok () ↔ s.Usable := by
  refine ⟨usable_of_validate, fun h => ?_⟩
  have hinTime : ¬ s.ttl ≤ s.effectiveRefreshInterval := Nat.not_le.mpr h.inTime
  rw [validate_of_positive h.positive h.renews, if_neg hinTime]

/-! ### After writing and reading -/

lemma spans_mapSpans (f : Span → Span) : (s.mapSpans f).spans = s.spans.map f := by
  unfold mapSpans spans
  cases s.refreshInterval <;> rfl

/-- Settings in whole milliseconds are usable as soon as no span is lost, and a renewal interval that
was given stays shorter than the lifetime. An interval that is derived does so in any case. -/
lemma usable_wholeMillis : (s.mapSpans Span.wholeMillis).Usable ↔
    (∀ d ∈ s.spans, 0 < d.millis) ∧
      ∀ d ∈ s.refreshInterval, d.millis < s.ttl.millis ∧ d.millis < Width.bits64 - 1 := by
  have hspans : (∀ d ∈ (s.mapSpans Span.wholeMillis).spans, 0 < d.nanos) ↔
      ∀ d ∈ s.spans, 0 < d.millis := by
    rw [spans_mapSpans, List.forall_mem_map]
    exact forall₂_congr fun d _ => Span.wholeMillis_pos
  have httl : (s.mapSpans Span.wholeMillis).ttl = s.ttl.wholeMillis := rfl
  constructor
  · intro h
    refine ⟨hspans.mp h.positive, fun d hd => Span.wholeMillis_lt.mp ?_⟩
    have heffective : (s.mapSpans Span.wholeMillis).effectiveRefreshInterval = d.wholeMillis := by
      simp [effectiveRefreshInterval, mapSpans, Option.mem_def.mp hd]
    have hlt := h.inTime
    rwa [heffective, httl] at hlt
  · rintro ⟨hpositive, hinTime⟩
    cases hinterval : s.refreshInterval with
    | some d =>
      have heffective : (s.mapSpans Span.wholeMillis).effectiveRefreshInterval = d.wholeMillis := by
        simp [effectiveRefreshInterval, mapSpans, hinterval]
      have hrenews := Span.wholeMillis_pos.mpr (hpositive d (by simp [spans, hinterval]))
      have hlt := Span.wholeMillis_lt.mpr (hinTime d hinterval)
      exact ⟨hspans.mpr hpositive, heffective ▸ hrenews, heffective ▸ hlt⟩
    | none =>
      have heffective : (s.mapSpans Span.wholeMillis).effectiveRefreshInterval =
          s.ttl.wholeMillis.third := by
        simp [effectiveRefreshInterval, mapSpans, hinterval]
      have hmillis : 0 < s.ttl.wholeMillis.millis := by
        rw [Span.millis_wholeMillis]
        exact Nat.lt_min.mpr ⟨hpositive s.ttl (by simp [spans]), by decide⟩
      have hthird := Span.third_bounds hmillis
      exact ⟨hspans.mpr hpositive, heffective ▸ hthird.1, heffective ▸ hthird.2⟩

/-- **Settings that are written and read back are accepted as far as whole milliseconds tell.** No
span may be shorter than a millisecond, and a renewal interval that was given has to be shorter than
the lifetime in the milliseconds that are written, which end at the greatest number of 64 bits. -/
theorem validate_reloaded (s : LockSettings) :
    ∃ s', read s.write = .ok s' ∧
      (s'.validate = .ok () ↔ (∀ d ∈ s.spans, 0 < d.millis) ∧
        ∀ d ∈ s.refreshInterval, d.millis < s.ttl.millis ∧ d.millis < Width.bits64 - 1) :=
  ⟨_, s.read_written, validate_eq_ok.trans usable_wholeMillis⟩

/-- Milliseconds that are not whole, and still one apart once they are. -/
theorem validate_reloaded_apart :
    let s := { standard with
      ttl := .ofNanos 2900000, refreshInterval := some (.ofNanos 1999999) }
    s.validate = .ok () ∧ ∃ s', read s.write = .ok s' ∧ s'.validate = .ok () := by
  intro s
  obtain ⟨s', hread, hvalidate⟩ := validate_reloaded s
  have hspans : ∀ d ∈ s.spans, 0 < d.millis := by decide
  have hinterval : ∀ d ∈ s.refreshInterval,
      d.millis < s.ttl.millis ∧ d.millis < Width.bits64 - 1 := by
    rintro d hd
    cases hd
    decide
  exact ⟨by decide, s', hread, hvalidate.mpr ⟨hspans, hinterval⟩⟩

/-- Settings that are accepted as they are, and not after they were written and read: a lifetime below
a millisecond, a renewal interval that differs from the lifetime by less than a millisecond, and one
that differs from it beyond 64 bits of milliseconds. -/
theorem reloading_refuses_accepted :
    let brief := { standard with ttl := .ofNanos 999999 }
    let close := { standard with
      ttl := .ofNanos 1700000, refreshInterval := some (.ofNanos 1200000) }
    let long := { standard with
      ttl := .longest, refreshInterval := some (.ofNanos 18446744073709551616000000) }
    (brief.validate = .ok () ∧
      ∃ s, read brief.write = .ok s ∧ s.validate = .error .ttl) ∧
    (close.validate = .ok () ∧
      ∃ s, read close.write = .ok s ∧
        s.validate = .error (.refreshInterval (.ofMillis 1) (.ofMillis 1))) ∧
    long.validate = .ok () ∧
      ∃ s, read long.write = .ok s ∧
        s.validate = .error (.refreshInterval (.ofMillis 18446744073709551615)
          (.ofMillis 18446744073709551615)) := by
  intro brief close long
  exact ⟨⟨by decide, _, brief.read_written, by decide⟩, ⟨by decide, _, close.read_written, by decide⟩,
    by decide, _, long.read_written, by decide⟩

/-! ### From an environment -/

/-- The span that a setter gives. -/
def Setter.span? : Setter → Option Span
  | .ttl d | .acquireTimeout d | .retryInterval d | .refreshInterval d | .refreshTimeout d => some d
  | .maxRetries _ => none

def Setter.ttl? : Setter → Option Span
  | .ttl d => some d
  | _ => none

def Setter.refreshInterval? : Setter → Option (Option Span)
  | .refreshInterval d => some (some d)
  | _ => none

lemma mem_spans_set {setter : Setter} (h : d ∈ (s.set setter).spans) :
    d ∈ s.spans ∨ setter.span? = some d := by
  cases setter <;> simp only [set, spans, Setter.span?, List.cons_append, List.nil_append,
    List.mem_cons, Option.mem_toList, Option.some.injEq] at h ⊢ <;> tauto

/-- Every span of settings made by setters was there before, or was given by a setter. -/
lemma mem_spans_setAll {setters : List Setter} (h : d ∈ (s.setAll setters).spans) :
    d ∈ s.spans ∨ ∃ setter ∈ setters, setter.span? = some d := by
  induction setters generalizing s with
  | nil => exact .inl h
  | cons setter setters ih =>
    rcases ih h with hset | ⟨other, hother, hd⟩
    · rcases mem_spans_set hset with hs | hd
      · exact .inl hs
      · exact .inr ⟨setter, List.mem_cons_self, hd⟩
    · exact .inr ⟨other, List.mem_cons_of_mem setter hother, hd⟩

/-- What the settings have for something that setters set is the last value given for it. -/
lemma view_setAll {α : Type} {view : LockSettings → α} {given? : Setter → Option α}
    (hset : ∀ s setter, view (s.set setter) = (given? setter).getD (view s)) (s : LockSettings)
    (setters : List Setter) :
    view (s.setAll setters) = (setters.filterMap given?).getLast?.getD (view s) := by
  induction setters generalizing s with
  | nil => rfl
  | cons setter setters ih =>
    have hcons : s.setAll (setter :: setters) = (s.set setter).setAll setters := rfl
    rw [hcons, ih, hset]
    cases hgiven : given? setter with
    | none => rw [List.filterMap_cons_none hgiven, Option.getD_none]
    | some value =>
      rw [List.filterMap_cons_some hgiven, List.getLast?_cons]
      rfl

section environment

variable {env : Environment}

/-- What an environment gives for something, if it gives anything, is what the settings have. -/
lemma view_ofEnvironment {α : Type} {view : LockSettings → α} {given? : Setter → Option α}
    {value : Option α} (hset : ∀ s setter, view (s.set setter) = (given? setter).getD (view s))
    (hgiven : (settersOf env).filterMap given? = value.toList) :
    view (ofEnvironment env) = value.getD (view standard) := by
  rw [ofEnvironment, view_setAll hset, hgiven]
  cases value <;> rfl

lemma ttl_ofEnvironment (env : Environment) : (ofEnvironment env).ttl =
    ((env.positive? "LEASEHOLD_TTL_SECS").map Span.ofSecs).getD (.ofSecs 30) := by
  have hset (s : LockSettings) (setter : Setter) :
      (s.set setter).ttl = setter.ttl?.getD s.ttl := by cases setter <;> rfl
  refine view_ofEnvironment hset ?_
  cases hvalue : env.positive? "LEASEHOLD_TTL_SECS" <;>
    simp [settersOf, List.filterMap_filterMap, Setter.ttl?, hvalue]

lemma refreshInterval_ofEnvironment (env : Environment) : (ofEnvironment env).refreshInterval =
    (env.positive? "LEASEHOLD_REFRESH_INTERVAL_MS").map Span.ofMillis := by
  have hset (s : LockSettings) (setter : Setter) :
      (s.set setter).refreshInterval = setter.refreshInterval?.getD s.refreshInterval := by
    cases setter <;> rfl
  have hgiven : (settersOf env).filterMap Setter.refreshInterval? =
      ((env.positive? "LEASEHOLD_REFRESH_INTERVAL_MS").map fun n =>
        some (Span.ofMillis n)).toList := by
    cases hvalue : env.positive? "LEASEHOLD_REFRESH_INTERVAL_MS" <;>
      simp [settersOf, List.filterMap_filterMap, Setter.refreshInterval?, hvalue]
  rw [view_ofEnvironment hset hgiven]
  cases env.positive? "LEASEHOLD_REFRESH_INTERVAL_MS" <;> rfl

/-- An environment gives spans of a millisecond or more. -/
lemma millis_settersOf {setter : Setter} (hmem : setter ∈ settersOf env)
    (hd : setter.span? = some d) : 0 < d.millis := by
  have hsecs {name : String} {n : Nat} (h : env.positive? name = some n) :
      0 < (Span.ofSecs n).millis := by
    obtain ⟨hpos, hlt⟩ := Environment.positive?_bounds h
    rw [Span.millis_ofSecs hlt]
    omega
  have hmillis {name : String} {n : Nat} (h : env.positive? name = some n) :
      0 < (Span.ofMillis n).millis := by
    obtain ⟨hpos, hlt⟩ := Environment.positive?_bounds h
    rwa [Span.millis_ofMillis hlt]
  simp only [settersOf, List.mem_filterMap, id_eq, exists_eq_right, List.mem_cons,
    List.not_mem_nil, or_false, eq_comm (a := some setter), Option.map_eq_some_iff] at hmem
  rcases hmem with ⟨n, hn, rfl⟩ | ⟨n, hn, rfl⟩ | ⟨n, hn, rfl⟩ | ⟨n, -, rfl⟩ | ⟨n, hn, rfl⟩ |
    ⟨n, hn, rfl⟩ <;> cases hd
  exacts [hsecs hn, hmillis hn, hmillis hn, hmillis hn, hmillis hn]

lemma millis_ofEnvironment (hd : d ∈ (ofEnvironment env).spans) : 0 < d.millis := by
  rcases mem_spans_setAll hd with hstandard | ⟨setter, hmem, hspan⟩
  · have hall : ∀ d ∈ standard.spans, 0 < d.millis := by decide
    exact hall d hstandard
  · exact millis_settersOf hmem hspan

/-- **An environment makes settings that are accepted, or gives too long a renewal interval itself.**
Whatever its variables hold, no span is zero, and the only ones refused are those with a renewal
interval from the environment that is not shorter than the lifetime. -/
theorem validate_ofEnvironment (env : Environment) :
    let s := ofEnvironment env
    (∀ d ∈ s.spans, 0 < d.nanos) ∧ 0 < s.effectiveRefreshInterval.nanos ∧
      s.ttl = ((env.positive? "LEASEHOLD_TTL_SECS").map Span.ofSecs).getD (.ofSecs 30) ∧
      s.validate = match env.positive? "LEASEHOLD_REFRESH_INTERVAL_MS" with
        | some n =>
          if s.ttl ≤ .ofMillis n then .error (.refreshInterval (.ofMillis n) s.ttl) else .ok ()
        | none => .ok () := by
  intro s
  have hmillis (d : Span) (hd : d ∈ s.spans) : 0 < d.millis := millis_ofEnvironment hd
  have hpositive (d : Span) (hd : d ∈ s.spans) : 0 < d.nanos :=
    Span.nanos_pos_of_millis (hmillis d hd)
  have hinterval : s.refreshInterval =
      (env.positive? "LEASEHOLD_REFRESH_INTERVAL_MS").map Span.ofMillis :=
    refreshInterval_ofEnvironment env
  cases hgiven : env.positive? "LEASEHOLD_REFRESH_INTERVAL_MS" with
  | some n =>
    have hsome : s.refreshInterval = some (.ofMillis n) := by rw [hinterval, hgiven]; rfl
    have heffective : s.effectiveRefreshInterval = .ofMillis n := by
      simp [effectiveRefreshInterval, hsome]
    have hrenews := heffective ▸ hpositive (.ofMillis n) (by simp [spans, hsome])
    refine ⟨hpositive, hrenews, ttl_ofEnvironment env, ?_⟩
    rw [validate_of_positive hpositive hrenews, heffective]
  | none =>
    have heffective : s.effectiveRefreshInterval = s.ttl.third := by
      simp [effectiveRefreshInterval, hinterval, hgiven]
    obtain ⟨hrenews, hinTime⟩ := Span.third_bounds (hmillis s.ttl (by simp [spans]))
    exact ⟨hpositive, heffective ▸ hrenews, ttl_ofEnvironment env,
      validate_eq_ok.mpr ⟨hpositive, heffective ▸ hrenews, heffective ▸ hinTime⟩⟩

/-- A lifetime with a sign, a renewal interval as long, a timeout of zero and bytes that are no text. -/
theorem validate_ofEnvironment_too_long :
    let env : Environment := ⟨[("LEASEHOLD_TTL_SECS", [43, 50]),
      ("LEASEHOLD_ACQUIRE_TIMEOUT_MS", [48]), ("LEASEHOLD_RETRY_INTERVAL_MS", [255]),
      ("LEASEHOLD_REFRESH_INTERVAL_MS", [50, 48, 48, 48])]⟩
    (ofEnvironment env).validate = .error (.refreshInterval (.ofMillis 2000) (.ofSecs 2)) := by
  intro env
  obtain ⟨-, -, httl, hvalidate⟩ := validate_ofEnvironment env
  have hsecs : env.positive? "LEASEHOLD_TTL_SECS" = some 2 := by decide +kernel
  have hmillis : env.positive? "LEASEHOLD_REFRESH_INTERVAL_MS" = some 2000 := by decide +kernel
  rw [hsecs] at httl
  rw [hvalidate, hmillis, httl]
  decide

end environment

end LockSettings
end LeaseLock
