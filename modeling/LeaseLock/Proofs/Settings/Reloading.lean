import Mathlib.Tactic.Common
import LeaseLock.Proofs.Json.Written
import LeaseLock.Settings.LockingDocument

/-!
Writing the settings of a lock and reading them back.

A span comes back in whole milliseconds, no more than 64 bits of them; the rest of the settings
comes back as it was. What is written a second time is what was written the first time.
-/

namespace LeaseLock

namespace Span

/-- A span without its part below the millisecond, as far as 64 bits of milliseconds go. -/
def wholeMillis (d : Span) : Span where
  nanos := min d.millis (Width.bits64 - 1) * 1000000
  nanos_lt := by
    have hle : min d.millis (Width.bits64 - 1) ≤ Width.bits64 - 1 := Nat.min_le_right ..
    unfold Width.bits64 at hle ⊢
    omega

variable (d : Span)

lemma millis_wholeMillis : d.wholeMillis.millis = min d.millis (Width.bits64 - 1) :=
  Nat.mul_div_cancel _ (by decide)

lemma ofMillis_min : ofMillis (min d.millis (Width.bits64 - 1)) = d.wholeMillis :=
  Span.ext (nanos_ofNanos d.wholeMillis.nanos_lt)

/-- The spans that come back are the whole milliseconds of 64 bits. -/
lemma wholeMillis_eq_iff : d.wholeMillis = d ↔ 1000000 ∣ d.nanos ∧ d.millis < Width.bits64 := by
  have hnanos : d.wholeMillis.nanos = min (d.nanos / 1000000) (Width.bits64 - 1) * 1000000 := rfl
  rw [Span.ext_iff, Nat.dvd_iff_mod_eq_zero, hnanos]
  unfold millis Width.bits64
  omega

end Span

namespace LockSettings

open Json

/-- The settings with every span changed. -/
def mapSpans (f : Span → Span) (s : LockSettings) : LockSettings where
  ttl := f s.ttl
  acquireTimeout := f s.acquireTimeout
  retryInterval := f s.retryInterval
  maxRetries := s.maxRetries
  refreshInterval := s.refreshInterval.map f
  refreshTimeout := f s.refreshTimeout

/-- All the spans of the settings. -/
def spans (s : LockSettings) : List Span :=
  [s.ttl, s.acquireTimeout, s.retryInterval, s.refreshTimeout] ++ s.refreshInterval.toList

lemma mapSpans_eq_iff {f : Span → Span} {s : LockSettings} :
    s.mapSpans f = s ↔ ∀ d ∈ s.spans, f d = d := by
  rcases s with ⟨ttl, acquire, retry, retries, refresh, bound⟩
  cases refresh with
  | none => simp [mapSpans, spans]
  | some d =>
    simp [mapSpans, spans]
    tauto

lemma writtenMillis_wholeMillis (d : Span) : writtenMillis d.wholeMillis = writtenMillis d := by
  unfold writtenMillis
  rw [Span.millis_wholeMillis]
  omega

lemma takes_millis (d : Span) :
    Takes readMillis (writeNatural (writtenMillis d)) d.wholeMillis := by
  have hlt : writtenMillis d < Width.bits64 := by
    unfold writtenMillis Width.bits64
    omega
  have hnatural := (takes_natural hlt (Nat.le_refl _) "u64").map Span.ofMillis
  rw [writtenMillis, Span.ofMillis_min] at hnatural
  exact hnatural

lemma takes_millis_some (d : Span) :
    Takes (readOptional readMillis) (writeNatural (writtenMillis d)) (some d.wholeMillis) :=
  takes_some (opens_natural _) (takes_millis d)

lemma takes_retries (n : UInt32) :
    Takes (readNatural Width.bits32 "u32") (writeNatural n.toNat) n.toNat :=
  takes_natural n.toNat_lt (by decide) "u32"

/-- What the written form holds, member by member. -/
def entries (s : LockSettings) : List (Entry LockSettings) :=
  let millis (name : String) (d : Span) (set : Span → LockSettings → LockSettings) :
      Entry LockSettings :=
    ⟨name, writeNatural (writtenMillis d), set d.wholeMillis⟩
  [ millis "ttl" s.ttl fun d t => { t with ttl := d },
    millis "acquire_timeout" s.acquireTimeout fun d t => { t with acquireTimeout := d },
    millis "retry_interval" s.retryInterval fun d t => { t with retryInterval := d },
    ⟨"max_retries", writeNatural s.maxRetries.toNat, fun t =>
      { t with maxRetries := s.maxRetries.toNat.toUInt32 }⟩ ] ++
  (s.refreshInterval.map fun d =>
    millis "refresh_interval" d fun d t => { t with refreshInterval := some d }).toList ++
  [ millis "refresh_timeout" s.refreshTimeout fun d t => { t with refreshTimeout := d } ]

lemma write_entries (s : LockSettings) : s.entries.map (·.write) = s.members := by
  unfold entries members
  cases s.refreshInterval <;> rfl

/-- Every member of the written form is one that the reader has a field for. -/
lemma suits_entries (s : LockSettings) : ∀ e ∈ s.entries, e.Suits record := by
  have httl := Entry.suits_of record "ttl" rfl (takes_millis s.ttl)
  have hacquire := Entry.suits_of record "acquire_timeout" rfl
    (takes_millis s.acquireTimeout)
  have hretry := Entry.suits_of record "retry_interval" rfl
    (takes_millis s.retryInterval)
  have hretries := Entry.suits_of record "max_retries" rfl
    (takes_retries s.maxRetries)
  have hrefresh (d : Span) := Entry.suits_of record "refresh_interval" rfl
    (takes_millis_some d)
  have hbound := Entry.suits_of record "refresh_timeout" rfl
    (takes_millis s.refreshTimeout)
  intro e he
  unfold entries at he
  cases hinterval : s.refreshInterval with
  | none =>
    simp only [hinterval, Option.map_none, Option.toList_none, List.append_nil, List.cons_append,
      List.nil_append, List.mem_cons, List.not_mem_nil, or_false] at he
    rcases he with rfl | rfl | rfl | rfl | rfl
    exacts [httl, hacquire, hretry, hretries, hbound]
  | some d =>
    simp only [hinterval, Option.map_some, Option.toList_some, List.cons_append, List.nil_append,
      List.mem_cons, List.not_mem_nil, or_false] at he
    rcases he with rfl | rfl | rfl | rfl | rfl | rfl
    exacts [httl, hacquire, hretry, hretries, hrefresh d, hbound]

lemma nodup_entries (s : LockSettings) : (s.entries.map (·.name)).Nodup := by
  unfold entries
  cases s.refreshInterval <;> simp

lemma setAll_entries (s : LockSettings) :
    Entry.setAll standard s.entries = s.mapSpans Span.wholeMillis := by
  unfold entries mapSpans
  cases s.refreshInterval <;> simp [Entry.setAll, standard]

lemma read_written (s : LockSettings) : read s.write = .ok (s.mapSpans Span.wholeMillis) := by
  rw [← setAll_entries, write, ← write_entries]
  exact Record.read_write (suits_entries s) (nodup_entries s)
    (fun name hname => absurd hname List.not_mem_nil) standard

/-- **Settings that are written and read come back in whole milliseconds.** They come back as they
were if and only if every span was a whole number of milliseconds of 64 bits, and what came back is
written as before. -/
theorem read_write_wholeMillis (s : LockSettings) :
    read s.write = .ok (s.mapSpans Span.wholeMillis) ∧
      (read s.write = .ok s ↔ ∀ d ∈ s.spans, 1000000 ∣ d.nanos ∧ d.millis < Width.bits64) ∧
      (s.mapSpans Span.wholeMillis).write = s.write := by
  refine ⟨s.read_written, ?_, ?_⟩
  · rw [read_written, Except.ok.injEq, mapSpans_eq_iff]
    exact forall₂_congr fun d _ => d.wholeMillis_eq_iff
  · have hmembers : (s.mapSpans Span.wholeMillis).members = s.members := by
      unfold members
      simp only [mapSpans, writtenMillis_wholeMillis]
      cases s.refreshInterval <;> simp [writtenMillis_wholeMillis]
    rw [write, write, hmembers]

end LockSettings
end LeaseLock
