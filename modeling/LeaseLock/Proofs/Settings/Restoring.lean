import Mathlib.Tactic.Common
import LeaseLock.Proofs.Json.Written
import LeaseLock.Settings.RedisDocument

/-!
Writing the settings of a connection and reading them back.

The two timeouts come back in whole seconds, everything else as it was: texts with all their
characters, and what was not given as not given, which is not the same as an empty text. So the written
form tells apart all settings that differ in more than the fraction of a second.
-/

namespace LeaseLock

namespace Span

variable (d : Span)

/-- A span without its part below the second. -/
def wholeSecs : Span where
  nanos := d.secs * 1000000000
  nanos_lt := by
    have hlt := d.nanos_lt
    unfold secs
    omega

lemma secs_wholeSecs : d.wholeSecs.secs = d.secs := Nat.mul_div_cancel _ (by decide)

lemma ofSecs_secs : ofSecs d.secs = d.wholeSecs := Span.ext (nanos_ofNanos d.wholeSecs.nanos_lt)

end Span

namespace RedisSettings

open Json

/-- The settings with both timeouts changed. -/
def mapTimeouts (f : Span → Span) (s : RedisSettings) : RedisSettings :=
  { s with connectionTimeout := f s.connectionTimeout, commandTimeout := f s.commandTimeout }

/-! ### Values -/

lemma takes_secs (d : Span) : Takes readSecs (writeNatural d.secs) d.wholeSecs := by
  have hlt : d.secs < Width.bits64 := by
    have hnanos := d.nanos_lt
    unfold Span.secs Width.bits64
    omega
  have hnatural := (takes_natural hlt (Nat.le_refl _) "u64").map Span.ofSecs
  rw [Span.ofSecs_secs] at hnatural
  exact hnatural

lemma takes_database (database : Option UInt8) :
    Takes readDatabase (writeOptional (fun n => writeNatural n.toNat) database) database := by
  -- It is read as a natural number first, and then made one of 8 bits again.
  have hnumber (n : UInt8) :
      Takes (readNatural Width.bits8 "u8") (writeNatural n.toNat) n.toNat :=
    takes_natural n.toNat_lt (by decide) "u8"
  have hnumbers := (takes_optional (fun n => opens_natural n.toNat) hnumber database).map
    (Option.map (·.toUInt8))
  have hsame : (database.map (·.toNat)).map (·.toUInt8) = database := by simp [Function.comp_def]
  rw [hsame] at hnumbers
  exact hnumbers

lemma takes_name (name : Option String) :
    Takes (readOptional readText) (writeOptional writeText name) name := by
  have htexts := takes_optional opens_text takes_text name
  rw [Option.map_id'] at htexts
  exact htexts

/-! ### The settings -/

/-- What the written form holds, member by member. -/
def entries (s : RedisSettings) : List (Entry RedisSettings) :=
  [ ⟨"url", writeText s.url, fun t => { t with url := s.url }⟩,
    ⟨"connection_timeout", writeNatural s.connectionTimeout.secs, fun t =>
      { t with connectionTimeout := s.connectionTimeout.wholeSecs }⟩,
    ⟨"command_timeout", writeNatural s.commandTimeout.secs, fun t =>
      { t with commandTimeout := s.commandTimeout.wholeSecs }⟩,
    ⟨"database", writeOptional (fun n => writeNatural n.toNat) s.database, fun t =>
      { t with database := s.database }⟩,
    ⟨"username", writeOptional writeText s.username, fun t => { t with username := s.username }⟩,
    ⟨"password", writeOptional writeText s.password, fun t => { t with password := s.password }⟩,
    ⟨"tls", writeBool s.tls, fun t => { t with tls := s.tls }⟩,
    ⟨"connection_name", writeOptional writeText s.connectionName, fun t =>
      { t with connectionName := s.connectionName }⟩ ]

lemma write_entries (s : RedisSettings) : s.entries.map (·.write) = s.members := rfl

/-- Every member of the written form is one that the reader has a field for. -/
lemma suits_entries (s : RedisSettings) : ∀ e ∈ s.entries, e.Suits record := by
  have hurl := Entry.suits_of record "url" rfl (takes_text s.url)
  have hconnection := Entry.suits_of record "connection_timeout" rfl
    (takes_secs s.connectionTimeout)
  have hcommand := Entry.suits_of record "command_timeout" rfl (takes_secs s.commandTimeout)
  have hdatabase := Entry.suits_of record "database" rfl (takes_database s.database)
  have husername := Entry.suits_of record "username" rfl (takes_name s.username)
  have hpassword := Entry.suits_of record "password" rfl (takes_name s.password)
  have htls := Entry.suits_of record "tls" rfl (takes_bool s.tls)
  have hname := Entry.suits_of record "connection_name" rfl (takes_name s.connectionName)
  intro e he
  simp only [entries, List.mem_cons, List.not_mem_nil, or_false] at he
  rcases he with rfl | rfl | rfl | rfl | rfl | rfl | rfl | rfl
  exacts [hurl, hconnection, hcommand, hdatabase, husername, hpassword, htls, hname]

lemma nodup_entries (s : RedisSettings) : (s.entries.map (·.name)).Nodup := by simp [entries]

lemma required_entries (s : RedisSettings) :
    ∀ name ∈ record.required, name ∈ s.entries.map (·.name) := by simp [record, entries]

/-- The members set everything there is, so nothing of what they are set in is left. -/
lemma setAll_entries (s t : RedisSettings) :
    Entry.setAll t s.entries = s.mapTimeouts Span.wholeSecs := rfl

lemma read_written (s : RedisSettings) :
    read s.write = .ok (s.mapTimeouts Span.wholeSecs) := by
  rw [← setAll_entries s standard, write, ← write_entries]
  exact Record.read_write (suits_entries s) (nodup_entries s) (required_entries s) standard

lemma write_wholeSecs (s : RedisSettings) : (s.mapTimeouts Span.wholeSecs).write = s.write := by
  have hmembers : (s.mapTimeouts Span.wholeSecs).members = s.members := by
    simp only [members, mapTimeouts, Span.secs_wholeSecs]
  rw [write, write, hmembers]

/-- **Settings of a connection that are written and read come back with whole seconds.** What came
back is written as before, and settings are written alike if and only if they come back alike. -/
theorem read_write_wholeSecs (s : RedisSettings) :
    read s.write = .ok (s.mapTimeouts Span.wholeSecs) ∧
      (s.mapTimeouts Span.wholeSecs).write = s.write ∧
      ∀ t : RedisSettings,
        t.write = s.write ↔ t.mapTimeouts Span.wholeSecs = s.mapTimeouts Span.wholeSecs := by
  refine ⟨s.read_written, s.write_wholeSecs, fun t => ⟨fun hsame => ?_, fun hsame => ?_⟩⟩
  · have hread : read t.write = .ok (s.mapTimeouts Span.wholeSecs) := hsame ▸ s.read_written
    rw [read_written] at hread
    exact Except.ok.inj hread
  · calc t.write = (t.mapTimeouts Span.wholeSecs).write := t.write_wholeSecs.symm
      _ = (s.mapTimeouts Span.wholeSecs).write := by rw [hsame]
      _ = s.write := s.write_wholeSecs

/-- An empty text is written apart from what is not given. -/
example : { ofUrl "redis://cache:6379" with username := some "", password := some "a\"b" }.write =
    "\x7b\"url\":\"redis://cache:6379\",\"connection_timeout\":5,\"command_timeout\":5," ++
    "\"database\":null,\"username\":\"\",\"password\":\"a\\\"b\",\"tls\":false," ++
    "\"connection_name\":null\x7d" := by
  decide +kernel

end RedisSettings
end LeaseLock
