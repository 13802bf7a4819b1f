import Mathlib.Data.List.Infix
import Mathlib.Tactic.Common
import LeaseLock.Proofs.Url.Places
import LeaseLock.Settings.RedisCheck
import LeaseLock.Settings.RedisDocument

/-!
The scheme of the address that a connection is made to.

That address is made of the one in the settings by replacing and appending text. Whatever the
settings are, its scheme is the one that was there, since nothing changes before the first colon. So
a connection is encrypted as soon as the address is, and setters that ask for encryption see to that.
-/

namespace LeaseLock.RedisSettings

lemma plainScheme_eq : plainScheme = ['r', 'e', 'd', 'i', 's', ':', '/', '/'] := rfl

lemma encryptedScheme_eq : encryptedScheme = ['r', 'e', 'd', 'i', 's', 's', ':', '/', '/'] := rfl

/-! ### Replacing text -/

section replacing

variable {pattern replacement before rest cs : List Char}

lemma replaceFirst_start (hpattern : pattern ≠ []) (replacement cs : List Char) :
    replaceFirst pattern replacement (pattern ++ cs) = replacement ++ cs := by
  obtain ⟨c, tail, rfl⟩ := List.exists_cons_of_ne_nil hpattern
  rw [List.cons_append, replaceFirst, if_pos]
  · simp
  · exact List.isPrefixOf_iff_prefix.mpr (List.prefix_append (c :: tail) cs)

lemma replaceFirst_of_absent (hpattern : pattern ≠ []) (h : ¬ pattern <:+: cs) :
    replaceFirst pattern replacement cs = cs := by
  induction cs with
  | nil => rw [replaceFirst, if_neg hpattern]
  | cons c cs ih =>
    rw [List.infix_cons_iff, not_or, ← List.isPrefixOf_iff_prefix] at h
    rw [replaceFirst, if_neg h.1, ih h.2]

/-- A pattern with a colon that starts a text goes beyond the first colon of the text. -/
lemma replaceFirst_at_start (hcolon : ':' ∈ pattern) (hbefore : ':' ∉ before) (added : List Char)
    (hstart : pattern <+: before ++ ':' :: rest) :
    ∃ rest', replaceFirst pattern (pattern ++ added) (before ++ ':' :: rest) =
      before ++ ':' :: rest' := by
  have hpattern : pattern ≠ [] := List.ne_nil_of_mem hcolon
  obtain ⟨front, tail, htail, hfront⟩ := List.eq_append_cons_of_mem hcolon
  obtain ⟨remains, hremains⟩ := hstart
  have hsame : front = before := by
    rw [htail, List.append_assoc, List.cons_append] at hremains
    exact Url.before_colon_unique hfront hbefore hremains
  rw [← hremains, replaceFirst_start hpattern, htail, hsame]
  exact ⟨tail ++ added ++ remains, by simp⟩

/-- What is put in after a pattern with a colon leaves alone what comes before the first colon. -/
lemma replaceFirst_before (hcolon : ':' ∈ pattern) (hbefore : ':' ∉ before)
    (added rest : List Char) :
    ∃ rest', replaceFirst pattern (pattern ++ added) (before ++ ':' :: rest) =
      before ++ ':' :: rest' := by
  induction before with
  | nil =>
    by_cases hstart : pattern <+: [] ++ ':' :: rest
    · exact replaceFirst_at_start hcolon hbefore added hstart
    · rw [← List.isPrefixOf_iff_prefix, List.nil_append] at hstart
      exact ⟨replaceFirst pattern (pattern ++ added) rest, by
        rw [List.nil_append, replaceFirst, if_neg hstart]
        rfl⟩
  | cons b before ih =>
    by_cases hstart : pattern <+: b :: before ++ ':' :: rest
    · exact replaceFirst_at_start hcolon hbefore added hstart
    · rw [← List.isPrefixOf_iff_prefix, List.cons_append] at hstart
      obtain ⟨rest', hrest⟩ := ih fun hmem => hbefore (List.mem_cons_of_mem b hmem)
      exact ⟨rest', by
        rw [List.cons_append, replaceFirst, if_neg hstart, hrest]
        rfl⟩

end replacing

/-! ### The scheme -/

section scheme

variable {s : RedisSettings} {before rest : List Char} {u u' : Url}

/-- The address with the credentials put in. -/
def credentialed (s : RedisSettings) : List Char :=
  match s.credentials? with
  | some credentials => withCredentials s.url.toList credentials
  | none => s.url.toList

/-- An address with a database for its path. -/
def withDatabase (database : Option UInt8) (cs : List Char) : List Char :=
  match database with
  | some n => trimSlashes cs ++ '/' :: Text.digits n.toNat
  | none => cs

lemma connectionChars_eq (s : RedisSettings) :
    s.connectionChars = withDatabase s.database s.credentialed := rfl

lemma credentialed_before (h : s.url.toList = before ++ ':' :: rest) (hbefore : ':' ∉ before) :
    ∃ rest', s.credentialed = before ++ ':' :: rest' := by
  have hplain : ':' ∈ plainScheme := by decide
  have hencrypted : ':' ∈ encryptedScheme := by decide
  unfold credentialed
  cases s.credentials? with
  | none => exact ⟨rest, h⟩
  | some credentials =>
    obtain ⟨first, hfirst⟩ := replaceFirst_before hplain hbefore credentials rest
    obtain ⟨second, hsecond⟩ := replaceFirst_before hencrypted hbefore credentials first
    exact ⟨second, by simp only [withCredentials, h, hfirst, hsecond]⟩

/-- Credentials and a database leave alone what comes before the first colon. -/
lemma connectionChars_before (h : s.url.toList = before ++ ':' :: rest) (hbefore : ':' ∉ before) :
    ∃ rest', s.connectionChars = before ++ ':' :: rest' := by
  obtain ⟨rest', hrest⟩ := credentialed_before h hbefore
  rw [connectionChars_eq, hrest]
  unfold withDatabase
  cases s.database with
  | none => exact ⟨rest', rfl⟩
  | some n =>
    have htrim : trimSlashes (before ++ ':' :: rest') = before ++ ':' :: trimSlashes rest' :=
      Url.trimEnd_append (by decide) before rest'
    exact ⟨trimSlashes rest' ++ '/' :: Text.digits n.toNat, by simp [htrim]⟩

/-- The address that a connection is made to has the scheme of the address in the settings. -/
theorem scheme_connectionUrl (hu : Url.parse s.url = .ok u)
    (hu' : Url.parse s.connectionUrl = .ok u') : u'.scheme = u.scheme := by
  obtain ⟨before, rest, hbefore, hcolon⟩ := Url.exists_before_of_parseChars hu
  obtain ⟨rest', hrest⟩ := connectionChars_before hbefore hcolon
  rw [Url.parse, hbefore] at hu
  rw [Url.parse, connectionUrl, String.toList_ofList, hrest] at hu'
  exact Url.scheme_eq_of_before hcolon hu hu'

/-- Settings that ask for encryption and whose address does not start with the plain scheme. -/
def KeepsEncryption (s : RedisSettings) : Prop :=
  s.tls = true → ¬ plainScheme <+: s.url.toList

lemma toList_encrypted (url : String) : (encrypted url).toList =
    if plainScheme.isPrefixOf url.toList then
      encryptedScheme ++ url.toList.drop plainScheme.length
    else url.toList := by
  have hencrypted : encrypted url = if plainScheme.isPrefixOf url.toList then
      String.ofList (encryptedScheme ++ url.toList.drop plainScheme.length) else url := rfl
  rw [hencrypted, apply_ite String.toList, String.toList_ofList]

lemma not_prefix_encrypted (url : String) : ¬ plainScheme <+: (encrypted url).toList := by
  rw [toList_encrypted]
  generalize url.toList = cs
  cases h : plainScheme.isPrefixOf cs with
  | true =>
    have hdiffer : ¬ plainScheme <+: encryptedScheme ++ cs.drop plainScheme.length := by
      rw [plainScheme_eq, encryptedScheme_eq]
      simp
    rwa [if_pos rfl]
  | false =>
    rw [if_neg Bool.false_ne_true]
    rw [← List.isPrefixOf_iff_prefix, h]
    exact Bool.false_ne_true

lemma KeepsEncryption.set (h : s.KeepsEncryption) (setter : Setter) :
    (s.set setter).KeepsEncryption := by
  cases setter with
  | url url =>
    intro htls
    have hurl : (s.set (.url url)).url = encrypted url := if_pos htls
    exact hurl ▸ not_prefix_encrypted url
  | tls enabled =>
    intro htls
    have hurl : (s.set (.tls enabled)).url = encrypted s.url := if_pos htls
    exact hurl ▸ not_prefix_encrypted s.url
  | _ => exact h

lemma KeepsEncryption.setAll (h : s.KeepsEncryption) (setters : List Setter) :
    (s.setAll setters).KeepsEncryption := by
  induction setters generalizing s with
  | nil => exact h
  | cons setter setters ih => exact ih (h.set setter)

/-- How settings are made: by setters, from an environment and by setters over it, or from a document
that does not name the plain scheme. -/
inductive Made : RedisSettings → Prop
  | setters (setters : List Setter) : Made (standard.setAll setters)
  | environment (env : Environment) (setters : List Setter) :
      Made ((ofEnvironment env).setAll setters)
  | document {text : String} {s : RedisSettings} (h : read text = .ok s)
      (hurl : ¬ plainScheme <+: s.url.toList) : Made s

lemma Made.keepsEncryption (h : Made s) : s.KeepsEncryption := by
  have hstandard : standard.KeepsEncryption := nofun
  cases h with
  | setters setters => exact hstandard.setAll setters
  | environment env setters => exact (hstandard.setAll (settersOf env)).setAll setters
  | document _ hurl => exact fun _ => hurl

lemma exists_parse_of_validate (h : s.validate = .ok ()) : ∃ u, Url.parse s.url = .ok u := by
  unfold validate at h
  split at h
  · cases h
  · next u hu => exact ⟨u, hu⟩

/-- **A connection that is to be encrypted is not made under the plain scheme.** The address has to
start with its scheme in small letters and two slashes. -/
theorem tls_excludes_plain_scheme (hmade : Made s) (htls : s.tls = true)
    (hvalid : s.validate = .ok ())
    (hwritten : ∀ u, Url.parse s.url = .ok u → u.scheme ++ [':', '/', '/'] <+: s.url.toList) :
    ∀ u, Url.parse s.connectionUrl = .ok u → u.scheme ≠ "redis".toList := by
  intro u' hu' hplain
  obtain ⟨u, hu⟩ := exists_parse_of_validate hvalid
  have hscheme := scheme_connectionUrl hu hu'
  have hprefix := hwritten u hu
  rw [← hscheme, hplain] at hprefix
  exact hmade.keepsEncryption htls hprefix

/-- An address given after encryption was asked for, with credentials. -/
theorem tls_excludes_plain_scheme_after_setters :
    let s := standard.setAll [.tls true, .url "redis://cache:6379", .password "secret"]
    (s.tls = true ∧ s.validate = .ok ()) ∧
      ∀ u, Url.parse s.connectionUrl = .ok u → u.scheme ≠ "redis".toList := by
  intro s
  have hvalid : s.validate = .ok () := by decide +kernel
  refine ⟨⟨rfl, hvalid⟩, tls_excludes_plain_scheme (.setters _) rfl hvalid fun u hu => ?_⟩
  have hurl : s.url = "rediss://cache:6379" := by decide +kernel
  have hparse : (Url.parse s.url).map (·.scheme) = .ok "rediss".toList := by decide +kernel
  have hscheme : u.scheme = "rediss".toList := by
    rw [hu] at hparse
    exact Except.ok.inj hparse
  rw [hscheme, hurl]
  decide

/-- A document may ask for encryption and still name the plain scheme. -/
theorem tls_of_document_unused :
    ∃ s u, read "\x7b\"url\":\"redis://cache:6379\",\"tls\":true\x7d" = .ok s ∧ s.tls = true ∧
      s.validate = .ok () ∧ Url.parse s.connectionUrl = .ok u ∧ u.scheme = "redis".toList := by
  exact ⟨_, _, rfl, rfl, rfl, rfl, rfl⟩

end scheme

end LeaseLock.RedisSettings
