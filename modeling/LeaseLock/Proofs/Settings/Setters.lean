import Mathlib.Data.List.Induction
import LeaseLock.Proofs.Settings.Encryption

/-!
What the order of setters does to the settings of a connection.

For everything but the address it is the last value given that counts. The address is the last one
given too, but under the encrypted scheme as soon as encryption was on at some moment since then, also
if it was turned off later. So setters with the same last values make the same settings if and only if
they agree in this, or have an address that is no different when encrypted.
-/

namespace LeaseLock.RedisSettings

/-! ### Last values -/

/-- What there is to set. -/
inductive Kind
  | url
  | connectionTimeout
  | commandTimeout
  | database
  | username
  | password
  | tls
  | connectionName
  deriving DecidableEq

def Setter.kind : Setter → Kind
  | .url _ => .url
  | .connectionTimeout _ => .connectionTimeout
  | .commandTimeout _ => .commandTimeout
  | .database _ => .database
  | .username _ => .username
  | .password _ => .password
  | .tls _ => .tls
  | .connectionName _ => .connectionName

/-- The last setter of a kind, if there is one. -/
def last? (kind : Kind) (setters : List Setter) : Option Setter :=
  (setters.filter (·.kind = kind)).getLast?

/-- The setter of a kind that says what the settings have, if they have anything. -/
def shown (s : RedisSettings) : Kind → Option Setter
  | .url => some (.url s.url)
  | .connectionTimeout => some (.connectionTimeout s.connectionTimeout)
  | .commandTimeout => some (.commandTimeout s.commandTimeout)
  | .database => s.database.map .database
  | .username => s.username.map .username
  | .password => s.password.map .password
  | .tls => some (.tls s.tls)
  | .connectionName => s.connectionName.map .connectionName

variable {s s' : RedisSettings} {setters setters' : List Setter} {setter : Setter} {kind : Kind}

lemma setAll_snoc (s : RedisSettings) (setters : List Setter) (setter : Setter) :
    s.setAll (setters ++ [setter]) = (s.setAll setters).set setter := by
  simp [setAll]

lemma last?_snoc (kind : Kind) (setters : List Setter) (setter : Setter) :
    last? kind (setters ++ [setter]) =
      if setter.kind = kind then some setter else last? kind setters := by
  unfold last?
  rw [List.filter_append]
  by_cases hkind : setter.kind = kind
  · simp [hkind]
  · simp [hkind]

/-- A setter changes what it is of, and the address with it if it is about encryption. -/
lemma shown_set (s : RedisSettings) (setter : Setter) (hkind : kind ≠ .url) :
    (s.set setter).shown kind = if setter.kind = kind then some setter else s.shown kind := by
  cases kind with
  | url => exact (hkind rfl).elim
  | _ => cases setter <;> rfl

/-- **Of everything but the address the last value counts.** -/
theorem shown_setAll (s : RedisSettings) (setters : List Setter) (hkind : kind ≠ .url) :
    (s.setAll setters).shown kind = (last? kind setters).or (s.shown kind) := by
  induction setters using List.reverseRecOn with
  | nil => rfl
  | append_singleton setters setter ih =>
    rw [setAll_snoc, shown_set _ _ hkind, last?_snoc, ih]
    split <;> rfl

/-- Settings that show the same and have the same address are the same. -/
lemma eq_of_shown (hshown : ∀ kind ≠ .url, s.shown kind = s'.shown kind) (hurl : s.url = s'.url) :
    s = s' := by
  have hconnection := Setter.connectionTimeout.inj
    (Option.some.inj (hshown .connectionTimeout (by decide)))
  have hcommand := Setter.commandTimeout.inj (Option.some.inj (hshown .commandTimeout (by decide)))
  have hdatabase := Option.map_injective (fun _ _ => Setter.database.inj)
    (hshown .database (by decide))
  have husername := Option.map_injective (fun _ _ => Setter.username.inj)
    (hshown .username (by decide))
  have hpassword := Option.map_injective (fun _ _ => Setter.password.inj)
    (hshown .password (by decide))
  have htls := Setter.tls.inj (Option.some.inj (hshown .tls (by decide)))
  have hname := Option.map_injective (fun _ _ => Setter.connectionName.inj)
    (hshown .connectionName (by decide))
  cases s
  cases s'
  simp_all

/-! ### The address -/

/-- Encryption is on at some moment since the last address was given: no address comes after the
moment, and the last that was said of encryption before it asks for it. -/
def EncryptedSince (setters : List Setter) : Prop :=
  ∃ before after, setters = before ++ after ∧ (∀ setter ∈ after, setter.kind ≠ .url) ∧
    last? .tls before = some (.tls true)

/-- The last address given, or else the standard one. -/
def lastUrl (setters : List Setter) : String :=
  match last? .url setters with
  | some (.url url) => url
  | _ => standard.url

lemma EncryptedSince.of_last (h : last? .tls setters = some (.tls true)) :
    EncryptedSince setters :=
  ⟨setters, [], (List.append_nil _).symm, nofun, h⟩

/-- Encryption is on since the last address if it is on at last, or was on already and no other
address came. -/
lemma encryptedSince_snoc : EncryptedSince (setters ++ [setter]) ↔
    last? .tls (setters ++ [setter]) = some (.tls true) ∨
      setter.kind ≠ .url ∧ EncryptedSince setters := by
  constructor
  · rintro ⟨before, after, hsplit, hafter, hlast⟩
    rcases List.eq_nil_or_concat after with rfl | ⟨start, final, rfl⟩
    · rw [List.append_nil] at hsplit
      exact .inl (hsplit ▸ hlast)
    · rw [List.concat_eq_append, ← List.append_assoc] at hsplit
      obtain ⟨rfl, hfinal⟩ := List.append_inj' hsplit rfl
      obtain rfl : setter = final := by simpa using hfinal
      refine .inr ⟨hafter setter (by simp), before, start, rfl, fun x hx => hafter x ?_, hlast⟩
      simp [hx]
  · rintro (hlast | ⟨hkind, before, after, rfl, hafter, hlast⟩)
    · exact .of_last hlast
    · refine ⟨before, after ++ [setter], List.append_assoc .., fun x hx => ?_, hlast⟩
      rcases List.mem_append.mp hx with hx | hx
      · exact hafter x hx
      · exact List.mem_singleton.mp hx ▸ hkind

lemma encrypted_of_not_prefix {url : String} (h : ¬ plainScheme <+: url.toList) :
    encrypted url = url := by
  rw [← List.isPrefixOf_iff_prefix] at h
  exact if_neg h

@[simp] lemma encrypted_encrypted (url : String) : encrypted (encrypted url) = encrypted url :=
  encrypted_of_not_prefix (not_prefix_encrypted url)

/-- An address is no other when encrypted if and only if it does not have the plain scheme. -/
lemma encrypted_eq_self {url : String} : encrypted url = url ↔ ¬ plainScheme <+: url.toList := by
  refine ⟨fun h => ?_, encrypted_of_not_prefix⟩
  rw [← h]
  exact not_prefix_encrypted url

lemma tls_setAll (setters : List Setter) :
    (standard.setAll setters).tls = true ↔ last? .tls setters = some (.tls true) := by
  have htls : Kind.tls ≠ .url := by decide
  have hshown : some (Setter.tls (standard.setAll setters).tls) =
      (last? .tls setters).or (some (.tls false)) := shown_setAll standard setters htls
  cases hlast : last? .tls setters with
  | none =>
    rw [hlast] at hshown
    simpa using hshown
  | some setter =>
    rw [hlast, Option.some_or, Option.some.injEq] at hshown
    simp [← hshown]

lemma lastUrl_snoc_of_ne (h : setter.kind ≠ .url) :
    lastUrl (setters ++ [setter]) = lastUrl setters := by
  rw [lastUrl, last?_snoc, if_neg h]
  rfl

lemma encryptedSince_snoc_of_ne (hurl : setter.kind ≠ .url) (htls : setter.kind ≠ .tls) :
    EncryptedSince (setters ++ [setter]) ↔ EncryptedSince setters := by
  rw [encryptedSince_snoc, last?_snoc, if_neg htls]
  exact ⟨fun h => h.elim .of_last (·.2), fun h => .inr ⟨hurl, h⟩⟩

/-- The address is the last one given, encrypted if encryption was on since then. -/
lemma url_setAll (setters : List Setter) :
    (EncryptedSince setters → (standard.setAll setters).url = encrypted (lastUrl setters)) ∧
      (¬ EncryptedSince setters → (standard.setAll setters).url = lastUrl setters) := by
  induction setters using List.reverseRecOn with
  | nil =>
    refine ⟨?_, fun _ => rfl⟩
    rintro ⟨before, after, hsplit, -, hlast⟩
    obtain ⟨rfl, -⟩ := List.append_eq_nil_iff.mp hsplit.symm
    cases hlast
  | append_singleton setters setter ih =>
    rw [setAll_snoc]
    cases setter with
    | url url =>
      have hsince : EncryptedSince (setters ++ [.url url]) ↔
          (standard.setAll setters).tls = true := by
        rw [encryptedSince_snoc, tls_setAll, last?_snoc]
        simp [Setter.kind]
      have hlast : lastUrl (setters ++ [.url url]) = url := by
        rw [lastUrl, last?_snoc]
        rfl
      rw [hsince, hlast]
      exact ⟨fun h => if_pos h, fun h => if_neg h⟩
    | tls enabled =>
      have hsince : EncryptedSince (setters ++ [.tls enabled]) ↔
          enabled = true ∨ EncryptedSince setters := by
        rw [encryptedSince_snoc, last?_snoc]
        simp [Setter.kind]
      rw [hsince, lastUrl_snoc_of_ne (by simp [Setter.kind])]
      cases enabled with
      | false => simpa [set] using ih
      | true =>
        have hurl : ((standard.setAll setters).set (.tls true)).url =
            encrypted (standard.setAll setters).url := rfl
        refine ⟨fun _ => ?_, fun h => (h (.inl rfl)).elim⟩
        by_cases h : EncryptedSince setters
        · rw [hurl, ih.1 h, encrypted_encrypted]
        · rw [hurl, ih.2 h]
    | _ =>
      rw [encryptedSince_snoc_of_ne (by simp [Setter.kind]) (by simp [Setter.kind]),
        lastUrl_snoc_of_ne (by simp [Setter.kind])]
      exact ih

/-- **The last values decide all settings but the address, and the address up to encryption.** If two
lists of setters agree in the last value of each kind, then what they make differs in the address at
most. It does not differ there if and only if encryption was on since the last address in both or in
neither, or the address is no other when encrypted. -/
theorem last_values_decide (hsame : ∀ kind, last? kind setters = last? kind setters') :
    (∀ kind ≠ .url,
      (standard.setAll setters).shown kind = (standard.setAll setters').shown kind) ∧
    (standard.setAll setters = standard.setAll setters' ↔
      (plainScheme <+: (lastUrl setters).toList →
        (EncryptedSince setters ↔ EncryptedSince setters'))) := by
  have hshown : ∀ kind ≠ .url,
      (standard.setAll setters).shown kind = (standard.setAll setters').shown kind := by
    intro kind hkind
    rw [shown_setAll _ _ hkind, shown_setAll _ _ hkind, hsame]
  have hlast : lastUrl setters' = lastUrl setters := by rw [lastUrl, lastUrl, hsame]
  refine ⟨hshown, ?_⟩
  obtain ⟨hin, hout⟩ := url_setAll setters
  obtain ⟨hin', hout'⟩ := url_setAll setters'
  rw [hlast] at hin' hout'
  have hurl : standard.setAll setters = standard.setAll setters' ↔
      (standard.setAll setters).url = (standard.setAll setters').url :=
    ⟨congrArg url, eq_of_shown hshown⟩
  have hself : encrypted (lastUrl setters) = lastUrl setters ↔
      ¬ plainScheme <+: (lastUrl setters).toList := encrypted_eq_self
  rw [hurl]
  by_cases h : EncryptedSince setters <;> by_cases h' : EncryptedSince setters'
  · simp [hin h, hin' h', h, h']
  · simp [hin h, hout' h', h, h', hself]
  · simp [hout h, hin' h', h, h', hself, eq_comm (b := encrypted _)]
  · simp [hout h, hout' h', h, h']

/-- Encryption is asked for before and after the address, and an address before it was another one. -/
theorem last_values_decide_encrypted :
    let setters := [.tls true, .url "redis://old:6379", .password "secret", .tls false,
      .url "redis://cache:6379", .tls true]
    let setters' := [.tls true, .url "redis://cache:6379", .password "secret"]
    (∀ kind, last? kind setters = last? kind setters') ∧
      standard.setAll setters = standard.setAll setters' := by
  intro setters setters'
  have hsame : ∀ kind, last? kind setters = last? kind setters' := by
    intro kind
    cases kind <;> rfl
  have hsince : EncryptedSince setters := .of_last rfl
  have hsince' : EncryptedSince setters' := .of_last rfl
  exact ⟨hsame, (last_values_decide hsame).2.mpr fun _ => iff_of_true hsince hsince'⟩

/-- An address that was given while encryption was on stays encrypted, though its own last value and
that of encryption are those of an address that is not. -/
theorem overwritten_encryption_stays :
    let setters := [.tls true, .url "redis://cache:6379", .tls false]
    let setters' := [.url "redis://cache:6379", .tls false]
    (∀ kind, last? kind setters = last? kind setters') ∧
      (standard.setAll setters).url = "rediss://cache:6379" ∧
      (standard.setAll setters').url = "redis://cache:6379" ∧
      standard.setAll setters ≠ standard.setAll setters' := by
  intro setters setters'
  have hsame : ∀ kind, last? kind setters = last? kind setters' := by
    intro kind
    cases kind <;> rfl
  exact ⟨hsame, by decide +kernel, by decide +kernel, by decide +kernel⟩

end LeaseLock.RedisSettings
