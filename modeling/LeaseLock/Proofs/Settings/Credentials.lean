import Mathlib.Tactic.Common
import LeaseLock.Proofs.Settings.Encryption

/-!
Where credentials go in the address that a connection is made to.

They are put in after the first place that reads like the plain scheme, and after that once more after
the first that reads like the encrypted one. One of the two is the start of the address. The other may
be anywhere behind it, also inside the credentials themselves if they went in first.
-/

namespace LeaseLock.RedisSettings

variable {pattern replacement added own other credentials cs : List Char}

/-! ### Replacing text -/

lemma length_replaceFirst (replacement : List Char) (h : pattern <:+: cs) :
    (replaceFirst pattern replacement cs).length + pattern.length =
      replacement.length + cs.length := by
  induction cs with
  | nil =>
    obtain rfl := List.eq_nil_of_infix_nil h
    simp [replaceFirst]
  | cons c cs ih =>
    rw [replaceFirst]
    split
    · next hstart =>
      have hle := (List.isPrefixOf_iff_prefix.mp hstart).length_le
      rw [List.length_append, List.length_drop]
      omega
    · next hstart =>
      rw [List.isPrefixOf_iff_prefix] at hstart
      have hrest := ih ((List.infix_cons_iff.mp h).resolve_left hstart)
      rw [List.length_cons, List.length_cons]
      omega

/-- Adding something after the first occurrence of a pattern leaves a text as it is if and only if the
pattern does not occur. -/
lemma replaceFirst_eq_self (hpattern : pattern ≠ []) (hadded : added ≠ []) :
    replaceFirst pattern (pattern ++ added) cs = cs ↔ ¬ pattern <:+: cs := by
  refine ⟨fun h hoccurs => ?_, replaceFirst_of_absent hpattern⟩
  have hlength := length_replaceFirst (pattern ++ added) hoccurs
  have hpos := List.length_pos_iff.mpr hadded
  rw [h, List.length_append] at hlength
  omega

/-- One scheme does not start inside the other. -/
lemma replaceFirst_skip
    (h : own = plainScheme ∧ other = encryptedScheme ∨ own = encryptedScheme ∧ other = plainScheme)
    (replacement cs : List Char) :
    replaceFirst other replacement (own ++ cs) = own ++ replaceFirst other replacement cs := by
  rcases h with ⟨rfl, rfl⟩ | ⟨rfl, rfl⟩ <;>
    simp [plainScheme_eq, encryptedScheme_eq, replaceFirst, List.isPrefixOf]

/-! ### Putting credentials in -/

/-- After the plain scheme credentials go in first, and then wherever the encrypted scheme is found in
what comes after that. -/
lemma withCredentials_plain (credentials cs : List Char) :
    withCredentials (plainScheme ++ cs) credentials = plainScheme ++
      replaceFirst encryptedScheme (encryptedScheme ++ credentials) (credentials ++ cs) := by
  have hplain : plainScheme ≠ [] := by decide
  rw [withCredentials, replaceFirst_start hplain, List.append_assoc,
    replaceFirst_skip (.inl ⟨rfl, rfl⟩)]

/-- After the encrypted scheme credentials go in last, and before that wherever the plain scheme is
found in the rest of the address. -/
lemma withCredentials_encrypted (credentials cs : List Char) :
    withCredentials (encryptedScheme ++ cs) credentials = encryptedScheme ++
      (credentials ++ replaceFirst plainScheme (plainScheme ++ credentials) cs) := by
  have hencrypted : encryptedScheme ≠ [] := by decide
  rw [withCredentials, replaceFirst_skip (.inr ⟨rfl, rfl⟩), replaceFirst_start hencrypted,
    List.append_assoc]

lemma withCredentials_plain_iff (hcredentials : credentials ≠ []) :
    withCredentials (plainScheme ++ cs) credentials = plainScheme ++ (credentials ++ cs) ↔
      ¬ encryptedScheme <:+: credentials ++ cs := by
  have hencrypted : encryptedScheme ≠ [] := by decide
  rw [withCredentials_plain, List.append_cancel_left_eq, replaceFirst_eq_self hencrypted hcredentials]

lemma withCredentials_encrypted_iff (hcredentials : credentials ≠ []) :
    withCredentials (encryptedScheme ++ cs) credentials = encryptedScheme ++ (credentials ++ cs) ↔
      ¬ plainScheme <:+: cs := by
  have hplain : plainScheme ≠ [] := by decide
  rw [withCredentials_encrypted, List.append_cancel_left_eq, List.append_cancel_left_eq,
    replaceFirst_eq_self hplain hcredentials]

/-- With a password and no database nothing but credentials is put in. -/
lemma toList_connectionUrl {s : RedisSettings} {word : String} (hword : s.password = some word)
    (hdatabase : s.database = none) : s.connectionUrl.toList =
      withCredentials s.url.toList (s.username.getD "" ++ ":" ++ word ++ "@").toList := by
  have hcredentials : s.credentials? = some (s.username.getD "" ++ ":" ++ word ++ "@").toList := by
    simp [credentials?, hword]
  rw [connectionUrl, String.toList_ofList, connectionChars_eq, hdatabase, credentialed, hcredentials]
  rfl

/-- **Credentials go in once, right after the scheme, if the other scheme is nowhere behind it.** After
the plain scheme that means the credentials too, which go in before the other scheme is looked for. -/
theorem credentials_inserted_once (s : RedisSettings) (rest word : String) :
    let credentials := s.username.getD "" ++ ":" ++ word ++ "@"
    let plain := { s with url := "redis://" ++ rest, password := some word, database := none }
    let secured := { s with url := "rediss://" ++ rest, password := some word, database := none }
    (plain.connectionUrl = "redis://" ++ credentials ++ rest ↔
      ¬ "rediss://".toList <:+: (credentials ++ rest).toList) ∧
    (secured.connectionUrl = "rediss://" ++ credentials ++ rest ↔
      ¬ "redis://".toList <:+: rest.toList) := by
  intro credentials plain secured
  have hcredentials : credentials.toList ≠ [] := by simp [credentials]
  have hplain : plain.connectionUrl.toList =
      withCredentials (plainScheme ++ rest.toList) credentials.toList := by
    rw [toList_connectionUrl rfl rfl, String.toList_append]
    rfl
  have hsecured : secured.connectionUrl.toList =
      withCredentials (encryptedScheme ++ rest.toList) credentials.toList := by
    rw [toList_connectionUrl rfl rfl, String.toList_append]
    rfl
  clear_value credentials
  constructor
  · rw [← String.toList_inj, hplain, String.toList_append, String.toList_append,
      String.toList_append, List.append_assoc]
    exact withCredentials_plain_iff hcredentials
  · rw [← String.toList_inj, hsecured, String.toList_append, String.toList_append,
      List.append_assoc]
    exact withCredentials_encrypted_iff hcredentials

/-- The other scheme in the rest of an address, in a password, and begun by a user name: each time the
credentials go in a second time. -/
theorem credentials_inserted_twice :
    let secured := { ofUrl "rediss://cache:6379?next=redis://other" with password := some "pw" }
    let plain := { ofUrl "redis://cache:6379" with password := some "rediss://" }
    let named := { ofUrl "redis://cache:6379" with username := some "rediss", password := some "//" }
    secured.connectionUrl = "rediss://:pw@cache:6379?next=redis://:pw@other" ∧
      plain.connectionUrl = "redis://:rediss://:rediss://@@cache:6379" ∧
      named.connectionUrl = "redis://rediss://rediss://@@cache:6379" := by
  decide +kernel

end LeaseLock.RedisSettings
