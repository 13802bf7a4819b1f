import Mathlib.Data.List.Infix
import Mathlib.Tactic.Common
import LeaseLock.Proofs.Settings.Credentials
import LeaseLock.Proofs.Url.Places

/-!
What the address that a connection is made to says.

The address in the settings is `Written` if it is a scheme, a place and what comes after it, with
nothing to be cleaned away; credentials and a database are then put around the place. They are read
as the settings give them if they are `Literal`, so that they can stand in an address as they are.
-/

namespace LeaseLock.RedisSettings

/-! ### Written addresses -/

/-- An address that starts with one of the two schemes, in small letters; the other one is `other`.
Then comes a place without an at-sign, and what comes after a place. -/
structure Written (url own other place tail : List Char) : Prop where
  scheme : own = plainScheme ∧ other = encryptedScheme ∨ own = encryptedScheme ∧ other = plainScheme
  chars : url = own ++ (place ++ tail)
  counts : ∀ c ∈ place ++ tail, Url.counts c = true
  last : ∀ c ∈ (place ++ tail).getLast?, Url.isBlank c = false
  named : place ≠ []
  place : ∀ c ∈ place, c ∉ ['/', '?', '#', '@', '\\']
  tail : ∀ c ∈ tail.head?, Url.endsAuthority false c = true

/-- A text that can stand in credentials as it is: it neither ends an authority nor is cleaned, and
holds no escapes. -/
structure Literal (cs : List Char) : Prop where
  inside : ∀ c ∈ cs, Url.endsAuthority false c = false ∧ Url.counts c = true
  decoded : Url.percentDecode cs = Url.bytes cs

section addresses

variable {url own other place tail cs : List Char} {s : RedisSettings}

/-- The scheme that an address has for what it starts with. -/
def schemeOf (own : List Char) : List Char := own.take (own.length - 3)

/-! ### Parsing -/

lemma Written.endsAuthority (h : Written url own other place tail) :
    ∀ c ∈ place, Url.endsAuthority false c = false := by
  intro c hc
  have hplace := h.place c hc
  simp only [List.mem_cons, List.not_mem_nil, or_false, not_or] at hplace
  simp [Url.endsAuthority, hplace]

lemma Written.not_mem_place (h : Written url own other place tail) {c : Char}
    (hc : c ∈ ['/', '?', '#', '@', '\\']) : c ∉ place := fun hmem => h.place c hmem hc

/-- A clean text after one of the two schemes is parsed as an authority and what comes after it. -/
lemma Written.parseChars (h : Written url own other place tail)
    (hcounts : ∀ c ∈ cs, Url.counts c = true) (hlast : ∀ c ∈ cs.getLast?, Url.isBlank c = false) :
    Url.parseChars (own ++ cs) = Url.parseAuthority (schemeOf own) false cs := by
  have hclean : Url.clean (own ++ cs) = own ++ cs := by
    refine Url.clean_of_counts ?_ (fun c hc => ?_) (fun c hc => ?_)
    · rcases h.scheme with ⟨rfl, -⟩ | ⟨rfl, -⟩ <;> (rintro c hc; cases hc; rfl)
    · rw [List.getLast?_append] at hc
      cases hcs : cs.getLast? with
      | none =>
        rw [hcs] at hc
        rcases h.scheme with ⟨rfl, -⟩ | ⟨rfl, -⟩ <;> (cases hc; rfl)
      | some d =>
        rw [hcs] at hc
        obtain rfl : d = c := by simpa using hc
        exact hlast d hcs
    · rcases List.mem_append.mp hc with hown | hcs
      · have hall : own.all Url.counts = true := by
          rcases h.scheme with ⟨rfl, -⟩ | ⟨rfl, -⟩ <;> decide
        exact List.all_eq_true.mp hall c hown
      · exact hcounts c hcs
  rw [Url.parseChars, hclean]
  rcases h.scheme with ⟨rfl, -⟩ | ⟨rfl, -⟩ <;> rfl

/-! ### Putting credentials in -/

/-- A pattern with a slash, but no at-sign, does not start in credentials. -/
lemma not_start_credentials {pattern credentials rest : List Char} (hslash : '/' ∈ pattern)
    (hat : '@' ∉ pattern) (hcredentials : '/' ∉ credentials) :
    ¬ pattern <+: credentials ++ '@' :: rest := by
  rintro ⟨tail, htail⟩
  rcases List.append_eq_append_iff.mp htail with ⟨front, hfront, -⟩ | ⟨back, hback, hrest⟩
  · exact hcredentials (hfront ▸ List.mem_append_left front hslash)
  · cases back with
    | nil =>
      rw [List.append_nil] at hback
      exact hcredentials (hback ▸ hslash)
    | cons c back =>
      obtain rfl : '@' = c := (List.cons.inj hrest).1
      exact hat (hback ▸ List.mem_append_right _ List.mem_cons_self)

lemma absent_credentials {pattern credentials rest : List Char} (hslash : '/' ∈ pattern)
    (hat : '@' ∉ pattern) (hcredentials : '/' ∉ credentials) (hrest : ¬ pattern <:+: rest) :
    ¬ pattern <:+: credentials ++ '@' :: rest := by
  induction credentials with
  | nil =>
    rw [List.nil_append, List.infix_cons_iff, not_or]
    exact ⟨not_start_credentials hslash hat hcredentials, hrest⟩
  | cons c credentials ih =>
    rw [List.cons_append, List.infix_cons_iff, not_or]
    exact ⟨not_start_credentials hslash hat hcredentials,
      ih fun hmem => hcredentials (List.mem_cons_of_mem c hmem)⟩

/-- Credentials without a slash come right before the place. -/
lemma Written.withCredentials (h : Written url own other place tail) {credentials : List Char}
    (hcredentials : '/' ∉ credentials) (hother : ¬ other <:+: place ++ tail) :
    withCredentials url (credentials ++ ['@']) = own ++ (credentials ++ '@' :: (place ++ tail)) := by
  have hnonempty : credentials ++ ['@'] ≠ [] := by simp
  have hassoc : credentials ++ '@' :: (place ++ tail) = (credentials ++ ['@']) ++ (place ++ tail) := by
    simp
  rw [h.chars, hassoc]
  rcases h.scheme with ⟨rfl, rfl⟩ | ⟨rfl, rfl⟩
  · rw [withCredentials_plain_iff hnonempty, ← hassoc]
    exact absent_credentials (by decide) (by decide) hcredentials hother
  · exact (withCredentials_encrypted_iff hnonempty).mpr hother

/-- Slashes after a place are dropped. -/
lemma Written.trimSlashes (h : Written url own other place tail) (htail : ∀ c ∈ tail, c = '/')
    (front : List Char) : trimSlashes (front ++ (place ++ tail)) = front ++ place := by
  obtain ⟨start, c, rfl⟩ : ∃ start c, place = start ++ [c] := by
    rcases List.eq_nil_or_concat place with hnil | ⟨start, c, hconcat⟩
    · exact (h.named hnil).elim
    · exact ⟨start, c, by simpa using hconcat⟩
  have hc : (c == '/') = false := by
    have hslash : '/' ∉ start ++ [c] := h.not_mem_place (by simp)
    simp only [List.mem_append, List.mem_singleton, not_or] at hslash
    simpa using fun heq : c = '/' => hslash.2 heq.symm
  have hdrop : tail.reverse.dropWhile (· == '/') = [] := by
    rw [List.dropWhile_eq_nil_iff]
    intro x hx
    simpa using htail x (List.mem_reverse.mp hx)
  have hassoc : front ++ (start ++ [c] ++ tail) = (front ++ start) ++ c :: tail := by simp
  rw [hassoc, RedisSettings.trimSlashes, Url.trimEnd_append (p := (· == '/')) hc, hdrop]
  simp

/-! ### What the settings say -/

/-- The name that a password goes with. -/
def user (s : RedisSettings) : List Char := (s.username.getD "").toList

/-- What comes after the place in the address that a connection is made to. -/
def after (s : RedisSettings) (tail : List Char) : List Char :=
  match s.database with
  | some n => '/' :: Text.digits n.toNat
  | none => tail

/-- The credentials that the settings give. -/
def credentials (s : RedisSettings) : Url.Credentials :=
  match s.password with
  | some word => .ofText (s.user ++ ':' :: word.toList)
  | none => .none

/-- What stands before the place in the address that a connection is made to. -/
def beforePlace (s : RedisSettings) : List Char :=
  match s.password with
  | some word => s.user ++ ':' :: word.toList ++ ['@']
  | none => []

/-- Whether the credentials can stand in an address as they are. -/
def CredentialsFit (s : RedisSettings) (other cs : List Char) : Prop :=
  ∀ word ∈ s.password, Literal s.user ∧ ':' ∉ s.user ∧ Literal word.toList ∧ ¬ other <:+: cs

lemma Literal.not_mem {c : Char} (h : Literal cs) (hc : Url.endsAuthority false c = true) :
    c ∉ cs := by
  intro hmem
  have hinside := (h.inside c hmem).1
  rw [hc] at hinside
  cases hinside

lemma Written.connectionChars (h : Written s.url.toList own other place tail)
    (hfit : s.CredentialsFit other (place ++ tail))
    (htail : s.database.isSome → ∀ c ∈ tail, c = '/') :
    s.connectionChars = own ++ (s.beforePlace ++ (place ++ s.after tail)) := by
  have hcredentialed : s.credentialed = own ++ (s.beforePlace ++ (place ++ tail)) := by
    unfold credentialed credentials? beforePlace
    cases hword : s.password with
    | none => exact h.chars
    | some word =>
      obtain ⟨huser, -, hliteral, hother⟩ := hfit word hword
      have hslash : '/' ∉ s.user ++ ':' :: word.toList := by
        have huserSlash := huser.not_mem (c := '/') rfl
        have hwordSlash := hliteral.not_mem (c := '/') rfl
        simp [huserSlash, hwordSlash]
      have hput := h.withCredentials hslash hother
      simpa [user] using hput
  rw [connectionChars_eq, hcredentialed]
  unfold withDatabase after
  cases hdatabase : s.database with
  | none => rfl
  | some n =>
    have htrim := h.trimSlashes (htail (by simp [hdatabase])) (own ++ s.beforePlace)
    simp only [← List.append_assoc] at htrim ⊢
    rw [htrim]

lemma Written.head?_after (h : Written url own other place tail) (s : RedisSettings) :
    ∀ c ∈ (s.after tail).head?, Url.endsAuthority false c = true := by
  unfold after
  cases s.database with
  | none => exact h.tail
  | some n =>
    rintro c hc
    cases hc
    rfl

lemma Written.counts_after (h : Written url own other place tail) (s : RedisSettings) :
    ∀ c ∈ place ++ s.after tail, Url.counts c = true := by
  unfold after
  cases s.database with
  | none => exact h.counts
  | some n =>
    intro c hc
    rcases List.mem_append.mp hc with hplace | hdigits
    · exact h.counts c (List.mem_append_left tail hplace)
    · rcases List.mem_cons.mp hdigits with rfl | hdigit
      · rfl
      · exact Url.counts_of_isAlphanum (Url.isAlphanum_of_mem_digits hdigit)

lemma Written.last_after (h : Written url own other place tail) (s : RedisSettings)
    (front : List Char) :
    ∀ c ∈ (front ++ (place ++ s.after tail)).getLast?, Url.isBlank c = false := by
  have hsome : (place ++ s.after tail).getLast? ≠ none := by
    simp [List.getLast?_eq_none_iff, h.named]
  obtain ⟨last, hlast⟩ := Option.ne_none_iff_exists'.mp hsome
  have hblank : Url.isBlank last = false := by
    unfold after at hlast
    cases hdatabase : s.database with
    | none =>
      rw [hdatabase] at hlast
      exact h.last last hlast
    | some n =>
      rw [hdatabase] at hlast
      obtain ⟨d, ds, hdigits, -⟩ := Text.exists_digits n.toNat
      have hdigit : last ∈ Text.digits n.toNat := by
        simp only [hdigits] at hlast ⊢
        refine List.mem_of_getLast? ?_
        simpa [List.getLast?_append, List.getLast?_cons_cons] using hlast
      exact Url.isBlank_of_isAlphanum (Url.isAlphanum_of_mem_digits hdigit)
  intro c hc
  rw [List.getLast?_append, hlast] at hc
  obtain rfl : last = c := by simpa using hc
  exact hblank

lemma CredentialsFit.counts_beforePlace (h : s.CredentialsFit other cs) :
    ∀ c ∈ s.beforePlace, Url.counts c = true := by
  unfold beforePlace
  cases hword : s.password with
  | none => nofun
  | some word =>
    obtain ⟨huser, -, hliteral, -⟩ := h word hword
    intro c hc
    simp only [List.mem_append, List.mem_cons, List.not_mem_nil, or_false] at hc
    rcases hc with (hc | rfl | hc) | rfl
    exacts [(huser.inside c hc).2, rfl, (hliteral.inside c hc).2, rfl]

/-- The address that a connection is made to is the one of the place, with the credentials and the
path that the settings give. -/
lemma Written.parse_connectionUrl (h : Written s.url.toList own other place tail)
    (hfit : s.CredentialsFit other (place ++ tail))
    (htail : s.database.isSome → ∀ c ∈ tail, c = '/') :
    Url.parse s.connectionUrl =
      Url.ofPlace (schemeOf own) false (s.after tail) s.credentials place := by
  have hat : '@' ∉ place := h.not_mem_place (by simp)
  have hcounts : ∀ c ∈ s.beforePlace ++ (place ++ s.after tail), Url.counts c = true := by
    intro c hc
    rcases List.mem_append.mp hc with hbefore | hafter
    · exact hfit.counts_beforePlace c hbefore
    · exact h.counts_after s c hafter
  rw [Url.parse, connectionUrl, String.toList_ofList, h.connectionChars hfit htail,
    h.parseChars hcounts (h.last_after s _)]
  unfold beforePlace credentials
  cases hword : s.password with
  | none => exact Url.parseAuthority_place h.endsAuthority (h.head?_after s) hat
  | some word =>
    obtain ⟨huser, -, hliteral, -⟩ := hfit word hword
    have hparse : Url.parseAuthority (schemeOf own) false
        (s.user ++ ':' :: word.toList ++ '@' :: (place ++ s.after tail)) =
        Url.ofPlace (schemeOf own) false (s.after tail) (.ofText (s.user ++ ':' :: word.toList))
          place :=
      Url.parseAuthority_credentials h.endsAuthority (h.head?_after s) hat
        (fun c hc => (huser.inside c hc).1) (fun c hc => (hliteral.inside c hc).1)
    simpa using hparse

lemma Written.parse_url (h : Written s.url.toList own other place tail) :
    Url.parse s.url = Url.ofPlace (schemeOf own) false tail .none place := by
  have hat : '@' ∉ place := h.not_mem_place (by simp)
  rw [Url.parse, h.chars, h.parseChars h.counts h.last]
  exact Url.parseAuthority_place h.endsAuthority h.tail hat

/-- The credentials are read as they are given. -/
lemma decoded_credentials (hfit : s.CredentialsFit other cs) {word : String}
    (hword : s.password = some word) :
    Url.percentDecode (s.credentials.password.getD []) = Url.bytes word.toList ∧
      Url.percentDecode s.credentials.username = Url.bytes s.user := by
  obtain ⟨huser, hcolon, hliteral, -⟩ := hfit word hword
  unfold credentials
  simp only [hword, Url.Credentials.ofText_pair hcolon]
  refine ⟨?_, by rw [Url.percentDecode_userinfo, huser.decoded]⟩
  split
  · next hempty =>
    rw [List.isEmpty_iff.mp hempty]
    rfl
  · exact (Url.percentDecode_userinfo word.toList).trans hliteral.decoded

/-- **The address that a connection is made to says what the settings say.** -/
theorem connectionUrl_says_settings (hvalid : s.validate = .ok ())
    (hwritten : Written s.url.toList own other place tail)
    (hfit : s.CredentialsFit other (place ++ tail))
    (htail : s.database.isSome → ∀ c ∈ tail, c = '/') :
    ∃ u u', Url.parse s.url = .ok u ∧ Url.parse s.connectionUrl = .ok u' ∧
      u'.scheme = u.scheme ∧ u'.host = u.host ∧ u'.port = u.port ∧
      u'.query = u.query ∧ u'.fragment = u.fragment ∧
      (∀ word ∈ s.password, Url.percentDecode (u'.password.getD []) = Url.bytes word.toList ∧
        Url.percentDecode u'.username = Url.bytes (s.username.getD "").toList) ∧
      ∀ n ∈ s.database, u'.path = '/' :: Text.digits n.toNat := by
  obtain ⟨u, hu⟩ := exists_parse_of_validate hvalid
  have hplace := hwritten.parse_url ▸ hu
  have hcredentials := Url.ofPlace_credentials hplace (Url.ofPlace_host hplace hwritten.named)
    s.credentials
  have hparse := hwritten.parse_connectionUrl hfit htail
  cases hdatabase : s.database with
  | none =>
    rw [after, hdatabase, hcredentials] at hparse
    refine ⟨u, _, hu, hparse, rfl, rfl, rfl, rfl, rfl, ?_, nofun⟩
    exact fun word hword => decoded_credentials hfit hword
  | some n =>
    have hback : '\\' ∉ place := hwritten.not_mem_place (by simp)
    have htailPath : ∀ c ∈ tail, Url.endsPath c = false := fun c hc => by
      rw [htail (by simp [hdatabase]) c hc]
      rfl
    have hdigitsPath : ∀ c ∈ '/' :: Text.digits n.toNat, Url.endsPath c = false := by
      intro c hc
      rcases List.mem_cons.mp hc with rfl | hdigit
      · rfl
      · simp [Url.endsPath, Url.ne_of_isAlphanum (Url.isAlphanum_of_mem_digits hdigit)]
    have hpath := Url.ofPlace_path hcredentials hback htailPath hdigitsPath
      (Url.pathAfterAuthority_digits n.toNat)
    rw [after, hdatabase, hpath] at hparse
    refine ⟨u, _, hu, hparse, rfl, rfl, rfl, rfl, rfl, ?_, ?_⟩
    · exact fun word hword => decoded_credentials hfit hword
    · rintro m hm
      cases hm
      rfl

/-- Credentials and a database for an address that ends in a slash. -/
theorem connectionUrl_says_settings_of_user :
    let s := { ofUrl "rediss://cache:6379/" with
      username := some "locker", password := some "s3cr@t:", database := some 2 }
    (s.validate = .ok () ∧ Written s.url.toList encryptedScheme plainScheme "cache:6379".toList ['/'] ∧
      s.CredentialsFit plainScheme ("cache:6379".toList ++ ['/']) ∧
      (s.database.isSome → ∀ c ∈ ['/'], c = '/')) ∧
    ∃ u u', Url.parse s.url = .ok u ∧ Url.parse s.connectionUrl = .ok u' ∧
      u'.scheme = u.scheme ∧ u'.host = u.host ∧ u'.port = u.port ∧
      u'.query = u.query ∧ u'.fragment = u.fragment ∧
      (∀ word ∈ s.password, Url.percentDecode (u'.password.getD []) = Url.bytes word.toList ∧
        Url.percentDecode u'.username = Url.bytes (s.username.getD "").toList) ∧
      ∀ n ∈ s.database, u'.path = '/' :: Text.digits n.toNat := by
  intro s
  have hvalid : s.validate = .ok () := by decide +kernel
  have hwritten : Written s.url.toList encryptedScheme plainScheme "cache:6379".toList ['/'] :=
    ⟨.inr ⟨rfl, rfl⟩, by decide, List.all_eq_true.mp (by decide), fun c hc => by cases hc; rfl,
      by decide, by simp, fun c hc => by cases hc; rfl⟩
  have huser : Literal "locker".toList := ⟨by simp [Url.endsAuthority, Url.counts], by decide⟩
  have hpassword : Literal "s3cr@t:".toList := ⟨by simp [Url.endsAuthority, Url.counts], by decide⟩
  have hfit : s.CredentialsFit plainScheme ("cache:6379".toList ++ ['/']) := by
    rintro word hword
    cases hword
    exact ⟨huser, by decide, hpassword, by decide⟩
  have hslash : s.database.isSome → ∀ c ∈ ['/'], c = '/' := fun _ c => List.mem_singleton.mp
  exact ⟨⟨hvalid, hwritten, hfit, hslash⟩,
    connectionUrl_says_settings hvalid hwritten hfit hslash⟩

/-- A database goes to the end of a query, and a password with a slash makes an address that is
none. -/
theorem connectionUrl_misses_settings :
    let queried := { ofUrl "redis://cache:6379?x=1" with database := some 2 }
    let slashed := { ofUrl "redis://cache:6379" with password := some "p/w" }
    (queried.validate = .ok () ∧
      (Url.parse queried.url).map (fun u => (u.scheme, u.username, u.password, u.query)) =
        .ok ("redis".toList, [], none, some "x=1".toList) ∧
      (Url.parse queried.connectionUrl).map (fun u => (u.path, u.query)) =
        .ok ([], some "x=1/2".toList)) ∧
    slashed.validate = .ok () ∧
      (Url.parse slashed.url).map (fun u => (u.scheme, u.username, u.password)) =
        .ok ("redis".toList, [], none) ∧
      Url.parse slashed.connectionUrl = .error .emptyHost := by
  decide +kernel

end addresses
end LeaseLock.RedisSettings
