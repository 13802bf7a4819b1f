import Mathlib.Data.List.TakeWhile
import Mathlib.Tactic.Common
import LeaseLock.Url.Parse

/-!
The scheme of an address.

A text that is an address has its scheme before its first colon. What comes after that colon has no
part in it, so two texts that agree up to there are addresses of one scheme, if they are any.
-/

namespace LeaseLock.Url

/-! ### Cleaning -/

section cleaning

variable {cs before rest : List Char}

/-- Whether a character is dropped at either end of a text. -/
def isBlank (c : Char) : Bool := c.toNat ≤ 32

/-- Whether a character counts inside a text. -/
def counts (c : Char) : Bool := c != '\t' && c != '\n' && c != '\r'

lemma clean_eq : clean cs =
    ((cs.dropWhile isBlank).reverse.dropWhile isBlank).reverse.filter counts := rfl

/-- A text without blanks around it, line breaks and tabs is clean. -/
lemma clean_of_counts (hhead : ∀ c ∈ cs.head?, isBlank c = false)
    (hlast : ∀ c ∈ cs.getLast?, isBlank c = false) (hcounts : ∀ c ∈ cs, counts c = true) :
    clean cs = cs := by
  have hstart : cs.dropWhile isBlank = cs := by
    cases cs with
    | nil => rfl
    | cons c cs => exact List.dropWhile_cons_of_neg (by simp [hhead c rfl])
  have hend : cs.reverse.dropWhile isBlank = cs.reverse := by
    rw [← List.head?_reverse] at hlast
    cases hreverse : cs.reverse with
    | nil => rfl
    | cons c tail =>
      rw [hreverse] at hlast
      exact List.dropWhile_cons_of_neg (by simp [hlast c rfl])
  rw [clean_eq, hstart, hend, List.reverse_reverse, List.filter_eq_self]
  exact hcounts

lemma mem_of_mem_clean {c : Char} (h : c ∈ clean cs) : c ∈ cs := by
  rw [clean_eq, List.mem_filter, List.mem_reverse] at h
  have hmem := (List.dropWhile_sublist _).subset h.1
  exact (List.dropWhile_sublist _).subset (List.mem_reverse.mp hmem)

/-- What stays at the end of a text keeps what comes before it. -/
lemma trimEnd_append {p : Char → Bool} {c : Char} (hc : p c = false) (front rest : List Char) :
    ((front ++ c :: rest).reverse.dropWhile p).reverse =
      front ++ c :: (rest.reverse.dropWhile p).reverse := by
  rw [List.reverse_append, List.reverse_cons, List.append_assoc, List.dropWhile_append]
  split
  · next hempty => simp [List.isEmpty_iff.mp hempty, hc]
  · simp

/-- What is cleaned before a colon does not depend on what comes after it. -/
lemma exists_clean_colon (before rest : List Char) :
    ∃ rest', clean (before ++ ':' :: rest) =
      (before.dropWhile isBlank).filter counts ++ ':' :: rest' := by
  have hcolon : isBlank ':' = false := by decide
  have hstart : (before ++ ':' :: rest).dropWhile isBlank =
      before.dropWhile isBlank ++ ':' :: rest := by
    rw [List.dropWhile_append]
    split
    · next hempty => simp [List.isEmpty_iff.mp hempty, hcolon]
    · rfl
  refine ⟨((rest.reverse.dropWhile isBlank).reverse).filter counts, ?_⟩
  rw [clean_eq, hstart, trimEnd_append hcolon, List.filter_append, List.filter_cons_of_pos (by decide)]

end cleaning

/-! ### Schemes -/

section schemes

variable {cs before rest scheme : List Char} {u : Url}

lemma splitScheme_some (h : splitScheme cs = some (scheme, rest)) :
    ∃ word, cs = word ++ ':' :: rest ∧ ':' ∉ word ∧ scheme = word.map Char.toLower := by
  have hsplit := List.takeWhile_append_dropWhile (p := isSchemeChar) (l := cs)
  have hword : ':' ∉ cs.takeWhile isSchemeChar := by
    intro hmem
    have hscheme := List.mem_takeWhile_imp hmem
    revert hscheme
    decide
  unfold splitScheme at h
  split at h
  · next c rest' hhead hrest =>
    split at h
    · obtain ⟨rfl, rfl⟩ : (cs.takeWhile isSchemeChar).map Char.toLower = scheme ∧ rest' = rest := by
        simpa using h
      exact ⟨cs.takeWhile isSchemeChar, hrest ▸ hsplit.symm, hword, rfl⟩
    · cases h
  · cases h

/-- The host that a text is under a scheme of some kind. -/
def hostOf (isSpecial : Bool) (cs : List Char) : Except Error Host :=
  if isSpecial then specialHost cs else plainHost cs

/-- The port in what follows a host, and what is left of the authority after it. -/
def portOf (scheme cs : List Char) : Except Error (Option Nat × List Char) :=
  if cs.isEmpty then .ok (none, []) else parsePort scheme cs.tail

/-- The address that an authority without its credentials makes, with what comes after it. -/
def ofPlace (scheme : List Char) (isSpecial : Bool) (after : List Char) (credentials : Credentials)
    (place : List Char) : Except Error Url :=
  let (hostText, rest) := splitHost false place
  (hostOf isSpecial hostText).bind fun host =>
    if hostText.isEmpty ∧ !rest.isEmpty then .error .emptyHost
    else (portOf scheme rest).bind fun (port, left) =>
      if hostText.isEmpty ∧ credentials ≠ .none then .error .emptyHost
      else .ok <| Url.complete { ofScheme scheme with
          username := credentials.username
          password := credentials.password
          host := if hostText.isEmpty then none else some host
          port } isSpecial (pathAfterAuthority isSpecial) (left ++ after)

lemma parseAuthority_eq (scheme : List Char) (isSpecial : Bool) (cs : List Char) :
    parseAuthority scheme isSpecial cs =
      (parseCredentials (cs.takeWhile (!endsAuthority isSpecial ·))
        (cs.dropWhile (!endsAuthority isSpecial ·))).bind fun (credentials, place) =>
      ofPlace scheme isSpecial (cs.dropWhile (!endsAuthority isSpecial ·)) credentials place := by
  unfold parseAuthority
  refine congrArg (Except.bind _) (funext fun (credentials, place) => ?_)
  obtain ⟨hostText, rest, hsplit⟩ : ∃ hostText rest, splitHost false place = (hostText, rest) :=
    ⟨_, _, rfl⟩
  simp only [ofPlace, hostOf, portOf, hsplit]
  cases isSpecial <;> cases rest <;> rfl

/-- What the address of an authority is made of. -/
lemma ofPlace_ok {isSpecial : Bool} {after place : List Char} {credentials : Credentials} :
    ofPlace scheme isSpecial after credentials place = .ok u ↔
    ∃ hostText rest host port left, splitHost false place = (hostText, rest) ∧
      hostOf isSpecial hostText = .ok host ∧ ¬ (hostText.isEmpty ∧ !rest.isEmpty) ∧
      portOf scheme rest = .ok (port, left) ∧ ¬ (hostText.isEmpty ∧ credentials ≠ .none) ∧
      u = Url.complete { ofScheme scheme with
        username := credentials.username
        password := credentials.password
        host := if hostText.isEmpty then none else some host
        port } isSpecial (pathAfterAuthority isSpecial) (left ++ after) := by
  obtain ⟨hostText, rest, hsplit⟩ : ∃ hostText rest, splitHost false place = (hostText, rest) :=
    ⟨_, _, rfl⟩
  simp only [ofPlace, hsplit]
  constructor
  · intro h
    cases hhost : hostOf isSpecial hostText with
    | error e =>
      rw [hhost] at h
      cases h
    | ok host =>
      rw [hhost, Except.bind] at h
      by_cases hempty : hostText.isEmpty ∧ !rest.isEmpty
      · rw [if_pos hempty] at h
        cases h
      · rw [if_neg hempty] at h
        cases hport : portOf scheme rest with
        | error e =>
          rw [hport] at h
          cases h
        | ok found =>
          obtain ⟨port, left⟩ := found
          rw [hport, Except.bind] at h
          by_cases hnone : hostText.isEmpty ∧ credentials ≠ .none
          · rw [if_pos hnone] at h
            cases h
          · rw [if_neg hnone] at h
            exact ⟨hostText, rest, host, port, left, rfl, hhost, hempty, hport, hnone,
              (Except.ok.inj h).symm⟩
  · rintro ⟨_, _, host, port, left, heq, hhost, hempty, hport, hnone, rfl⟩
    cases heq
    rw [hhost, Except.bind, if_neg hempty, hport, Except.bind, if_neg hnone]

lemma scheme_of_parseAuthority {isSpecial : Bool}
    (h : parseAuthority scheme isSpecial cs = .ok u) : u.scheme = scheme := by
  rw [parseAuthority_eq] at h
  cases hcredentials : parseCredentials (cs.takeWhile (!endsAuthority isSpecial ·))
      (cs.dropWhile (!endsAuthority isSpecial ·)) with
  | error e =>
    rw [hcredentials] at h
    cases h
  | ok found =>
    rw [hcredentials] at h
    obtain ⟨_, _, _, _, _, -, -, -, -, -, rfl⟩ := ofPlace_ok.mp h
    rfl

lemma scheme_of_parseFile (h : parseFile scheme cs = .ok u) : u.scheme = scheme := by
  unfold parseFile at h
  dsimp only at h
  split at h
  · next a b rest =>
    split at h
    · split at h
      · obtain rfl := Except.ok.inj h
        rfl
      · cases hhost : specialHost (rest.takeWhile (!endsAuthority true ·)) with
        | error e =>
          rw [hhost] at h
          cases h
        | ok host =>
          rw [hhost] at h
          obtain rfl := Except.ok.inj h
          rfl
    · obtain rfl := Except.ok.inj h
      rfl
  · obtain rfl := Except.ok.inj h
    rfl

/-- The scheme of an address is the one before the first colon of its text. -/
lemma scheme_of_parseChars (h : parseChars cs = .ok u) :
    ∃ rest, splitScheme (clean cs) = some (u.scheme, rest) := by
  unfold parseChars at h
  split at h
  · cases h
  · next scheme rest hsplit =>
    suffices hscheme : u.scheme = scheme from ⟨rest, hscheme ▸ hsplit⟩
    split at h
    · exact scheme_of_parseAuthority h
    · exact scheme_of_parseFile h
    · exact scheme_of_parseAuthority h
    all_goals
      obtain rfl := Except.ok.inj h
      rfl

/-- The text before the first colon is one. -/
lemma before_colon_unique {word rest' : List Char} (hbefore : ':' ∉ before) (hword : ':' ∉ word)
    (h : before ++ ':' :: rest = word ++ ':' :: rest') : before = word := by
  have htake (front tail : List Char) (hfront : ':' ∉ front) :
      (front ++ ':' :: tail).takeWhile (· != ':') = front := by
    rw [List.takeWhile_append_of_pos fun c hc => by
      simpa using ne_of_mem_of_not_mem hc hfront]
    simp
  rw [← htake before rest hbefore, h, htake word rest' hword]

/-- What an address has for its scheme is there before the first colon. -/
lemma scheme_of_before (hbefore : ':' ∉ before) (h : parseChars (before ++ ':' :: rest) = .ok u) :
    u.scheme = ((before.dropWhile isBlank).filter counts).map Char.toLower := by
  obtain ⟨tail, hclean⟩ := exists_clean_colon before rest
  obtain ⟨tail', hsplit⟩ := scheme_of_parseChars h
  obtain ⟨word, hword, hcolon, hscheme⟩ := splitScheme_some (hclean ▸ hsplit)
  have hcleaned : ':' ∉ (before.dropWhile isBlank).filter counts := fun hmem =>
    hbefore ((List.dropWhile_sublist _).subset (List.mem_filter.mp hmem).1)
  rw [hscheme, before_colon_unique hcleaned hcolon hword]

/-- An address has a colon in its text. -/
lemma exists_before_of_parseChars (h : parseChars cs = .ok u) :
    ∃ before rest, cs = before ++ ':' :: rest ∧ ':' ∉ before := by
  obtain ⟨tail, hsplit⟩ := scheme_of_parseChars h
  obtain ⟨word, hword, -, -⟩ := splitScheme_some hsplit
  have hmem : ':' ∈ clean cs := by simp [hword]
  exact List.eq_append_cons_of_mem (mem_of_mem_clean hmem)

/-- **What comes after the first colon has no part in the scheme.** -/
theorem scheme_eq_of_before {u' : Url} {rest' : List Char} (hbefore : ':' ∉ before)
    (h : parseChars (before ++ ':' :: rest) = .ok u)
    (h' : parseChars (before ++ ':' :: rest') = .ok u') : u'.scheme = u.scheme := by
  rw [scheme_of_before hbefore h, scheme_of_before hbefore h']

end schemes

end LeaseLock.Url
