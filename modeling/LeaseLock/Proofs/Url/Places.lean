import Mathlib.Data.List.TakeDrop
import Mathlib.Tactic.Common
import LeaseLock.Proofs.Url.Decoding
import LeaseLock.Proofs.Url.Schemes
import LeaseLock.Text.Number

/-!
Credentials before a place, and a path after it.

The place of an address is its authority without credentials: a host, and a port if there is one.
Credentials that are put in front of it, and a number that is put after it as a path, change nothing
of the address but these.
-/

namespace LeaseLock.Url

variable {scheme place tail cs : List Char} {u : Url}

/-! ### Taking an authority apart -/

lemma takeWhile_place {isSpecial : Bool} (hplace : ∀ c ∈ place, endsAuthority isSpecial c = false)
    (htail : ∀ c ∈ tail.head?, endsAuthority isSpecial c = true) :
    (place ++ tail).takeWhile (!endsAuthority isSpecial ·) = place := by
  rw [List.takeWhile_append_of_pos fun c hc => by simp [hplace c hc]]
  cases tail with
  | nil => simp
  | cons c tail => simp [htail c rfl]

lemma dropWhile_place {isSpecial : Bool} (hplace : ∀ c ∈ place, endsAuthority isSpecial c = false)
    (htail : ∀ c ∈ tail.head?, endsAuthority isSpecial c = true) :
    (place ++ tail).dropWhile (!endsAuthority isSpecial ·) = tail := by
  rw [List.dropWhile_append_of_pos fun c hc => by simp [hplace c hc]]
  cases tail with
  | nil => rfl
  | cons c tail => simp [htail c rfl]

lemma splitLastAt_of_not_mem (h : '@' ∉ cs) : splitLastAt cs = none := by
  have hall : ∀ c ∈ cs.reverse, (c != '@') = true := fun c hc => by
    simpa using ne_of_mem_of_not_mem (List.mem_reverse.mp hc) h
  have hspan : cs.reverse.span (· != '@') = (cs.reverse, []) := by
    rw [List.span_eq_takeWhile_dropWhile, List.takeWhile_eq_self_iff.mpr hall,
      List.dropWhile_eq_nil_iff.mpr hall]
  rw [splitLastAt, hspan]

lemma splitLastAt_append {before after : List Char} (h : '@' ∉ after) :
    splitLastAt (before ++ '@' :: after) = some (before, after) := by
  have hall : ∀ c ∈ after.reverse, (c != '@') = true := fun c hc => by
    simpa using ne_of_mem_of_not_mem (List.mem_reverse.mp hc) h
  have hreverse : (before ++ '@' :: after).reverse = after.reverse ++ '@' :: before.reverse := by
    simp
  have hspan : (after.reverse ++ '@' :: before.reverse).span (· != '@') =
      (after.reverse, '@' :: before.reverse) := by
    rw [List.span_eq_takeWhile_dropWhile, List.takeWhile_append_of_pos hall,
      List.dropWhile_append_of_pos hall]
    simp
  rw [splitLastAt, hreverse, hspan]
  simp

lemma Credentials.ofText_pair {user word : List Char} (h : ':' ∉ user) :
    Credentials.ofText (user ++ ':' :: word) =
      ⟨percentEncode inUserinfo user,
        if word.isEmpty then .none else some (percentEncode inUserinfo word)⟩ := by
  have hall : ∀ c ∈ user, (c != ':') = true := fun c hc => by
    simpa using ne_of_mem_of_not_mem hc h
  unfold Credentials.ofText
  rw [List.takeWhile_append_of_pos hall, List.dropWhile_append_of_pos hall]
  simp

lemma splitHost_append (inside : Bool) (cs : List Char) :
    (splitHost inside cs).1 ++ (splitHost inside cs).2 = cs := by
  induction cs generalizing inside with
  | nil => rfl
  | cons c cs ih =>
    rw [splitHost]
    split
    · rfl
    · exact congrArg (c :: ·) (ih _)

/-- Without a backslash nothing of an authority is left after its port. -/
lemma portOf_left {port : Option Nat} {left : List Char} (h : portOf scheme cs = .ok (port, left))
    (hcs : '\\' ∉ cs) : left = [] := by
  unfold portOf at h
  split at h
  · cases h
    rfl
  · have hleft : left = cs.tail.dropWhile (·.isDigit) ∧
        ¬ (left ≠ [] ∧ left.head? ≠ some '\\') := by
      unfold parsePort at h
      dsimp only at h
      split at h
      · cases h
      · split at h
        · cases h
        · next hrest => split at h <;> (cases h; exact ⟨rfl, hrest⟩)
    obtain ⟨rfl, hrest⟩ := hleft
    by_contra hne
    have hhead : (cs.tail.dropWhile (·.isDigit)).head? = some '\\' :=
      by_contra fun h => hrest ⟨hne, h⟩
    have hmem := List.mem_of_mem_head? hhead
    exact hcs (List.mem_of_mem_tail ((List.dropWhile_sublist _).subset hmem))

/-! ### Putting in -/

lemma parseAuthority_place (hplace : ∀ c ∈ place, endsAuthority false c = false)
    (htail : ∀ c ∈ tail.head?, endsAuthority false c = true) (hat : '@' ∉ place) :
    parseAuthority scheme false (place ++ tail) = ofPlace scheme false tail .none place := by
  rw [parseAuthority_eq, takeWhile_place hplace htail, dropWhile_place hplace htail,
    parseCredentials, splitLastAt_of_not_mem hat]
  rfl

/-- Credentials in front of a place are those of the address. -/
lemma parseAuthority_credentials {user word : List Char}
    (hplace : ∀ c ∈ place, endsAuthority false c = false)
    (htail : ∀ c ∈ tail.head?, endsAuthority false c = true) (hat : '@' ∉ place)
    (huser : ∀ c ∈ user, endsAuthority false c = false)
    (hword : ∀ c ∈ word, endsAuthority false c = false) :
    parseAuthority scheme false (user ++ ':' :: word ++ '@' :: (place ++ tail)) =
      ofPlace scheme false tail (.ofText (user ++ ':' :: word)) place := by
  have hall : ∀ c ∈ user ++ ':' :: word ++ '@' :: place, endsAuthority false c = false := by
    simp only [List.mem_append, List.mem_cons]
    rintro c ((hc | rfl | hc) | rfl | hc)
    exacts [huser c hc, rfl, hword c hc, rfl, hplace c hc]
  have hassoc : user ++ ':' :: word ++ '@' :: (place ++ tail) =
      (user ++ ':' :: word ++ '@' :: place) ++ tail := by simp
  have hcredentials : parseCredentials (user ++ ':' :: word ++ '@' :: place) tail =
      .ok (.ofText (user ++ ':' :: word), place) := by
    rw [parseCredentials, splitLastAt_append hat]
    cases user <;> rfl
  rw [hassoc, parseAuthority_eq, takeWhile_place hall htail, dropWhile_place hall htail,
    hcredentials]
  rfl

/-- An address with a host may have any credentials. -/
lemma ofPlace_credentials {isSpecial : Bool} {c : Credentials}
    (h : ofPlace scheme isSpecial tail c place = .ok u) (hhost : u.host ≠ none) (c' : Credentials) :
    ofPlace scheme isSpecial tail c' place =
      .ok { u with username := c'.username, password := c'.password } := by
  obtain ⟨hostText, rest, host, port, left, hsplit, hok, hempty, hport, -, rfl⟩ := ofPlace_ok.mp h
  have hnonempty : ¬ hostText.isEmpty := by
    intro hnone
    exact hhost (by simp [complete, hnone])
  exact ofPlace_ok.mpr
    ⟨hostText, rest, host, port, left, hsplit, hok, hempty, hport, fun h => hnonempty h.1, rfl⟩

/-- An address with a place has a host. -/
lemma ofPlace_host {isSpecial : Bool} {c : Credentials}
    (h : ofPlace scheme isSpecial tail c place = .ok u) (hplace : place ≠ []) : u.host ≠ none := by
  obtain ⟨hostText, rest, host, port, left, hsplit, -, hempty, -, -, rfl⟩ := ofPlace_ok.mp h
  have happend := splitHost_append false place
  rw [hsplit] at happend
  cases hostText with
  | nil =>
    obtain rfl : rest = place := happend
    exact (hempty ⟨rfl, by simpa using hplace⟩).elim
  | cons c cs => simp [complete]

/-- The path after a place is the one of the address, and slashes before it do not matter. -/
lemma ofPlace_path {c : Credentials} {path path' : List Char}
    (h : ofPlace scheme false tail c place = .ok u) (hback : '\\' ∉ place)
    (htail : ∀ c ∈ tail, endsPath c = false) (hpath : ∀ c ∈ path, endsPath c = false)
    (hafter : pathAfterAuthority false path = path') :
    ofPlace scheme false path c place = .ok { u with path := path' } := by
  obtain ⟨hostText, rest, host, port, left, hsplit, hok, hempty, hport, hnone, rfl⟩ :=
    ofPlace_ok.mp h
  have hrest : '\\' ∉ rest := by
    have happend := splitHost_append false place
    rw [hsplit] at happend
    exact fun hmem => hback (happend ▸ List.mem_append_right _ hmem)
  obtain rfl := portOf_left hport hrest
  have hcomplete (u : Url) (f : List Char → List Char) {cs : List Char}
      (hcs : ∀ c ∈ cs, endsPath c = false) :
      u.complete false f cs = { u with path := f cs, query := none, fragment := none } := by
    have htake : cs.takeWhile (!endsPath ·) = cs :=
      List.takeWhile_eq_self_iff.mpr fun c hc => by simp [hcs c hc]
    have hdrop : cs.dropWhile (!endsPath ·) = [] :=
      List.dropWhile_eq_nil_iff.mpr fun c hc => by simp [hcs c hc]
    simp only [complete, htake, hdrop]
    rfl
  rw [ofPlace_ok]
  refine ⟨hostText, rest, host, port, [], hsplit, hok, hempty, hport, hnone, ?_⟩
  rw [List.nil_append, List.nil_append, hcomplete _ _ htail, hcomplete _ _ hpath, hafter]

/-! ### Numbers as paths -/

lemma isAlphanum_of_mem_digits {n : Nat} {c : Char} (h : c ∈ Text.digits n) :
    c.isAlphanum = true := isAlphanum_of_isDigit (Text.isDigit_of_mem_digits h)

lemma counts_of_isAlphanum {c : Char} (h : c.isAlphanum = true) : counts c = true := by
  simp [counts, ne_of_isAlphanum h]

lemma isBlank_of_isAlphanum {c : Char} (h : c.isAlphanum = true) : isBlank c = false := by
  have hrange := toNat_of_isAlphanum h
  simp only [isBlank, decide_eq_false_iff_not]
  omega

/-- A segment that starts with a digit stands for itself. -/
lemma resolve_digit {c : Char} (cs : List Char) (h : c.isDigit = true) :
    resolve [] [c :: cs] = [c :: cs] := by
  have hlower : c.toLower = c := by
    have hupper : ¬ (c.val ≥ 'A'.val ∧ c.val ≤ 'Z'.val) := by
      simp only [Char.isDigit, Bool.and_eq_true, decide_eq_true_eq, ge_iff_le,
        UInt32.le_iff_toNat_le, UInt32.reduceToNat, Char.reduceVal] at h ⊢
      omega
    rw [Char.toLower, dif_neg hupper]
  have hdot : c ≠ '.' := by
    rintro rfl
    cases h
  have hpercent : c ≠ '%' := by
    rintro rfl
    cases h
  have hdouble : isDoubleDot (c :: cs) = false := by
    simp [isDoubleDot, hlower, hdot, hpercent, String.ext_iff]
  have hsingle : isSingleDot (c :: cs) = false := by
    simp [isSingleDot, hlower, hdot, hpercent, String.ext_iff]
  simp [resolve, hdouble, hsingle]

/-- A number is a path of one segment. -/
lemma pathAfterAuthority_digits (n : Nat) :
    pathAfterAuthority false ('/' :: Text.digits n) = '/' :: Text.digits n := by
  have hslash : '/' ∉ Text.digits n := fun hmem => by cases Text.isDigit_of_mem_digits hmem
  have hencode : percentEncode inPath (Text.digits n) = Text.digits n :=
    percentEncode_of_not fun c hc =>
      (Bool.or_eq_false_iff.mp (inUserinfo_of_isAlphanum (isAlphanum_of_mem_digits hc))).1
  obtain ⟨c, cs, hcs, hc⟩ := Text.exists_digits n
  have hroot : pathAfterAuthority false ('/' :: Text.digits n) = rootPath false (Text.digits n) :=
    rfl
  rw [hroot, rootPath, if_neg Bool.false_ne_true, List.splitOn_eq_singleton hslash,
    List.map_singleton, hencode, hcs, resolve_digit cs hc]
  simp

end LeaseLock.Url
