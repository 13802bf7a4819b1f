import Mathlib
import LeaseLock.Url.Percent

/-!
What a percent-encoded text stands for.

Encoding leaves alone what a text stands for, as long as neither the percent sign nor a hexadecimal
digit has to be encoded: an escape that was in the text stays one, and none comes in that was not
made for a character.
-/

namespace LeaseLock.Url

variable {p : Char → Bool} {c : Char} {cs rest : List Char}

/-! ### Letters and digits -/

lemma toNat_of_isAlphanum (h : c.isAlphanum = true) : 48 ≤ c.toNat ∧ c.toNat ≤ 122 := by
  simp only [Char.isAlphanum, Char.isAlpha, Char.isUpper, Char.isLower, Char.isDigit,
    Bool.or_eq_true, Bool.and_eq_true, decide_eq_true_eq, ge_iff_le, UInt32.le_iff_toNat_le,
    UInt32.reduceToNat, Char.reduceVal] at h
  have hval : c.val.toNat = c.toNat := rfl
  omega

lemma ne_of_isAlphanum (h : c.isAlphanum = true) {d : Char} (hd : d.isAlphanum = false) :
    c ≠ d := by
  rintro rfl
  rw [h] at hd
  cases hd

lemma isAlphanum_of_isDigit (h : c.isDigit = true) : c.isAlphanum = true := by
  simp [Char.isAlphanum, h]

lemma isAlphanum_of_hexValue? (h : (hexValue? c).isSome) : c.isAlphanum = true := by
  have hcases : c.isDigit ∨ ('a' ≤ c ∧ c ≤ 'f') ∨ ('A' ≤ c ∧ c ≤ 'F') := by
    by_contra hnone
    simp only [not_or] at hnone
    simp [hexValue?, hnone.1, hnone.2.1, hnone.2.2] at h
  rcases hcases with hdigit | ⟨hlow, hhigh⟩ | ⟨hlow, hhigh⟩
  · exact isAlphanum_of_isDigit hdigit
  all_goals
    have hlow' := UInt32.le_iff_toNat_le.mp hlow
    have hhigh' := UInt32.le_iff_toNat_le.mp hhigh
    simp only [UInt32.reduceToNat, Char.reduceVal] at hlow' hhigh'
    simp only [Char.isAlphanum, Char.isAlpha, Char.isUpper, Char.isLower, Char.isDigit,
      Bool.or_eq_true, Bool.and_eq_true, decide_eq_true_eq, ge_iff_le, UInt32.le_iff_toNat_le,
      UInt32.reduceToNat, Char.reduceVal]
    omega

/-- Letters and digits are encoded nowhere. -/
lemma inUserinfo_of_isAlphanum (h : c.isAlphanum = true) : inUserinfo c = false := by
  have hrange := toNat_of_isAlphanum h
  have hcontrol : isControl c = false := by
    simp only [isControl, Bool.or_eq_false_iff, decide_eq_false_iff_not]
    omega
  simp [inUserinfo, inPath, inFragment, hcontrol, ne_of_isAlphanum h]

/-! ### Encoding and decoding -/

/-- The bytes of a text. -/
def bytes (cs : List Char) : List UInt8 := cs.flatMap String.utf8EncodeChar

/-- Whether two hexadecimal digits come next. -/
def StartsHex (cs : List Char) : Prop :=
  ∃ a b rest, cs = a :: b :: rest ∧ (hexValue? a).isSome ∧ (hexValue? b).isSome

lemma percentDecode_cons (hc : c ≠ '%') :
    percentDecode (c :: rest) = String.utf8EncodeChar c ++ percentDecode rest := by
  rw [percentDecode]
  rintro a b tail rfl
  exact (hc rfl).elim

/-- A percent sign without two digits stands for itself. -/
lemma percentDecode_percent (h : ¬ StartsHex rest) :
    percentDecode ('%' :: rest) = 37 :: percentDecode rest := by
  match rest with
  | [] => rfl
  | [a] => rfl
  | a :: b :: rest =>
    rw [percentDecode]
    cases ha : hexValue? a with
    | none => rfl
    | some x =>
      cases hb : hexValue? b with
      | none => rfl
      | some y => exact (h ⟨a, b, rest, rfl, by simp [ha], by simp [hb]⟩).elim

lemma hexValue?_hexUpper {n : Nat} (h : n < 16) : hexValue? (hexUpper n) = some n := by
  revert n
  decide

lemma percentDecode_encodeByte (b : UInt8) :
    percentDecode (encodeByte b ++ rest) = b :: percentDecode rest := by
  have hhigh := hexValue?_hexUpper (n := b.toNat / 16) (by have := b.toNat_lt; omega)
  have hlow := hexValue?_hexUpper (n := b.toNat % 16) (by omega)
  have hbyte : b.toNat / 16 * 16 + b.toNat % 16 = b.toNat := by omega
  rw [encodeByte, List.cons_append, List.cons_append, List.cons_append, List.nil_append,
    percentDecode]
  simp only [hhigh, hlow, hbyte, UInt8.ofNat_toNat]

lemma percentDecode_encodeBytes (bs : List UInt8) :
    percentDecode (bs.flatMap encodeByte ++ rest) = bs ++ percentDecode rest := by
  induction bs with
  | nil => rfl
  | cons b bs ih =>
    rw [List.flatMap_cons, List.append_assoc, percentDecode_encodeByte, ih, List.cons_append]

lemma percentEncode_cons : percentEncode p (c :: cs) =
    (if p c then (String.utf8EncodeChar c).flatMap encodeByte else [c]) ++ percentEncode p cs :=
  List.flatMap_cons

lemma percentEncode_of_not (h : ∀ c ∈ cs, p c = false) : percentEncode p cs = cs := by
  induction cs with
  | nil => rfl
  | cons c cs ih =>
    rw [percentEncode_cons, h c List.mem_cons_self,
      ih fun x hx => h x (List.mem_cons_of_mem c hx)]
    rfl

/-- A hexadecimal digit at the start was there before encoding. -/
lemma cons_of_percentEncode {a : Char} {tail : List Char} (h : percentEncode p cs = a :: tail)
    (ha : (hexValue? a).isSome) : ∃ cs', cs = a :: cs' ∧ percentEncode p cs' = tail := by
  cases cs with
  | nil => cases h
  | cons c cs =>
    rw [percentEncode_cons] at h
    cases hc : p c with
    | false =>
      rw [hc] at h
      obtain ⟨rfl, htail⟩ := List.cons.inj h
      exact ⟨cs, rfl, htail⟩
    | true =>
      obtain ⟨b, bs, hbytes⟩ := List.exists_cons_of_ne_nil (String.utf8EncodeChar_ne_nil (c := c))
      rw [hc, if_pos rfl, hbytes] at h
      obtain rfl := (List.cons.inj h).1
      cases ha

/-- Encoding makes no two hexadecimal digits. -/
lemma startsHex_of_percentEncode (h : StartsHex (percentEncode p cs)) : StartsHex cs := by
  obtain ⟨a, b, tail, hcs, ha, hb⟩ := h
  obtain ⟨cs', rfl, hcs'⟩ := cons_of_percentEncode hcs ha
  obtain ⟨cs'', rfl, -⟩ := cons_of_percentEncode hcs' hb
  exact ⟨a, b, cs'', rfl, ha, hb⟩

/-- **Encoding does not change what a text stands for.** -/
theorem percentDecode_percentEncode (hpercent : p '%' = false)
    (hdigits : ∀ c, (hexValue? c).isSome → p c = false) (cs : List Char) :
    percentDecode (percentEncode p cs) = percentDecode cs := by
  -- an escape is three characters, so the induction is on the decoder's own cases
  induction cs using percentDecode.induct with
  | case1 => rfl
  | case2 a b rest x y hb ha ih =>
    have hencode : percentEncode p ('%' :: a :: b :: rest) =
        '%' :: a :: b :: percentEncode p rest := by
      simp [percentEncode_cons, hpercent, hdigits a (by simp [ha]), hdigits b (by simp [hb])]
    rw [hencode, percentDecode, percentDecode, ha, hb, ih]
  | case3 a b rest hhex ih =>
    have hstarts : ¬ StartsHex (a :: b :: rest) := by
      rintro ⟨a', b', tail, heq, ha, hb⟩
      obtain ⟨rfl, rfl, rfl⟩ : a = a' ∧ b = b' ∧ rest = tail := by simpa using heq
      obtain ⟨x, hx⟩ := Option.isSome_iff_exists.mp ha
      obtain ⟨y, hy⟩ := Option.isSome_iff_exists.mp hb
      exact hhex x y hx hy
    have hencode : percentEncode p ('%' :: a :: b :: rest) =
        '%' :: percentEncode p (a :: b :: rest) := by
      rw [percentEncode_cons, hpercent]
      rfl
    rw [hencode, percentDecode_percent hstarts,
      percentDecode_percent (mt startsHex_of_percentEncode hstarts), ih]
  | case4 c rest hshort ih =>
    rw [percentEncode_cons]
    by_cases hc : c = '%'
    · obtain rfl := hc
      have hstarts : ¬ StartsHex rest := by
        rintro ⟨a, b, tail, rfl, -⟩
        exact hshort a b tail rfl rfl
      rw [hpercent, if_neg Bool.false_ne_true, List.singleton_append,
        percentDecode_percent hstarts,
        percentDecode_percent (mt startsHex_of_percentEncode hstarts), ih]
    · rw [percentDecode_cons hc, ← ih]
      split
      · exact percentDecode_encodeBytes _
      · exact percentDecode_cons hc

/-- Credentials that are encoded stand for what they stood for. -/
lemma percentDecode_userinfo (cs : List Char) :
    percentDecode (percentEncode inUserinfo cs) = percentDecode cs :=
  percentDecode_percentEncode (by decide)
    (fun _ hc => inUserinfo_of_isAlphanum (isAlphanum_of_hexValue? hc)) cs

end LeaseLock.Url
