/-!
# Numbers in Text

Natural numbers in decimal digits. `readUnsigned` takes a text that is such a number from end
to end, with an optional plus sign and any leading zeros, and below a limit; `readSigned` also
takes a minus sign.
-/

namespace LeaseLock.Text

def digits (n : Nat) : List Char := Nat.toDigits 10 n

theorem isDigit_of_mem_digits {n : Nat} {c : Char} (h : c ∈ digits n) : c.isDigit = true :=
  Nat.isDigit_of_mem_toDigits (by decide) (by decide) h

theorem exists_digits (n : Nat) : ∃ c cs, digits n = c :: cs ∧ c.isDigit = true := by
  obtain ⟨c, cs, hcs⟩ := List.exists_cons_of_ne_nil (l := digits n) Nat.toDigits_ne_nil
  exact ⟨c, cs, hcs, isDigit_of_mem_digits (hcs ▸ List.mem_cons_self)⟩

/-- A number below `limit`, if the text is one in digits alone. -/
def readDigits (limit : Nat) (cs : List Char) : Option Nat :=
  if cs ≠ [] ∧ cs.all (·.isDigit) ∧ Nat.ofDigitChars 10 cs 0 < limit then
    some (Nat.ofDigitChars 10 cs 0)
  else none

/-- A number below `limit`, if the text is one. -/
def readUnsigned (limit : Nat) (cs : List Char) : Option Nat :=
  readDigits limit (if cs.head? = some '+' then cs.tail else cs)

/-- A number from `-limit` up to and without `limit`, if the text is one. -/
def readSigned (limit : Nat) (cs : List Char) : Option Int :=
  match cs with
  | '-' :: cs => (readDigits (limit + 1) cs).map fun n => -(n : Int)
  | cs => (readUnsigned limit cs).map Int.ofNat

theorem readDigits_lt {limit : Nat} {cs : List Char} {n : Nat}
    (h : readDigits limit cs = some n) : n < limit := by
  unfold readDigits at h
  split at h
  · simp_all
  · simp at h

theorem readUnsigned_lt {limit : Nat} {cs : List Char} {n : Nat}
    (h : readUnsigned limit cs = some n) : n < limit := readDigits_lt h

end LeaseLock.Text
