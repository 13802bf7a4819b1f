/-!
# Text in Bytes

The text that bytes stand for in UTF-8, whatever the bytes are: where they stop making sense,
the longest start of a character that they make, or else one byte, is read as the replacement
character. Bytes are read in one pass; between two of them at most one character is begun.
-/

namespace LeaseLock.Text.Utf8

/-- What is read in place of bytes that are no text. -/
def replacement : Char := '\uFFFD'

/-- A character of which some bytes were read: its value so far, how many bytes it needs after
the next one, and the bounds of the next one. -/
structure Begun where
  value : Nat
  more : Nat
  low : Nat
  high : Nat
  deriving DecidableEq

/-- Reads a byte that starts anew. The bounds of the next byte leave out what could be written
with fewer bytes, surrogates, and what lies beyond the last code point. -/
def first (b : UInt8) : List Char × Option Begun :=
  let n := b.toNat
  if n < 128 then ([Char.ofNat n], none)
  else if n < 194 then ([replacement], none)
  else if n < 224 then ([], some ⟨n - 192, 0, 128, 191⟩)
  else if n < 240 then
    ([], some ⟨n - 224, 1, if n = 224 then 160 else 128, if n = 237 then 159 else 191⟩)
  else if n < 245 then
    ([], some ⟨n - 240, 2, if n = 240 then 144 else 128, if n = 244 then 143 else 191⟩)
  else ([replacement], none)

/-- Reads a byte: the characters that are known then, and the one that is begun. -/
def step (begun : Option Begun) (b : UInt8) : List Char × Option Begun :=
  match begun with
  | none => first b
  | some p =>
    if p.low ≤ b.toNat ∧ b.toNat ≤ p.high then
      let value := p.value * 64 + b.toNat % 64
      match p.more with
      | 0 => ([Char.ofNat value], none)
      | more + 1 => ([], some ⟨value, more, 128, 191⟩)
    else
      let (known, begun) := first b
      (replacement :: known, begun)

/-- Reads bytes. -/
def decode : Option Begun → List UInt8 → List Char
  | none, [] => []
  | some _, [] => [replacement]
  | begun, b :: bs =>
    let (known, begun) := step begun b
    known ++ decode begun bs

end Utf8

/-- The text that bytes stand for. -/
def ofBytes (bs : List UInt8) : String := String.ofList (Utf8.decode none bs)

end LeaseLock.Text
