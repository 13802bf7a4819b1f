import LeaseLock.Domain.Fold
import LeaseLock.Domain.Joining
import LeaseLock.Domain.Punycode

/-!
# Domain Names

Whether a text is a domain name, and which. A name is a row of labels with points between them.
It is judged by what its characters stand for, in composed form; a label that is written in
Punycode has to be in that form already, and stands for the text that it encodes.
-/

namespace LeaseLock.Domain

/-- The ASCII characters that no name holds. -/
def isForbidden (c : Char) : Bool :=
  c.toNat ≤ 32 || c.toNat == 127 ||
    ['#', '%', '/', ':', '<', '>', '?', '@', '[', '\\', ']', '^', '|'].contains c

/-- What a label in Punycode starts with. -/
def punycodeMark : List Char := ['x', 'n', '-', '-']

/-- The text that a label stands for. -/
def labelText? (label : List Char) : Option (List Char) :=
  if punycodeMark.isPrefixOf label then
    if label.getLast? = some '-' ∨ label.any (128 ≤ ·.toNat) then none
    else do
      let text ← Punycode.decode? (label.drop punycodeMark.length)
      if text.all (fun c => c.toNat < 128 || isPlain c) && Text.composed text == text &&
          !punycodeMark.isPrefixOf text then
        some text
      else none
  else some label

/-- Whether a text can be a label, apart from directions. -/
def isLabelText (text : List Char) : Bool := !text.head?.any isMark && joinersInPlace [] text

/-- Whether the directions of all labels are in order, where they matter. -/
def directionsAgree (labels : List (List Char)) : Bool :=
  let directions := labels.map (·.map Direction.ofChar)
  !directions.any (·.any (·.matters)) || directions.all Direction.agree

/-- The name that a text is, with its characters folded. -/
def ofChars? (cs : List Char) : Option (List Char) := do
  if cs.any isRefused then none
  else
    let name := Text.composed (cs.flatMap fold)
    if name.any isForbidden then none
    else
      let texts ← (name.splitOn '.').mapM labelText?
      if texts.all isLabelText && directionsAgree texts then some name else none

end LeaseLock.Domain
