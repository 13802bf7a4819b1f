/-!
# Ranges of Characters

A set of characters, given as closed ranges of code points.
-/

namespace LeaseLock.Text

/-- Whether a character lies in one of the ranges. -/
def isWithin (ranges : List (Nat × Nat)) (c : Char) : Bool :=
  ranges.any fun (first, last) => first ≤ c.toNat && c.toNat ≤ last

end LeaseLock.Text
