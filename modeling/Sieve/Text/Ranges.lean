/-
This file says how a class of characters is given by ranges of code points.
-/

namespace Sieve.Text

/-- Membership of a character in a class given by inclusive ranges of code points. -/
def inRanges (ranges : List (Nat × Nat)) (character : Char) : Bool :=
  ranges.any fun range => range.1 ≤ character.toNat && character.toNat ≤ range.2

end Sieve.Text
