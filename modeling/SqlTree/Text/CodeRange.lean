/-!
# Ranges of code points

Properties of characters are given as lists of closed ranges of code points.
-/

namespace SqlTree.Text

/-- The first and the last code point of a closed range. -/
abbrev CodeRange := Nat × Nat

def inRanges (ranges : List CodeRange) (character : Char) : Bool :=
  ranges.any fun range => range.1 ≤ character.toNat && character.toNat ≤ range.2

end SqlTree.Text
