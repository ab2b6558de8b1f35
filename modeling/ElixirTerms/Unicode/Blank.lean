/-
# Blank characters

White space: the separators of category Zs and every character whose bidirectional class is
white space, a segment separator or a block separator.
-/
import ElixirTerms.Unicode.Ranges

namespace ElixirTerms.Unicode

/-- The ranges of the class, in ascending order. -/
def blankRanges : List CodeRange :=
  [(0x9, 0xD), (0x1C, 0x20), (0x85, 0x85), (0xA0, 0xA0), (0x1680, 0x1680), (0x2000, 0x200A),
   (0x2028, 0x2029), (0x202F, 0x202F), (0x205F, 0x205F), (0x3000, 0x3000)]

/-- A blank character: a space, a line or paragraph boundary, or a control that separates. -/
def isBlank (c : Char) : Bool := inRanges c.toNat blankRanges

end ElixirTerms.Unicode
