import TableVerbs.Text.Ranges

/-!
# Blank characters

The white space of the Unicode standard (property `White_Space`). It separates
the tokens of an expression, and it is what is trimmed from a field before the
field is tried as a number.
-/

namespace TableVerbs.Text

/-- The ranges of the property `White_Space`. -/
def blankRanges : Ranges :=
  [(0x09, 0x0D), (0x20, 0x20), (0x85, 0x85), (0xA0, 0xA0), (0x1680, 0x1680), (0x2000, 0x200A),
    (0x2028, 0x2029), (0x202F, 0x202F), (0x205F, 0x205F), (0x3000, 0x3000)]

/-- White space, in the sense of the Unicode property. -/
def isBlank (c : Char) : Bool := blankRanges.has c

/-- A text without the white space at its two ends. -/
def trimmed (cs : List Char) : List Char :=
  ((cs.dropWhile isBlank).reverse.dropWhile isBlank).reverse

end TableVerbs.Text
