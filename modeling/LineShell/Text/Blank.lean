import LineShell.Text.Utf8

/-!
# Ranges of characters and blank characters

A class of characters is given by a table of closed ranges of code points.  The first such class is
the blank characters, the property White_Space of the Unicode standard: the six controls that move
the cursor, the spaces of all widths, and the two separators.
-/

namespace LineShell

/-- The character lies in one of the closed ranges of code points. -/
def inRanges (table : List (Nat × Nat)) (c : Char) : Bool :=
  table.any fun range => range.1 ≤ c.toNat && c.toNat ≤ range.2

/-- The ranges of the property White_Space. -/
def blankRanges : List (Nat × Nat) :=
  [(0x09, 0x0D), (0x20, 0x20), (0x85, 0x85), (0xA0, 0xA0), (0x1680, 0x1680), (0x2000, 0x200A),
   (0x2028, 0x2029), (0x202F, 0x202F), (0x205F, 0x205F), (0x3000, 0x3000)]

/-- A character with the property White_Space. -/
def isBlank (c : Char) : Bool :=
  inRanges blankRanges c

/-- The text without the blank characters at its end. -/
def trimEnd (t : Text) : Text :=
  (t.reverse.dropWhile isBlank).reverse

/-- The text without the blank characters at both ends. -/
def trim (t : Text) : Text :=
  trimEnd (t.dropWhile isBlank)

end LineShell
