/-
# Blanks

The characters that separate tokens and that are trimmed from a line: those with the Unicode
property White_Space.  The separators U+001C to U+001F, the zero width space and the byte order mark
do not have it.
-/
import MiniPascal.Text.CodePoints

namespace MiniPascal

/-- The code points with the property White_Space. -/
def CodePoints.blank : CodePoints := [
    (0x9, 0xD), (0x20, 0x20), (0x85, 0x85), (0xA0, 0xA0), (0x1680, 0x1680), (0x2000, 0x200A),
    (0x2028, 0x2029), (0x202F, 0x202F), (0x205F, 0x205F), (0x3000, 0x3000)]

/-- The table ascends, so a look-up in it is exact. -/
theorem CodePoints.blank_ascend : CodePoints.blank.ascend = true := by
  decide +kernel

/-- Whether the character is white space. -/
def isBlank (c : Char) : Bool := CodePoints.blank.contains c.toNat

end MiniPascal
