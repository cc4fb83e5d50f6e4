/-
# Lines and columns

The line and the column of a position in a text.  A line runs through its terminator, which is one
of eight: line feed, carriage return, the two of them together, vertical tab, form feed, next line,
line separator, paragraph separator.  No line follows a terminator that ends the text.
-/

namespace MiniPascal

/-! ## Line ends -/

/-- Whether the character ends a line, unless it is the first half of a two-character terminator. -/
def isLineEnd (c : Char) : Bool :=
  c = '\n' || c = '\r' || c = '\x0b' || c = '\x0c' || c = '\u0085' || c = '\u2028' || c = '\u2029'

/-- Whether a new line starts between the character and the text after it. -/
def breaksBefore (c : Char) (rest : List Char) : Bool :=
  isLineEnd c && !rest.isEmpty && !(c = '\r' && rest.head? = some '\n')

/-! ## Places -/

/-- A place in a text, counted from line 1 and column 1. -/
structure Place where
  /-- The number of the line. -/
  line : Nat
  /-- The number of the column within the line. -/
  column : Nat
  deriving DecidableEq

namespace Place

/-- The place reached by walking `position` characters into the text. -/
def walk (place : Place) : List Char → (position : Nat) → Place
  | _, 0 => place
  | [], position + 1 => ⟨place.line, place.column + (position + 1)⟩
  | c :: rest, position + 1 =>
    if breaksBefore c rest then walk ⟨place.line + 1, 1⟩ rest position
    else walk ⟨place.line, place.column + 1⟩ rest position

/-- The place of a position of the text. -/
def ofPosition (text : List Char) (position : Nat) : Place :=
  walk ⟨1, 1⟩ text position

end Place

end MiniPascal
