/-
# Modes

A source is read in one of two forms: as a whole program, run for the bindings it leaves behind, or
as a bare expression, run for its value.
-/

namespace MiniPascal

/-- The form in which a source is read. -/
inductive Mode where
  /-- A block followed by a dot. -/
  | program
  /-- A bare expression. -/
  | expression
  deriving DecidableEq

namespace Mode

/-- The mode as messages call it. -/
def noun : Mode → String
  | program => "program"
  | expression => "expression"

/-- The mode as the log calls it. -/
def title : Mode → String
  | program => "Program"
  | expression => "Expression"

end Mode

end MiniPascal
