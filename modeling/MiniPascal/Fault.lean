/-
# Faults

A fault is what keeps a source from being run to its end: its cause and the place of the culprit.
The first fault ends the run.  Each cause belongs to one of four classes, according to the step that
finds it, and has one wording.
-/
import MiniPascal.Mode
import MiniPascal.Text.Escape
import MiniPascal.Token

namespace MiniPascal

/-! ## Classes of faults -/

/-- The step that finds a fault. -/
inductive FaultClass where
  /-- Found while the text is split into tokens. -/
  | lexical
  /-- Found while the tokens are arranged into a tree. -/
  | syntactic
  /-- Found while a variable is looked up. -/
  | naming
  /-- Found while a value is computed. -/
  | arithmetic
  deriving DecidableEq

namespace FaultClass

/-- The class as the heading of a report calls it. -/
def title : FaultClass → String
  | lexical => "Lexical Error"
  | syntactic => "Syntax Error"
  | naming => "Name Error"
  | arithmetic => "Runtime Error"

/-- The class as the log calls it. -/
def tag : FaultClass → String
  | lexical => "LexError"
  | syntactic => "SyntaxError"
  | naming => "NameError"
  | arithmetic => "RuntimeError"

end FaultClass

/-! ## Causes -/

/-- What the grammar asks for at a place where another token was found. -/
inductive Expected where
  /-- The `BEGIN` of a program. -/
  | programBegin
  /-- The `END` of a block. -/
  | blockEnd
  /-- The sign of assignment after its target. -/
  | assign
  /-- The parenthesis that closes a group. -/
  | rightParen
  /-- The dot behind the block of a program. -/
  | dot
  /-- An operand of an expression. -/
  | operand
  deriving DecidableEq

namespace Expected

/-- What is expected, as messages say it. -/
def description : Expected → String
  | programBegin => "Expected 'BEGIN'"
  | blockEnd => "Expected 'END' to close block"
  | assign => "Expected ':=' after variable"
  | rightParen => "Expected ')' after expression"
  | dot => "Expected '.' after program"
  | operand => "Expected expression"

/-- A hint how to write what is expected. -/
def help? : Expected → Option String
  | programBegin => none
  | blockEnd =>
    some "Statements inside a block are separated by ';' and the block is closed with 'END'."
  | assign => some "Assignments are written 'name := expression'."
  | rightParen => some "Every '(' needs a matching ')'."
  | dot => some "A program is a single 'BEGIN ... END' block followed by '.'."
  | operand => none

end Expected

/-- Why a source cannot be run to its end. -/
inductive Cause where
  /-- A character that starts no token. -/
  | unexpectedCharacter (c : Char)
  /-- A comment that is never closed. -/
  | unterminatedComment
  /-- An integer literal beyond the greatest value. -/
  | integerOutOfRange (digits : String)
  /-- A token, or the end, in place of what the grammar asks for. -/
  | mismatch (expected : Expected) (found : Option Kind)
  /-- A real literal in place of an operand. -/
  | realOperand (text : String)
  /-- A token behind the end of the whole. -/
  | trailing (mode : Mode) (found : Option Kind)
  /-- A block, parenthesis or sign nested deeper than the limit allows. -/
  | nestingTooDeep (limit : Nat)
  /-- A variable that is read before it has a value. -/
  | undefinedVariable (name : String)
  /-- A divisor that turns out to be zero. -/
  | divisionByZero
  /-- A result beyond the limits of the values. -/
  | integerOverflow
  deriving DecidableEq

namespace Cause

/-- The step that finds the cause. -/
def faultClass : Cause → FaultClass
  | unexpectedCharacter _ | unterminatedComment | integerOutOfRange _ => .lexical
  | mismatch _ _ | realOperand _ | trailing _ _ | nestingTooDeep _ => .syntactic
  | undefinedVariable _ => .naming
  | divisionByZero | integerOverflow => .arithmetic

/-- The cause in words. -/
def message : Cause → String
  | unexpectedCharacter c => "Unexpected character: '" ++ escapeChar c ++ "'"
  | unterminatedComment => "Unterminated comment"
  | integerOutOfRange digits => "Integer literal out of range: " ++ digits
  | mismatch expected found => expected.description ++ ", found " ++ Kind.describe? found
  | realOperand text => "Real literal '" ++ text ++ "' is not allowed here"
  | trailing mode found => "Unexpected " ++ Kind.describe? found ++ " after end of " ++ mode.noun
  | nestingTooDeep limit => "Nesting too deep (limit is " ++ limit.repr ++ ")"
  | undefinedVariable name => "Undefined variable '" ++ name ++ "'"
  | divisionByZero => "Division by zero"
  | integerOverflow => "Integer overflow"

/-- A hint how to avoid the cause. -/
def help? : Cause → Option String
  | unterminatedComment => some "Comments opened with '\x7b' must be closed with '\x7d'."
  | mismatch expected _ => expected.help?
  | realOperand _ => some "Only integer arithmetic is supported."
  | undefinedVariable _ => some "Assign a value with ':=' before reading the variable."
  | _ => none

end Cause

/-- A cause with the place of the culprit. -/
structure Fault where
  /-- Why the source cannot be run to its end. -/
  cause : Cause
  /-- Where the culprit stands. -/
  span : Span
  deriving DecidableEq

end MiniPascal
