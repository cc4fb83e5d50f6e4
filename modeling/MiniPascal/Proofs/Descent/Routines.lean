/-
# Recursive descent

The same parser told by routines, one for each rule of the grammar, that call each other.  They keep
a counter of open groups: a routine counts a group when it enters it, and counts it off when the
group is complete.  A fault stops all routines at once, and then what they have counted stays
counted.  Nothing in the routines says that they end, that the counter is never to go below zero, or
that the end of the source is never taken for a token; a routine that did one of these would have no
outcome, or one of its own.

* expression: term ((`+` or `-`) term)*
* term: factor ((`*` or `/`) factor)*
* factor: (`+` or `-`) factor, or integer, or `(` expression `)`, or name
* block: `BEGIN` statement (`;` statement)* `END`
* statement: block, or name `:=` expression, or nothing
* program: block `.`
-/
import MiniPascal.Proofs.Grammar.Derivation
import MiniPascal.Proofs.Parser.Run

namespace MiniPascal

namespace Descent

/-! ## Routines -/

/-- What the routines share. -/
structure State where
  /-- What is ahead. -/
  ahead : Ahead
  /-- The tokens that have been taken so far, the latest one first. -/
  taken : List Token
  /-- The number of groups that count as open. -/
  depth : Nat

/-- What stops all routines. -/
inductive Stop where
  /-- The source is at fault. -/
  | fault (fault : Fault)
  /-- A group has been counted off while none was open. -/
  | uncounted
  /-- The end of the source has been taken for a token. -/
  | exhausted

/-- A routine changes the state and comes to a value, or stops.  One that does not end has no
outcome. -/
abbrev Routine (α : Type) : Type := ExceptT Stop (StateT State Option) α

/-- The token in view, of which there is none at the end. -/
def inView : Routine (Option Token) := fun s => some (.ok s.ahead.current?, s)

/-- Takes the token in view, once the one behind it has been fetched.  A lexical fault there is
passed over, and nothing is taken. -/
def advance : Routine Token := fun s =>
  match s.ahead with
  | .finish => some (.error .exhausted, s)
  | .token t [] => some (.ok t, ⟨.finish, t :: s.taken, s.depth⟩)
  | .token t (.token next :: rest) => some (.ok t, ⟨.token next rest, t :: s.taken, s.depth⟩)
  | .token t (.fault fault :: rest) =>
    some (.error (.fault fault), ⟨.token t rest, s.taken, s.depth⟩)

/-- Counts a group that the token at the place has opened, and stops if it is one too many. -/
def enter (limit : Nat) (place : Span) : Routine Unit := fun s =>
  let deeper : State := ⟨s.ahead, s.taken, s.depth + 1⟩
  if limit < deeper.depth then
    some (.error (.fault ⟨.nestingTooDeep limit, place⟩), deeper)
  else some (.ok (), deeper)

/-- Counts off a group. -/
def leave : Routine Unit := fun s =>
  match s.depth with
  | 0 => some (.error .uncounted, s)
  | depth + 1 => some (.ok (), ⟨s.ahead, s.taken, depth⟩)

/-- The place of what is in view, in a source of `stop` characters. -/
def State.place (stop : Nat) (s : State) : Span :=
  match s.ahead.current? with
  | some t => t.span
  | none => .single stop

/-- Stops at what is in view, for a cause that tells of it. -/
def fail {α : Type} (stop : Nat) (cause : Option Token → Cause) : Routine α := fun s =>
  some (.error (.fault ⟨cause s.ahead.current?, s.place stop⟩), s)

/-- The cause to stop at what is found if something else was expected. -/
def mismatch (expected : Expected) (found : Option Token) : Cause :=
  .mismatch expected (found.map Token.kind)

/-- Takes a token of the kind. -/
def consume (stop : Nat) (kind : Kind) (expected : Expected) : Routine Token := do
  let found ← inView
  if found.map Token.kind = some kind then advance else fail stop (mismatch expected)

/-- Makes sure that the source ends here. -/
def expectEnd (stop : Nat) (mode : Mode) : Routine Unit := do
  let found ← inView
  if found.isNone then return ()
  else fail stop fun found => .trailing mode (found.map Token.kind)

/-! ## Operators -/

/-- The operator between terms that is found. -/
def additive? (found : Option Token) : Option Operator :=
  match found.map Token.kind with
  | some (.symbol .plus) => some .add
  | some (.symbol .minus) => some .sub
  | _ => none

/-- The operator between factors that is found. -/
def multiplicative? (found : Option Token) : Option Operator :=
  match found.map Token.kind with
  | some (.symbol .star) => some .mul
  | some (.symbol .slash) => some .div
  | _ => none

/-- The cause to stop at what is found in place of an operand. -/
def operandCause : Option Token → Cause
  | some ⟨.real _, text, _⟩ => .realOperand text
  | found => mismatch .operand found

/-! ## Parts without groups -/

/-- Reads the name that is in view. -/
def name : Routine Variable := do
  let word ← advance
  return ⟨word.text, word.span⟩

/-- Reads the statement that is empty in front of what is in view. -/
def nothing (stop : Nat) : Routine Stmt := fun s =>
  some (.ok (.empty (.emptyAt (s.place stop).start)), s)

/-! ## Expressions -/

/-- What stays the same while the routines run. -/
structure Setting where
  /-- The length of the source. -/
  stop : Nat
  /-- The greatest number of groups that may be open at once. -/
  limit : Nat

namespace Setting

mutual

/-- Reads an expression. -/
def expression (setting : Setting) : Routine Expr := do
  let first ← setting |>.term
  setting |>.terms first
partial_fixpoint

/-- Reads the terms behind those in `left`. -/
def terms (setting : Setting) (left : Expr) : Routine Expr := do
  let found ← inView
  match additive? found with
  | some op =>
    let _ ← advance
    let right ← setting |>.term
    setting |>.terms (.combine op left right)
  | none => return left
partial_fixpoint

/-- Reads a term. -/
def term (setting : Setting) : Routine Expr := do
  let first ← setting |>.factor
  setting |>.factors first
partial_fixpoint

/-- Reads the factors behind those in `left`. -/
def factors (setting : Setting) (left : Expr) : Routine Expr := do
  let found ← inView
  match multiplicative? found with
  | some op =>
    let _ ← advance
    let right ← setting |>.factor
    setting |>.factors (.combine op left right)
  | none => return left
partial_fixpoint

/-- Reads a factor. -/
def factor (setting : Setting) : Routine Expr := do
  let found ← inView
  match found.map Token.kind with
  | some (.symbol .plus) => setting |>.signed .plus
  | some (.symbol .minus) => setting |>.signed .minus
  | some (.integer value) =>
    let literal ← advance
    return .number value literal.span
  | some (.symbol .leftParen) => setting |>.group
  | some .identifier =>
    let v ← name
    return .var v
  | _ => fail setting.stop operandCause
partial_fixpoint

/-- Reads a factor with the sign that is in view. -/
def signed (setting : Setting) (sign : Sign) : Routine Expr := do
  let mark ← advance
  enter setting.limit mark.span
  let operand ← setting |>.factor
  leave
  return .unary sign operand (mark.span.join operand.span)
partial_fixpoint

/-- Reads an expression with the parenthesis that is in view around it. -/
def group (setting : Setting) : Routine Expr := do
  let opening ← advance
  enter setting.limit opening.span
  let inner ← setting |>.expression
  let _ ← consume setting.stop (.symbol .rightParen) .rightParen
  leave
  return inner
partial_fixpoint

end

/-! ## Statements -/

/-- Reads an assignment to the name that is in view. -/
def assignment (setting : Setting) : Routine Stmt := do
  let target ← name
  let _ ← consume setting.stop (.symbol .assign) .assign
  let value ← setting.expression
  return .assignment target value (target.span.join value.span)

mutual

/-- Reads a block. -/
def block (setting : Setting) : Routine Stmt := do
  let opening ← consume setting.stop (.keyword .blockBegin) .programBegin
  enter setting.limit opening.span
  let first ← setting |>.statement
  let body ← setting |>.statements [first]
  let closing ← consume setting.stop (.keyword .blockEnd) .blockEnd
  leave
  return .compound body (opening.span.join closing.span)
partial_fixpoint

/-- Reads the statements behind those in `done`, of which the latest comes first. -/
def statements (setting : Setting) (done : List Stmt) : Routine (List Stmt) := do
  let found ← inView
  if found.map Token.kind = some (.symbol .semicolon) then
    let _ ← advance
    let next ← setting |>.statement
    setting |>.statements (next :: done)
  else return done.reverse
partial_fixpoint

/-- Reads a statement. -/
def statement (setting : Setting) : Routine Stmt := do
  let found ← inView
  match found.map Token.kind with
  | some (.keyword .blockBegin) => setting |>.block
  | some .identifier => setting.assignment
  | _ => nothing setting.stop
partial_fixpoint

end

/-! ## Whole sources -/

/-- Reads a source of the mode up to its end. -/
def whole (setting : Setting) : Mode → Routine Tree
  | .program => do
    let body ← setting.block
    let _ ← consume setting.stop (.symbol .dot) .dot
    expectEnd setting.stop .program
    return .stmt body
  | .expression => do
    let e ← setting.expression
    expectEnd setting.stop .expression
    return .expr e

end Setting

end Descent

/-- The setting in which the routines do what the parser does within the bounds. -/
def Bounds.setting (bounds : Bounds) : Descent.Setting := ⟨bounds.stop, bounds.limit⟩

end MiniPascal
