/-
# Configurations of the parser

A configuration is what the parser knows between two tokens: what it has read of each block, group
and expression that is still open, and what the grammar asks for next.  The next token either moves
it to another configuration or is a fault; the grammar is

* program: block `.`
* block: `BEGIN` statement (`;` statement)* `END`
* statement: block, or name `:=` expression, or nothing
* expression: term ((`+` or `-`) term)*
* term: factor ((`*` or `/`) factor)*
* factor: (`+` or `-`) factor, or integer, or `(` expression `)`, or name

Each move takes exactly one token, and the kind of that token decides which move it is.  Trees are
built on the way: a repetition folds to the left and a pair of parentheses leaves no node.
-/
import MiniPascal.Fault
import MiniPascal.Tree.Basic

namespace MiniPascal

/-! ## Open expressions -/

/-- A left operand and the operator behind it, which wait for the right operand. -/
structure Pending where
  /-- The left operand. -/
  left : Expr
  /-- The operator behind it. -/
  op : Operator
  deriving DecidableEq

/-- The operation with its right operand, or the operand alone if nothing waits for it. -/
def Pending.close (pending : Option Pending) (right : Expr) : Expr :=
  match pending with
  | none => right
  | some p => .binary p.op p.left right (p.left.span.join right.span)

/-- What has been read, in front of an operand, of the expression in the innermost parentheses. -/
structure Level where
  /-- The terms so far, with the additive operator behind them. -/
  sum : Option Pending
  /-- The factors so far of the current term, with the multiplicative operator behind them. -/
  product : Option Pending
  /-- The signs in front of the operand with their places, the latest one first. -/
  signs : List (Sign × Span)
  deriving DecidableEq

namespace Level

/-- Nothing has been read yet. -/
def start : Level := ⟨none, none, []⟩

/-- The operand under its signs. -/
def signed (signs : List (Sign × Span)) (operand : Expr) : Expr :=
  signs.foldl (fun e sign => .unary sign.1 e (sign.2.join e.span)) operand

/-- The current term up to and including the operand. -/
def term (level : Level) (operand : Expr) : Expr :=
  Pending.close level.product (signed level.signs operand)

end Level

/-! ## Open blocks -/

/-- A block that has been opened and not closed. -/
structure Block where
  /-- Where its `BEGIN` stands. -/
  opening : Span
  /-- Its statements so far, the latest one first. -/
  done : List Stmt
  deriving DecidableEq

/-- The open blocks, of which there is at least one. -/
structure Blocks where
  /-- The innermost block. -/
  inner : Block
  /-- The blocks around it, from the inside out. -/
  outer : List Block
  deriving DecidableEq

namespace Blocks

/-- A new block inside the innermost one. -/
def nest (blocks : Blocks) (opening : Span) : Blocks :=
  ⟨⟨opening, []⟩, blocks.inner :: blocks.outer⟩

/-- A statement more in the innermost block. -/
def add (blocks : Blocks) (s : Stmt) : Blocks :=
  ⟨⟨blocks.inner.opening, s :: blocks.inner.done⟩, blocks.outer⟩

/-- The statement that the innermost block is once its `END` has been read. -/
def closed (blocks : Blocks) (ending : Span) : Stmt :=
  .compound blocks.inner.done.reverse (blocks.inner.opening.join ending)

/-- The number of open blocks. -/
def depth (blocks : Blocks) : Nat := blocks.outer.length + 1

end Blocks

/-! ## Configurations -/

/-- What an expression is read for. -/
inductive Goal where
  /-- It is the whole source. -/
  | whole
  /-- It is the value that is assigned to the target. -/
  | assignment (target : Variable) (blocks : Blocks)
  deriving DecidableEq

/-- What has been read, and what is asked for next. -/
inductive Config where
  /-- A program is about to start. -/
  | begin
  /-- A statement of the innermost block is about to start. -/
  | statement (blocks : Blocks)
  /-- The target of an assignment has been read. -/
  | target (v : Variable) (blocks : Blocks)
  /-- An operand is about to start; `outer` are the levels around the open parentheses. -/
  | operand (goal : Goal) (level : Level) (outer : List Level)
  /-- A term has been read as far as it goes, behind the terms in `sum`. -/
  | operator (goal : Goal) (sum : Option Pending) (term : Expr) (outer : List Level)
  /-- A block inside the innermost block has been closed. -/
  | separator (blocks : Blocks)
  /-- The block of the program has been closed. -/
  | dot (block : Stmt)
  /-- The dot of the program has been read. -/
  | finished (block : Stmt)
  deriving DecidableEq

/-- Where a token leads. -/
inductive Move where
  /-- The token opens no group. -/
  | shift (next : Config)
  /-- The token opens a block or parenthesis, or is a sign. -/
  | enter (next : Config)
  deriving DecidableEq

/-- The configuration that a move leads to. -/
def Move.next : Move → Config
  | shift next => next
  | enter next => next

namespace Config

/-- The configuration in which a source of the mode starts. -/
def start : Mode → Config
  | .program => begin
  | .expression => operand .whole .start []

/-! ## Moves -/

/-- The configuration behind the `END` of the innermost block. -/
def endBlock (blocks : Blocks) (ending : Span) : Config :=
  match blocks.outer with
  | [] => dot (blocks.closed ending)
  | block :: outer => separator (Blocks.add ⟨block, outer⟩ (blocks.closed ending))

/-- The move behind a statement of the innermost block. -/
def afterStatement? (blocks : Blocks) (t : Token) : Option Move :=
  match t.kind with
  | .symbol .semicolon => some (.shift (statement blocks))
  | .keyword .blockEnd => some (.shift (endBlock blocks t.span))
  | _ => none

/-- The move where a statement starts.  Any token but `BEGIN` and a name comes behind an empty
statement, which has its place where that token starts. -/
def statement? (blocks : Blocks) (t : Token) : Option Move :=
  match t.kind with
  | .keyword .blockBegin => some (.enter (statement (blocks.nest t.span)))
  | .identifier => some (.shift (target ⟨t.text, t.span⟩ blocks))
  | _ => afterStatement? (blocks.add (.empty (.emptyAt t.span.start))) t

/-- The move where an operand starts. -/
def operand? (goal : Goal) (level : Level) (outer : List Level) (t : Token) : Option Move :=
  match t.kind with
  | .symbol .plus =>
    some (.enter (operand goal ⟨level.sum, level.product, (.plus, t.span) :: level.signs⟩ outer))
  | .symbol .minus =>
    some (.enter (operand goal ⟨level.sum, level.product, (.minus, t.span) :: level.signs⟩ outer))
  | .symbol .leftParen => some (.enter (operand goal .start (level :: outer)))
  | .integer value =>
    some (.shift (operator goal level.sum (level.term (.number value t.span)) outer))
  | .identifier =>
    some (.shift (operator goal level.sum (level.term (.var ⟨t.text, t.span⟩)) outer))
  | _ => none

/-- The move behind an expression that has been read as far as it goes. -/
def afterExpression? (goal : Goal) (e : Expr) (outer : List Level) (t : Token) : Option Move :=
  match outer, goal with
  | level :: outer, goal =>
    if t.kind = .symbol .rightParen then
      some (.shift (operator goal level.sum (level.term e) outer))
    else none
  | [], .whole => none
  | [], .assignment v blocks =>
    afterStatement? (blocks.add (.assignment v e (v.span.join e.span))) t

/-- The move behind an operand. -/
def operator? (goal : Goal) (sum : Option Pending) (term : Expr) (outer : List Level) (t : Token) :
    Option Move :=
  match t.kind with
  | .symbol .star => some (.shift (operand goal ⟨sum, some ⟨term, .mul⟩, []⟩ outer))
  | .symbol .slash => some (.shift (operand goal ⟨sum, some ⟨term, .div⟩, []⟩ outer))
  | .symbol .plus =>
    some (.shift (operand goal ⟨some ⟨Pending.close sum term, .add⟩, none, []⟩ outer))
  | .symbol .minus =>
    some (.shift (operand goal ⟨some ⟨Pending.close sum term, .sub⟩, none, []⟩ outer))
  | _ => afterExpression? goal (Pending.close sum term) outer t

/-- Where the token leads, if the grammar allows it here. -/
def move? : Config → Token → Option Move
  | begin, t =>
    if t.kind = .keyword .blockBegin then some (.enter (statement ⟨⟨t.span, []⟩, []⟩)) else none
  | statement blocks, t => statement? blocks t
  | target v blocks, t =>
    if t.kind = .symbol .assign then some (.shift (operand (.assignment v blocks) .start []))
    else none
  | operand goal level outer, t => operand? goal level outer t
  | operator goal sum term outer, t => operator? goal sum term outer t
  | separator blocks, t => afterStatement? blocks t
  | dot block, t => if t.kind = .symbol .dot then some (.shift (finished block)) else none
  | finished _, _ => none

/-! ## Ends -/

/-- The tree of the source, if it may end here. -/
def tree? : Config → Option Tree
  | operator .whole sum term [] => some (.expr (Pending.close sum term))
  | finished block => some (.stmt block)
  | _ => none

/-- Why neither the token, of which there is none at the end, nor an end is allowed here. -/
def complaint (found : Option Token) : Config → Cause
  | begin => .mismatch .programBegin (found.map Token.kind)
  | statement _ | separator _ => .mismatch .blockEnd (found.map Token.kind)
  | target _ _ => .mismatch .assign (found.map Token.kind)
  | operand _ _ _ =>
    match found with
    | some ⟨.real _, text, _⟩ => .realOperand text
    | _ => .mismatch .operand (found.map Token.kind)
  | operator _ _ _ (_ :: _) => .mismatch .rightParen (found.map Token.kind)
  | operator (.assignment _ _) _ _ [] => .mismatch .blockEnd (found.map Token.kind)
  | operator .whole _ _ [] => .trailing .expression (found.map Token.kind)
  | dot _ => .mismatch .dot (found.map Token.kind)
  | finished _ => .trailing .program (found.map Token.kind)

/-! ## Open groups -/

/-- The number of parentheses and signs that wait around the level, one of each parenthesis. -/
def levelGroups : List Level → Nat
  | [] => 0
  | level :: outer => level.signs.length + 1 + levelGroups outer

/-- The number of blocks that are open around an expression. -/
def goalGroups : Goal → Nat
  | .whole => 0
  | .assignment _ blocks => blocks.depth

/-- The number of open groups: blocks, parentheses, and signs that wait for their operand. -/
def groups : Config → Nat
  | begin => 0
  | statement blocks => blocks.depth
  | target _ blocks => blocks.depth
  | operand goal level outer => goalGroups goal + level.signs.length + levelGroups outer
  | operator goal _ _ outer => goalGroups goal + levelGroups outer
  | separator blocks => blocks.depth
  | dot _ => 0
  | finished _ => 0

end Config

end MiniPascal
