/-
# Derivations

The grammar, as a type of derivations for each of its rules:

* program: block `.`
* block: `BEGIN` statements `END`
* statements: statement (`;` statement)*
* statement: block, or name `:=` expression, or nothing
* expression: term ((`+` or `-`) term)*
* term: factor ((`*` or `/`) factor)*
* factor: (`+` or `-`) factor, or integer, or `(` expression `)`, or name

The leaves of a derivation are the tokens that it derives (`yield`).  From a derivation alone one
reads off the tree it stands for (`tree`) and, for each token, how many groups it lies in
(`depths`): blocks, parentheses, and signs with their operands.  None of this refers to the parser.
-/
import MiniPascal.Mode
import MiniPascal.Token
import MiniPascal.Tree.Basic

namespace MiniPascal

/-! ## Kinds of operators -/

/-- The kind of the tokens that are the sign. -/
def Sign.kind : Sign → Kind
  | plus => .symbol .plus
  | minus => .symbol .minus

/-- The kind of the tokens that are the operator. -/
def Operator.kind : Operator → Kind
  | add => .symbol .plus
  | sub => .symbol .minus
  | mul => .symbol .star
  | div => .symbol .slash

/-- Whether the operator stands between the factors of a term, and not between terms. -/
def Operator.isMultiplicative : Operator → Bool
  | add | sub => false
  | mul | div => true

/-- The operation on two operands, which stands where they stand. -/
def Expr.combine (op : Operator) (left right : Expr) : Expr :=
  .binary op left right (left.span.join right.span)

namespace Grammar

/-! ## Derivations of expressions -/

/-- A leaf: a token of the kind that a rule asks for. -/
@[ext]
structure Leaf (kind : Kind) where
  /-- The token. -/
  token : Token
  /-- The token is of the kind. -/
  kind_eq : token.kind = kind

mutual

/-- A factor: a sign and a factor, an integer, an expression in parentheses, or a name. -/
inductive Factor where
  | signed (sign : Sign) (mark : Leaf sign.kind) (operand : Factor)
  | integer (value : Value) (literal : Leaf (.integer value))
  | group (opening : Leaf (.symbol .leftParen)) (inner : Expression)
      (closing : Leaf (.symbol .rightParen))
  | name (word : Leaf .identifier)

/-- The repetition behind the first factor of a term. -/
inductive Factors where
  | nil
  | cons (op : Operator) (multiplicative : op.isMultiplicative = true) (mark : Leaf op.kind)
      (factor : Factor) (rest : Factors)

/-- A term: factors with multiplicative operators between them. -/
inductive Term where
  | mk (first : Factor) (rest : Factors)

/-- The repetition behind the first term of an expression. -/
inductive Terms where
  | nil
  | cons (op : Operator) (additive : op.isMultiplicative = false) (mark : Leaf op.kind)
      (term : Term) (rest : Terms)

/-- An expression: terms with additive operators between them. -/
inductive Expression where
  | mk (first : Term) (rest : Terms)

end

/-! ## Derivations of statements -/

mutual

/-- A block: statements between `BEGIN` and `END`. -/
inductive Block where
  | mk (opening : Leaf (.keyword .blockBegin)) (body : Statements)
      (closing : Leaf (.keyword .blockEnd))

/-- One or more statements with semicolons between them. -/
inductive Statements where
  | last (statement : Statement)
  | cons (statement : Statement) (semicolon : Leaf (.symbol .semicolon)) (rest : Statements)

/-- A statement: a block, an assignment, or nothing. -/
inductive Statement where
  | block (inner : Block)
  | assignment (target : Leaf .identifier) (mark : Leaf (.symbol .assign)) (value : Expression)
  | empty

end

/-- A derivation of a whole source. -/
inductive Derivation : Mode → Type where
  | program (block : Block) (dot : Leaf (.symbol .dot)) : Derivation .program
  | expression (e : Expression) : Derivation .expression

/-! ## The derived tokens -/

mutual

/-- The tokens of a factor. -/
def Factor.yield : Factor → List Token
  | .signed _ mark operand => mark.token :: operand.yield
  | .integer _ literal => [literal.token]
  | .group opening inner closing => opening.token :: (inner.yield ++ [closing.token])
  | .name word => [word.token]

/-- The tokens of a repetition of factors. -/
def Factors.yield : Factors → List Token
  | .nil => []
  | .cons _ _ mark factor rest => mark.token :: (factor.yield ++ rest.yield)

/-- The tokens of a term. -/
def Term.yield : Term → List Token
  | .mk first rest => first.yield ++ rest.yield

/-- The tokens of a repetition of terms. -/
def Terms.yield : Terms → List Token
  | .nil => []
  | .cons _ _ mark term rest => mark.token :: (term.yield ++ rest.yield)

/-- The tokens of an expression. -/
def Expression.yield : Expression → List Token
  | .mk first rest => first.yield ++ rest.yield

end

mutual

/-- The tokens of a block. -/
def Block.yield : Block → List Token
  | .mk opening body closing => opening.token :: (body.yield ++ [closing.token])

/-- The tokens of statements. -/
def Statements.yield : Statements → List Token
  | .last statement => statement.yield
  | .cons statement semicolon rest => statement.yield ++ semicolon.token :: rest.yield

/-- The tokens of a statement. -/
def Statement.yield : Statement → List Token
  | .block inner => inner.yield
  | .assignment target mark value => target.token :: mark.token :: value.yield
  | .empty => []

end

/-- The tokens of a whole source. -/
def Derivation.yield {mode : Mode} : Derivation mode → List Token
  | .program block dot => block.yield ++ [dot.token]
  | .expression e => e.yield

/-- The grammar derives the tokens as a source of the mode. -/
def Derives (mode : Mode) (ts : List Token) : Prop := ∃ d : Derivation mode, d.yield = ts

/-! ## The tree of a derivation -/

mutual

/-- The tree of a factor: a sign applies to the factor behind it, and parentheses leave no node. -/
def Factor.tree : Factor → Expr
  | .signed sign mark operand => .unary sign operand.tree (mark.token.span.join operand.tree.span)
  | .integer value literal => .number value literal.token.span
  | .group _ inner _ => inner.tree
  | .name word => .var ⟨word.token.text, word.token.span⟩

/-- The tree of the factors behind `left`, folded to the left. -/
def Factors.fold (left : Expr) : Factors → Expr
  | .nil => left
  | .cons op _ _ factor rest => rest.fold (.combine op left factor.tree)

/-- The tree of a term. -/
def Term.tree : Term → Expr
  | .mk first rest => rest.fold first.tree

/-- The tree of the terms behind `left`, folded to the left. -/
def Terms.fold (left : Expr) : Terms → Expr
  | .nil => left
  | .cons op _ _ term rest => rest.fold (.combine op left term.tree)

/-- The tree of an expression. -/
def Expression.tree : Expression → Expr
  | .mk first rest => rest.fold first.tree

end

mutual

/-- The tree of a block. -/
def Block.tree : Block → Stmt
  | .mk opening body closing =>
    .compound (body.trees closing.token.span.start) (opening.token.span.join closing.token.span)

/-- The trees of statements in the order of the source, with a token at `next` behind them. -/
def Statements.trees (next : Nat) : Statements → List Stmt
  | .last statement => [statement.tree next]
  | .cons statement semicolon rest =>
    statement.tree semicolon.token.span.start :: rest.trees next

/-- The tree of a statement; an empty one stands at `next`, where the token behind it starts. -/
def Statement.tree (next : Nat) : Statement → Stmt
  | .block inner => inner.tree
  | .assignment target _ value =>
    .assignment ⟨target.token.text, target.token.span⟩ value.tree
      (target.token.span.join value.tree.span)
  | .empty => .empty (.emptyAt next)

end

/-- The tree of a whole source. -/
def Derivation.tree {mode : Mode} : Derivation mode → Tree
  | .program block _ => .stmt block.tree
  | .expression e => .expr e.tree

/-! ## Open groups

A block is open from behind its `BEGIN` up to its `END`, a parenthesis from behind `(` up to `)`,
and a sign from behind it up to the last token of its operand.
-/

mutual

/-- For each token of a factor inside `n` groups, how many groups are open in front of it. -/
def Factor.depths (n : Nat) : Factor → List Nat
  | .signed _ _ operand => n :: operand.depths (n + 1)
  | .integer _ _ => [n]
  | .group _ inner _ => n :: (inner.depths (n + 1) ++ [n + 1])
  | .name _ => [n]

/-- The same for a repetition of factors. -/
def Factors.depths (n : Nat) : Factors → List Nat
  | .nil => []
  | .cons _ _ _ factor rest => n :: (factor.depths n ++ rest.depths n)

/-- The same for a term. -/
def Term.depths (n : Nat) : Term → List Nat
  | .mk first rest => first.depths n ++ rest.depths n

/-- The same for a repetition of terms. -/
def Terms.depths (n : Nat) : Terms → List Nat
  | .nil => []
  | .cons _ _ _ term rest => n :: (term.depths n ++ rest.depths n)

/-- The same for an expression. -/
def Expression.depths (n : Nat) : Expression → List Nat
  | .mk first rest => first.depths n ++ rest.depths n

end

mutual

/-- For each token of a block inside `n` groups, how many groups are open in front of it. -/
def Block.depths (n : Nat) : Block → List Nat
  | .mk _ body _ => n :: (body.depths (n + 1) ++ [n + 1])

/-- The same for statements. -/
def Statements.depths (n : Nat) : Statements → List Nat
  | .last statement => statement.depths n
  | .cons statement _ rest => statement.depths n ++ n :: rest.depths n

/-- The same for a statement. -/
def Statement.depths (n : Nat) : Statement → List Nat
  | .block inner => inner.depths n
  | .assignment _ _ value => n :: n :: value.depths n
  | .empty => []

end

/-- For each token of a whole source, the number of groups that are open in front of it. -/
def Derivation.depths {mode : Mode} : Derivation mode → List Nat
  | .program block _ => block.depths 0 ++ [0]
  | .expression e => e.depths 0

end Grammar

end MiniPascal
