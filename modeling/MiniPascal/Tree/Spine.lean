/-
# Left spines

A chain of operators such as `1 + 2 + 3` leans to the left: its first operand lies at the bottom of
as many nodes as there are operators.  Work on an expression walks down to that operand and keeps
the rest of the chain in a list of links, so that only parentheses and signs nest and not the
operators of a chain.  The weight of what is left to do falls with every step of such a walk.
-/
import MiniPascal.Tree.Basic

namespace MiniPascal

/-- An operator of a chain with the operand to its right and the span of the node. -/
structure Link where
  /-- The operator. -/
  op : Operator
  /-- The operand to the right of the operator. -/
  right : Expr
  /-- The stretch from the first operand of the chain to this one. -/
  span : Span
  deriving DecidableEq

/-- A measure of an expression: each node counts, and an operator counts twice. -/
def Expr.weight : Expr → Nat
  | number .. => 1
  | var _ => 1
  | unary _ operand _ => operand.weight + 1
  | binary _ left right _ => left.weight + right.weight + 2

/-- The measure of the links of a chain: that of the operands, and one for each operator. -/
def Link.weights : List Link → Nat
  | [] => 0
  | link :: links => link.right.weight + 1 + weights links

end MiniPascal
