/-
# Trees

What a source means once its tokens are arranged: expressions, which have a value, and statements,
which change the bindings of variables.  Every node knows the stretch of the source it was read
from; parentheses leave no node.
-/
import MiniPascal.Span
import MiniPascal.Value

namespace MiniPascal

/-! ## Expressions -/

/-- A sign in front of an operand. -/
inductive Sign where
  | plus
  | minus
  deriving DecidableEq

/-- The sign as it is written. -/
def Sign.text : Sign → String
  | plus => "+"
  | minus => "-"

/-- An operator between two operands. -/
inductive Operator where
  | add
  | sub
  | mul
  | div
  deriving DecidableEq

/-- The operator as it is written. -/
def Operator.text : Operator → String
  | add => "+"
  | sub => "-"
  | mul => "*"
  | div => "/"

/-- A variable where it is read or assigned to. -/
structure Variable where
  /-- The name of the variable. -/
  name : String
  /-- Where the name stands. -/
  span : Span
  deriving DecidableEq

/-- An arithmetic expression. -/
inductive Expr where
  | number (value : Value) (span : Span)
  | var (v : Variable)
  | unary (sign : Sign) (operand : Expr) (span : Span)
  | binary (op : Operator) (left right : Expr) (span : Span)
  deriving DecidableEq

namespace Expr

/-- Where the expression stands. -/
def span : Expr → Span
  | number _ span => span
  | var v => v.span
  | unary _ _ span => span
  | binary _ _ _ span => span

/-- Whether the expression is the number zero itself, and not one that merely has this value. -/
def isLiteralZero : Expr → Bool
  | number value _ => value.toInt = 0
  | _ => false

end Expr

/-! ## Statements -/

/-- A statement. -/
inductive Stmt where
  | assignment (target : Variable) (value : Expr) (span : Span)
  /-- A block, with its statements in the order of the source. -/
  | compound (body : List Stmt) (span : Span)
  | empty (span : Span)

namespace Stmt

/-- Where the statement stands. -/
def span : Stmt → Span
  | assignment _ _ span => span
  | compound _ span => span
  | empty span => span

mutual

/-- Whether two statements are the same, node by node. -/
def decEq : (s t : Stmt) → Decidable (s = t)
  | assignment x e p, assignment y f q =>
    decidable_of_iff (x = y ∧ e = f ∧ p = q) (by simp)
  | compound xs p, compound ys q =>
    have := decEqList xs ys
    decidable_of_iff (xs = ys ∧ p = q) (by simp)
  | empty p, empty q => decidable_of_iff (p = q) (by simp)
  | assignment .., compound .. | assignment .., empty _ | compound .., assignment ..
  | compound .., empty _ | empty _, assignment .. | empty _, compound .. => isFalse (by simp)

/-- Whether two lists of statements are the same, node by node. -/
def decEqList : (xs ys : List Stmt) → Decidable (xs = ys)
  | [], [] => isTrue rfl
  | x :: xs, y :: ys =>
    have := decEq x y
    have := decEqList xs ys
    decidable_of_iff (x = y ∧ xs = ys) (by simp)
  | [], _ :: _ | _ :: _, [] => isFalse (by simp)

end

instance : DecidableEq Stmt := decEq

mutual

/-- The number of assignments and empty statements, those inside blocks included. -/
def statementCount : Stmt → Nat
  | assignment .. => 1
  | compound body _ => statementCountList body
  | empty _ => 1

/-- The number of assignments and empty statements in a list of statements. -/
def statementCountList : List Stmt → Nat
  | [] => 0
  | s :: rest => s.statementCount + statementCountList rest

end

end Stmt

/-! ## Whole trees -/

/-- The tree of a whole source. -/
inductive Tree where
  | expr (e : Expr)
  | stmt (s : Stmt)
  deriving DecidableEq

namespace Tree

/-- Where the tree stands. -/
def span : Tree → Span
  | expr e => e.span
  | stmt s => s.span

/-- The number of assignments and empty statements of the tree. -/
def statementCount : Tree → Nat
  | expr _ => 0
  | stmt s => s.statementCount

end Tree

end MiniPascal
