/-
# The text of a tree

A tree is shown as nested terms, one for each node, without the spans.  The text grows at its end
while the tree is walked; a chain of operators is walked along its left spine.
-/
import MiniPascal.Tree.Spine

namespace MiniPascal

namespace Expr

mutual

/-- Writes an expression behind `out`, and then the rest of the chain whose first operand it is. -/
def writeChain (out : String) (links : List Link) : Expr → String
  | number value _ => writeLinks (out ++ "Num(" ++ value.text ++ ")") links
  | var v => writeLinks (out ++ "Var(" ++ v.name ++ ")") links
  | unary sign operand _ =>
    writeLinks (writeChain (out ++ "UnaryExpr(" ++ sign.text ++ ", ") [] operand ++ ")") links
  | binary op left right span =>
    writeChain (out ++ "BinaryExpr(" ++ op.text ++ ", ") (⟨op, right, span⟩ :: links) left
termination_by e => e.weight + Link.weights links
decreasing_by all_goals simp only [weight, Link.weights]; omega

/-- Writes the right operands of a chain behind `out`, each with the end of its node. -/
def writeLinks (out : String) (links : List Link) : String :=
  match links with
  | [] => out
  | link :: rest => writeLinks (writeChain (out ++ ", ") [] link.right ++ ")") rest
termination_by Link.weights links
decreasing_by all_goals simp only [Link.weights]; omega

end

/-- The text of the expression. -/
def text (e : Expr) : String := writeChain "" [] e

end Expr

namespace Stmt

mutual

/-- Writes a statement behind `out`. -/
def write (out : String) : Stmt → String
  | assignment target value _ =>
    value.writeChain (out ++ "Assign(" ++ target.name ++ ", ") [] ++ ")"
  | compound body _ => writeList (out ++ "Compound[") "" body ++ "]"
  | empty _ => out ++ "Empty"

/-- Writes statements behind `out`, a comma between any two and `separator` before the first. -/
def writeList (out separator : String) : List Stmt → String
  | [] => out
  | s :: rest => writeList (s.write (out ++ separator)) ", " rest

end

/-- The text of the statement. -/
def text (s : Stmt) : String := s.write ""

end Stmt

/-- The text of the tree. -/
def Tree.text : Tree → String
  | expr e => e.text
  | stmt s => s.text

end MiniPascal
