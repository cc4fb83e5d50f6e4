/-
# The value of an expression

Operands are evaluated from left to right and each operation as soon as its operands are known, so
the first fault in that order is the one that is met.  Chains of operators are walked along their
left spine.
-/
import MiniPascal.Environment
import MiniPascal.Fault
import MiniPascal.Tree.Spine

namespace MiniPascal

/-! ## Single operations -/

/-- The result of an operation of the node, or an overflow of that node. -/
def Span.checked (node : Span) : Option Value → Except Fault Value
  | some value => .ok value
  | none => .error ⟨.integerOverflow, node⟩

/-- Applies a sign to the value of its operand. -/
def Sign.apply (sign : Sign) (node : Span) (value : Value) : Except Fault Value :=
  match sign with
  | plus => .ok value
  | minus => node.checked value.neg?

/-- Applies an operator to the values of its operands; the right one stands at `divisor`. -/
def Operator.apply (op : Operator) (node divisor : Span) (left right : Value) :
    Except Fault Value :=
  match op with
  | add => node.checked (left.add? right)
  | sub => node.checked (left.sub? right)
  | mul => node.checked (left.mul? right)
  | div =>
    if right.toInt = 0 then .error ⟨.divisionByZero, divisor⟩ else node.checked (left.div? right)

/-- Applies the operator of a link to the values of its operands.  A division by the number zero
itself is defined to give zero; a divisor that only turns out to be zero is a fault. -/
def Link.apply (link : Link) (left right : Value) : Except Fault Value :=
  if link.op = .div ∧ link.right.isLiteralZero = true then .ok .zero
  else link.op.apply link.span link.right.span left right

/-- The value of a variable. -/
def Variable.evaluate (env : Environment) (v : Variable) : Except Fault Value :=
  match env.get? v.name with
  | some value => .ok value
  | none => .error ⟨.undefinedVariable v.name, v.span⟩

/-! ## Expressions -/

namespace Expr

mutual

/-- The value of the chain that starts with the expression and goes on with the links. -/
def evaluateChain (env : Environment) (links : List Link) : Expr → Except Fault Value
  | number value _ => evaluateLinks env value links
  | var v => do evaluateLinks env (← v.evaluate env) links
  | unary sign operand span => do
    let value ← evaluateChain env [] operand
    evaluateLinks env (← sign.apply span value) links
  | binary op left right span => evaluateChain env (⟨op, right, span⟩ :: links) left
termination_by e => e.weight + Link.weights links
decreasing_by all_goals simp only [weight, Link.weights]; omega

/-- The value of a chain of which the part before the links has the value `left`. -/
def evaluateLinks (env : Environment) (left : Value) (links : List Link) : Except Fault Value :=
  match links with
  | [] => .ok left
  | link :: rest => do
    let right ← evaluateChain env [] link.right
    evaluateLinks env (← link.apply left right) rest
termination_by Link.weights links
decreasing_by all_goals simp only [Link.weights]; omega

end

/-- The value of the expression. -/
def evaluate (e : Expr) (env : Environment) : Except Fault Value := evaluateChain env [] e

end Expr

end MiniPascal
