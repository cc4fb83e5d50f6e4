/-
# Evaluation by recursion on the tree

A chain of operators is evaluated along its left spine.  That this is no different from evaluating
the left operand, then the right one, and then the operation, is stated here once, so that no other
proof has to look at the spine.  Main statements:

* `evaluateChain_eq` : a chain is evaluated by evaluating its first operand, and then the links;
* `evaluate_unary`, `evaluate_binary` : the value of a node, from the values of its operands.
-/
import MiniPascal.Evaluation

namespace MiniPascal

/-- Two steps succeed if the first one does, and the second one does with its result. -/
theorem bind_eq_ok_iff {α β ε : Type} {first : Except ε α} {second : α → Except ε β} {b : β} :
    first >>= second = .ok b ↔ ∃ a, first = .ok a ∧ second a = .ok b := by
  cases first with
  | error e =>
    constructor
    · intro h
      cases h
    · rintro ⟨a, h, -⟩
      cases h
  | ok a =>
    constructor
    · exact fun h => ⟨a, rfl, h⟩
    · rintro ⟨a, h, hb⟩
      rwa [Except.ok.inj h]

namespace Expr

variable (env : Environment)

@[simp] theorem evaluateLinks_nil (left : Value) : evaluateLinks env left [] = .ok left := by
  rw [evaluateLinks]

theorem evaluateLinks_cons (left : Value) (link : Link) (links : List Link) :
    evaluateLinks env left (link :: links) = (do
      let right ← link.right.evaluate env
      evaluateLinks env (← link.apply left right) links) := by
  rw [evaluateLinks]
  rfl

@[simp] theorem evaluate_number (value : Value) (span : Span) :
    (number value span).evaluate env = .ok value := by
  rw [evaluate, evaluateChain, evaluateLinks_nil]

@[simp] theorem evaluate_var (v : Variable) : (var v).evaluate env = v.evaluate env := by
  rw [evaluate, evaluateChain]
  simp only [evaluateLinks_nil]
  exact bind_pure _

/-- The value of a node with a sign. -/
theorem evaluate_unary (sign : Sign) (operand : Expr) (span : Span) :
    (unary sign operand span).evaluate env = (do
      let value ← operand.evaluate env
      sign.apply span value) := by
  rw [evaluate, evaluateChain]
  simp only [evaluateLinks_nil]
  exact bind_congr fun value => bind_pure _

/-- **A chain is evaluated by evaluating its first operand**, and then the links. -/
theorem evaluateChain_eq (links : List Link) (e : Expr) :
    evaluateChain env links e = (do evaluateLinks env (← e.evaluate env) links) := by
  induction e generalizing links with
  | number value span =>
    rw [evaluateChain, evaluate_number]
    rfl
  | var v => rw [evaluateChain, evaluate_var]
  | unary sign operand span _ =>
    rw [evaluateChain, evaluate_unary, bind_assoc]
    rfl
  | binary op left right span ihleft _ =>
    -- Both sides walk down the left operand, the second one with a single link to go on with.
    have hnode : (binary op left right span).evaluate env =
        (do evaluateLinks env (← left.evaluate env) [⟨op, right, span⟩]) := by
      rw [evaluate, evaluateChain, ihleft]
    rw [evaluateChain, ihleft, hnode, bind_assoc]
    simp only [evaluateLinks_cons, evaluateLinks_nil, bind_assoc]
    rfl

/-- **The value of a node with an operator**: the left operand is evaluated, then the right one, and
then the operation. -/
theorem evaluate_binary (op : Operator) (left right : Expr) (span : Span) :
    (binary op left right span).evaluate env = (do
      let l ← left.evaluate env
      let r ← right.evaluate env
      Link.apply ⟨op, right, span⟩ l r) := by
  rw [evaluate, evaluateChain, evaluateChain_eq]
  simp only [evaluateLinks_cons, evaluateLinks_nil]
  exact bind_congr fun l => bind_congr fun r => bind_pure _

end Expr

end MiniPascal
