/-
# Evaluation along the spine

Chains of operators are evaluated along their left spine: from the operand at the bottom up, one
link after another, each with the operand to its right and the place of its node.  The value of an
expression by recursion on its tree alone is defined here a second time, from exact integers and
without spines; the two are the same, faults included.  Main statements:

* `evaluate_eq_foldlM` : an evaluation folds the links of the spine;
* `evaluate_eq_denote` : it gives what the recursion on the tree gives;
* `spine_agrees` : all of this together, with the faults in words.
-/
import MiniPascal.Proofs.Evaluation.Failures

namespace MiniPascal

/-- The integer as the result of the node, or an overflow of that node. -/
def Span.limited (node : Span) (n : Int) : Except Fault Value :=
  if h : -2 ^ 63 ≤ n ∧ n < 2 ^ 63 then .ok ⟨n, h.1, h.2⟩ else .error ⟨.integerOverflow, node⟩

theorem Span.checked_ofInt? (node : Span) (n : Int) :
    node.checked (Value.ofInt? n) = node.limited n := by
  cases hvalue : Value.ofInt? n with
  | some v =>
    obtain rfl := Value.ofInt?_eq_some_iff.1 hvalue
    have hrange : -2 ^ 63 ≤ v.toInt ∧ v.toInt < 2 ^ 63 := ⟨v.lower, v.upper⟩
    rw [checked, limited, dif_pos hrange]
  | none =>
    have hrange := Value.ofInt?_eq_none_iff.1 hvalue
    rw [checked, limited, dif_neg (by omega)]

/-- The operation of a link by exact integers: a quotient is zero if its divisor is written as the
number zero; if it only turns out to be zero, the fault stands at the divisor, and an overflow
stands at the node. -/
theorem Link.apply_eq_limited (op : Operator) (right : Expr) (span : Span) (l r : Value) :
    Link.apply ⟨op, right, span⟩ l r =
      if op = .div ∧ right.isLiteralZero = true then .ok .zero
      else if op = .div ∧ r.toInt = 0 then .error ⟨.divisionByZero, right.span⟩
      else span.limited (op.exact l.toInt r.toInt) := by
  rw [Link.apply]
  refine if_congr Iff.rfl rfl ?_
  cases op with
  | div =>
    rw [Operator.apply]
    refine if_congr (by simp) rfl ?_
    exact span.checked_ofInt? _
  | add => exact span.checked_ofInt? _
  | sub => exact span.checked_ofInt? _
  | mul => exact span.checked_ofInt? _

namespace Expr

/-! ## Spines -/

/-- The operand at the bottom of the left spine. -/
def bottom : Expr → Expr
  | binary _ left _ _ => left.bottom
  | number value span => number value span
  | var v => var v
  | unary sign operand span => unary sign operand span

/-- The links of the left spine, from the bottom up. -/
def links : Expr → List Link
  | binary op left right span => left.links ++ [⟨op, right, span⟩]
  | number _ _ | var _ | unary _ _ _ => []

variable (env : Environment)

/-- Goes on from the value of what is to the left of a link: the operand to its right is evaluated,
and then the operation. -/
def climb (left : Value) (link : Link) : Except Fault Value := do
  let right ← link.right.evaluate env
  link.apply left right

/-- **An evaluation folds the links of the spine**, starting with the value of its bottom. -/
theorem evaluate_eq_foldlM (e : Expr) :
    e.evaluate env = (do e.links.foldlM (climb env) (← e.bottom.evaluate env)) := by
  induction e with
  | number value span => exact (bind_pure _).symm
  | var v => exact (bind_pure _).symm
  | unary sign operand span _ => exact (bind_pure _).symm
  | binary op left right span ihleft _ =>
    rw [evaluate_binary, ihleft, bind_assoc, links, bottom]
    refine bind_congr fun first => ?_
    rw [List.foldlM_append]
    refine bind_congr fun l => ?_
    rw [List.foldlM_cons]
    exact (bind_pure _).symm

/-! ## Recursion on the tree -/

/-- The value of the expression by recursion on its tree: the left operand comes first, then the
right one, and then the operation on exact integers. -/
def denote : Expr → Except Fault Value
  | number value _ => .ok value
  | var v =>
    match env.get? v.name with
    | some value => .ok value
    | none => .error ⟨.undefinedVariable v.name, v.span⟩
  | unary .plus operand _ => operand.denote
  | unary .minus operand span => do
    let v ← operand.denote
    span.limited (-v.toInt)
  | binary op left right span => do
    let l ← left.denote
    let r ← right.denote
    if op = .div ∧ right.isLiteralZero = true then .ok .zero
    else if op = .div ∧ r.toInt = 0 then .error ⟨.divisionByZero, right.span⟩
    else span.limited (op.exact l.toInt r.toInt)

/-- **The spine gives what the recursion on the tree gives**, faults included. -/
theorem evaluate_eq_denote (e : Expr) : e.evaluate env = e.denote env := by
  induction e with
  | number value span => rw [evaluate_number, denote]
  | var v => exact evaluate_var env v
  | unary sign operand span ih =>
    rw [evaluate_unary, ih]
    cases sign with
    | plus =>
      rw [denote]
      exact bind_pure _
    | minus =>
      rw [denote]
      exact bind_congr fun v => span.checked_ofInt? _
  | binary op left right span ihleft ihright =>
    rw [evaluate_binary, ihleft, ihright, denote]
    exact bind_congr fun l => bind_congr fun r => Link.apply_eq_limited op right span l r

/-! ## The faults in words -/

/-- The fault in words: an unbound variable is told at its place, a division by zero at the divisor,
and an overflow at the node. -/
inductive Tells (e : Expr) : Diagnostic → Prop
  | unbound {v : Variable} : var v ∈ e.subexpressions →
    Tells e ⟨.naming, v.span, "Undefined variable '" ++ v.name ++ "'",
      some "Assign a value with ':=' before reading the variable."⟩
  | divisor {left right : Expr} {span : Span} : binary .div left right span ∈ e.subexpressions →
    right.isLiteralZero = false → Tells e ⟨.arithmetic, right.span, "Division by zero", none⟩
  | negation {operand : Expr} {span : Span} : unary .minus operand span ∈ e.subexpressions →
    Tells e ⟨.arithmetic, span, "Integer overflow", none⟩
  | operation {op : Operator} {left right : Expr} {span : Span} :
    binary op left right span ∈ e.subexpressions →
    Tells e ⟨.arithmetic, span, "Integer overflow", none⟩

theorem tells_of_evaluate {env : Environment} {e : Expr} {fault : Fault}
    (h : e.evaluate env = .error fault) : e.Tells fault.diagnostic := by
  obtain ⟨node, hreaches, hfails⟩ := evaluate_eq_error_iff.1 h
  have hnode := hreaches.mem_subexpressions
  cases hfails with
  | unbound _ => exact .unbound hnode
  | @signed sign operand span w _ hrange =>
    cases sign with
    | plus => exact absurd (Value.inRange_iff.2 ⟨w, rfl⟩) hrange
    | minus => exact .negation hnode
  | divisor _ _ _ hliteral => exact .divisor hnode hliteral
  | combined _ _ _ => exact .operation hnode

/-- **The evaluation along the spine agrees with the recursion on the tree.**  For every expression
and environment the two come to the same value or to the same fault, and the environment stays as it
is.  The evaluation folds the links of the left spine from its bottom up, and a fault is told in the
words for its cause, at its place in the expression. -/
theorem spine_agrees (env : Environment) (e : Expr) :
    e.evaluate env = e.denote env ∧
    (Tree.expr e).evaluate env = ((e.denote env).map some, env) ∧
    e.evaluate env = (do e.links.foldlM (climb env) (← e.bottom.evaluate env)) ∧
    ∀ fault, e.denote env = .error fault → e.Tells fault.diagnostic := by
  have hdenote := evaluate_eq_denote env e
  refine ⟨hdenote, ?_, evaluate_eq_foldlM env e, ?_⟩
  · rw [Tree.evaluate, hdenote]
  · intro fault hfault
    exact tells_of_evaluate (hdenote.trans hfault)

/-- In `6 / 0 - 7 / z`, where `z` is zero, only the second division fails, and its fault stands at
`z`. -/
theorem spine_agrees_zero_divisors :
    let digit (n : Nat) (h : n < 10) (span : Span) : Expr := .number ⟨n, by omega, by omega⟩ span
    let e : Expr := .binary .sub
      (.binary .div (digit 6 (by decide) ⟨0, 1⟩) (digit 0 (by decide) ⟨4, 5⟩) ⟨0, 5⟩)
      (.binary .div (digit 7 (by decide) ⟨8, 9⟩) (.var ⟨"z", ⟨12, 13⟩⟩) ⟨8, 13⟩) ⟨0, 13⟩
    let env := Environment.empty.assign "z" .zero
    e.denote env = .error ⟨.divisionByZero, ⟨12, 13⟩⟩ ∧
      e.evaluate env = .error ⟨.divisionByZero, ⟨12, 13⟩⟩ ∧
      e.Tells ⟨.arithmetic, ⟨12, 13⟩, "Division by zero", none⟩ := by
  intro digit e env
  have hfault : e.denote env = .error ⟨.divisionByZero, ⟨12, 13⟩⟩ := by decide +kernel
  obtain ⟨hagrees, -, -, htells⟩ := spine_agrees env e
  exact ⟨hfault, hagrees.trans hfault, htells _ hfault⟩

end Expr

end MiniPascal
