/-
# Values in the place of variables

A variable may be replaced by the number that it is bound to, and the expression comes to the same
value or the same fault.  There is one exception, since a quotient by the number zero itself is zero
while a divisor that only turns out to be zero is a fault: where an evaluation fails because a
variable that it divides by is zero, the number in its place makes the quotient zero, and the
evaluation goes on.  Main statements:

* `Expr.apply_substitute` : one operation with the number in the place of the variable;
* `Expr.evaluate_substitute` : an expression with the number in the place of the variable;
* `Expr.substitution_exact` : the same, with what happens in the exceptional case.
-/
import MiniPascal.Proofs.Evaluation.Failures

namespace MiniPascal

namespace Expr

/-- The expression with the number in the place of each variable of the name. -/
def substitute (name : String) (value : Value) : Expr → Expr
  | number other span => number other span
  | var v => if v.name = name then number value v.span else var v
  | unary sign operand span => unary sign (operand.substitute name value) span
  | binary op left right span =>
    binary op (left.substitute name value) (right.substitute name value) span

/-- The node is a division by a variable of the name. -/
def IsDivisionBy (name : String) (node : Expr) : Prop :=
  ∃ left v span, node = binary .div left (var v) span ∧ v.name = name

/-- The evaluation comes to a division by a variable of the name, which turns out to be zero. -/
def FailsDividingBy (env : Environment) (name : String) (e : Expr) : Prop :=
  ∃ node fault, e.Reaches env node ∧ node.Fails env fault ∧ node.IsDivisionBy name ∧
    fault.cause = .divisionByZero

variable {env : Environment} {name : String} {value : Value}

/-! ## One operation -/

theorem span_substitute (e : Expr) : (e.substitute name value).span = e.span := by
  cases e with
  | var v =>
    rw [substitute]
    split <;> rfl
  | _ => rfl

/-- A number in the place of a variable is the number zero itself only if the variable is zero. -/
theorem isLiteralZero_substitute (name : String) (value : Value) (e : Expr) :
    (e.substitute name value).isLiteralZero = e.isLiteralZero ∨
      (value.toInt = 0 ∧ ∃ v, e = var v ∧ v.name = name) := by
  cases e with
  | var v =>
    by_cases hname : v.name = name
    · by_cases hzero : value.toInt = 0
      · exact Or.inr ⟨hzero, v, rfl, hname⟩
      · left
        rw [substitute, if_pos hname]
        exact decide_eq_false hzero
    · left
      rw [substitute, if_neg hname]
  | _ => exact Or.inl rfl

/-- **One operation with the number in the place of the variable** gives the same, or else it is a
division by the variable, which is zero. -/
theorem apply_substitute (name : String) (value : Value) (op : Operator) (right : Expr)
    (span : Span) (l r : Value) :
    Link.apply ⟨op, right.substitute name value, span⟩ l r = Link.apply ⟨op, right, span⟩ l r ∨
      (op = .div ∧ value.toInt = 0 ∧ ∃ v, right = var v ∧ v.name = name) := by
  rcases isLiteralZero_substitute name value right with hliteral | ⟨hzero, hright⟩
  · left
    rw [Link.apply, Link.apply]
    simp only [hliteral, span_substitute]
  · cases op with
    | div => exact Or.inr ⟨rfl, hzero, hright⟩
    | _ =>
      -- No other operator looks at how its right operand is written.
      left
      simp [Link.apply, span_substitute]

/-! ## Expressions -/

theorem FailsDividingBy.mono {d e : Expr} (h : d.FailsDividingBy env name)
    (hreaches : ∀ node, d.Reaches env node → e.Reaches env node) :
    e.FailsDividingBy env name := by
  obtain ⟨node, fault, hnode, hfails, hdivision, hcause⟩ := h
  exact ⟨node, fault, hreaches node hnode, hfails, hdivision, hcause⟩

/-- **An expression with the number in the place of the variable** comes to the same, or else its
evaluation fails at a division by the variable, which is zero. -/
theorem evaluate_substitute (hvalue : env.get? name = some value) (e : Expr) :
    (e.substitute name value).evaluate env = e.evaluate env ∨
      (value.toInt = 0 ∧ e.FailsDividingBy env name) := by
  induction e with
  | number other span => exact Or.inl rfl
  | var v =>
    left
    rw [substitute]
    split
    · next hname => rw [evaluate_number, evaluate_var, Variable.evaluate, hname, hvalue]
    · rfl
  | unary sign operand span ih =>
    rcases ih with heq | ⟨hzero, hfails⟩
    · left
      rw [substitute, evaluate_unary, evaluate_unary, heq]
    · exact Or.inr ⟨hzero, hfails.mono fun node => .operand⟩
  | binary op left right span ihleft ihright =>
    rcases ihleft with hleft | ⟨hzero, hfails⟩
    swap
    · exact Or.inr ⟨hzero, hfails.mono fun node => .left⟩
    rw [substitute, evaluate_binary, evaluate_binary, hleft]
    cases hl : left.evaluate env with
    | error fault => exact Or.inl rfl
    | ok l =>
      -- The right operand is reached only if the left one has a value.
      rcases ihright with hright | ⟨hzero, hfails⟩
      swap
      · exact Or.inr ⟨hzero, hfails.mono fun node => .right hl⟩
      rw [hright]
      cases hr : right.evaluate env with
      | error fault => exact Or.inl rfl
      | ok r =>
        rcases apply_substitute name value op right span l r with happly |
          ⟨rfl, hzero, v, rfl, hname⟩
        · exact Or.inl happly
        · have hvalued : r = value := by
            rw [evaluate_var, Variable.evaluate, hname, hvalue] at hr
            exact (Except.ok.inj hr).symm
          refine Or.inr ⟨hzero, _, _, .here _, .divisor hl hr ?_ rfl, ⟨left, v, span, rfl, hname⟩,
            rfl⟩
          rw [hvalued, hzero]

/-- An expression with a value has the same one with the number in the place of the variable. -/
theorem evaluate_substitute_of_ok (hvalue : env.get? name = some value) {e : Expr} {w : Value}
    (h : e.evaluate env = .ok w) : (e.substitute name value).evaluate env = .ok w := by
  rcases evaluate_substitute hvalue e with heq | ⟨-, node, fault, hreaches, hfails, -, -⟩
  · rw [heq, h]
  · rw [evaluate_eq_error_iff.2 ⟨node, hreaches, hfails⟩] at h
    cases h

/-- **What happens at a division by the variable that fails**: the variable is zero, and with the
number in its place the quotient is zero. -/
theorem IsDivisionBy.evaluate_substitute (hvalue : env.get? name = some value) {node : Expr}
    {fault : Fault} (h : node.IsDivisionBy name) (hfails : node.Fails env fault)
    (hcause : fault.cause = .divisionByZero) :
    value.toInt = 0 ∧ (node.substitute name value).evaluate env = .ok .zero := by
  obtain ⟨left, v, span, rfl, hname⟩ := h
  cases hfails with
  | combined _ _ _ => cases hcause
  | @divisor _ _ _ l r hl hr hzero _ =>
    rw [evaluate_var, Variable.evaluate, hname, hvalue] at hr
    obtain rfl := Except.ok.inj hr
    refine ⟨hzero, ?_⟩
    have hliteral : (number value v.span).isLiteralZero = true := decide_eq_true hzero
    rw [substitute, evaluate_binary, evaluate_substitute_of_ok hvalue hl, substitute, if_pos hname,
      evaluate_number]
    exact if_pos ⟨rfl, hliteral⟩

/-- **A bound variable may be replaced by its number, with one exception.**  The expression with the
number in its place comes to the same value or the same fault, unless the evaluation fails because
the variable is zero and is divided by.  So if there is a value it stays the same, and nothing
changes if the variable is not zero.  In the exceptional case the division that fails has the
quotient zero with the number in the place of the variable. -/
theorem substitution_exact (hvalue : env.get? name = some value) (e : Expr) :
    (¬(value.toInt = 0 ∧ e.FailsDividingBy env name) →
      (e.substitute name value).evaluate env = e.evaluate env) ∧
    (∀ w, e.evaluate env = .ok w → (e.substitute name value).evaluate env = .ok w) ∧
    (value.toInt ≠ 0 → (e.substitute name value).evaluate env = e.evaluate env) ∧
    ∀ node fault, e.Reaches env node → node.Fails env fault → node.IsDivisionBy name →
      fault.cause = .divisionByZero →
      value.toInt = 0 ∧ e.evaluate env = .error fault ∧
        (node.substitute name value).evaluate env = .ok .zero := by
  have hcases := evaluate_substitute hvalue e
  refine ⟨hcases.resolve_right, fun w => evaluate_substitute_of_ok hvalue, ?_, ?_⟩
  · intro hne
    exact hcases.resolve_right fun h => hne h.1
  · intro node fault hreaches hfails hdivision hcause
    obtain ⟨hzero, hnode⟩ := hdivision.evaluate_substitute hvalue hfails hcause
    exact ⟨hzero, evaluate_eq_error_iff.2 ⟨node, hreaches, hfails⟩, hnode⟩

/-- Where `x` is zero, `1 / x` fails, and `1 / 0` does not; `1 / (x + x)` and `1 / (0 + 0)` both
fail, with the same fault. -/
theorem substitution_exact_zero :
    let one : Expr := .number ⟨1, by decide, by decide⟩ ⟨0, 1⟩
    let x (start : Nat) : Expr := .var ⟨"x", ⟨start, start + 1⟩⟩
    let quotient : Expr := .binary .div one (x 4) ⟨0, 5⟩
    let env := Environment.empty.assign "x" .zero
    (quotient.evaluate env = .error ⟨.divisionByZero, ⟨4, 5⟩⟩ ∧
      (quotient.substitute "x" .zero).evaluate env = .ok .zero) ∧
    let sum : Expr := .binary .add (x 5) (x 9) ⟨5, 10⟩
    ¬FailsDividingBy env "x" (.binary .div one sum ⟨0, 11⟩) ∧
      (substitute "x" .zero (.binary .div one sum ⟨0, 11⟩)).evaluate env =
        (Expr.binary .div one sum ⟨0, 11⟩).evaluate env := by
  intro one x quotient env
  have hx : env.get? "x" = some .zero := by decide +kernel
  constructor
  · obtain ⟨-, hfault, hquotient⟩ := (substitution_exact hx quotient).2.2.2 _ _ (.here _)
      (.divisor (l := ⟨1, by decide, by decide⟩) (r := .zero) (by decide +kernel)
        (by decide +kernel) rfl rfl) ⟨one, ⟨"x", ⟨4, 5⟩⟩, ⟨0, 5⟩, rfl, rfl⟩ rfl
    exact ⟨hfault, hquotient⟩
  · intro sum
    have hother : ¬FailsDividingBy env "x" (.binary .div one sum ⟨0, 11⟩) := by
      rintro ⟨node, fault, hreaches, -, ⟨left, v, span, rfl, -⟩, -⟩
      simpa [subexpressions, one, sum, x] using hreaches.mem_subexpressions
    exact ⟨hother, (substitution_exact hx _).1 fun h => hother h.2⟩

end Expr

end MiniPascal
