/-
# Exact values

The exact value of an expression is computed without limits.  An expression has a value in an
environment if its variables are bound, it divides by nothing that turns out to be zero, and the
exact values of all its parts are within the limits; its value is then the exact one.  Main
statements:

* `Link.apply_eq_ok_iff` : an operation gives its exact result, or none;
* `evaluate_eq_ok_iff` : which expressions have a value, and which one;
* `evaluate_exact` : the same, with where operations overflow and what assignments store.
-/
import MiniPascal.Execution
import MiniPascal.Proofs.Evaluation.Recursion
import Mathlib.Algebra.Ring.Int.Defs
import Mathlib.Control.Monad.Basic

namespace MiniPascal

/-! ## Exact results -/

/-- The integer is within the limits of the values. -/
def Value.InRange (n : Int) : Prop := -2 ^ 63 ≤ n ∧ n ≤ 2 ^ 63 - 1

/-- The integers within the limits are those that are values. -/
theorem Value.inRange_iff {n : Int} : InRange n ↔ ∃ v : Value, v.toInt = n := by
  unfold InRange
  constructor
  · rintro ⟨hlower, hupper⟩
    exact ⟨⟨n, by omega, by omega⟩, rfl⟩
  · rintro ⟨v, rfl⟩
    have hlower := v.lower
    have hupper := v.upper
    omega

/-- What a sign makes of an integer. -/
def Sign.exact (sign : Sign) (n : Int) : Int :=
  match sign with
  | plus => n
  | minus => -n

/-- What an operator makes of two integers; the quotient is truncated toward zero. -/
def Operator.exact (op : Operator) (m n : Int) : Int :=
  match op with
  | add => m + n
  | sub => m - n
  | mul => m * n
  | div => m.tdiv n

namespace Expr

/-- The exact value of the expression, where dividing by the number zero itself gives zero, and a
variable that is not bound counts as zero. -/
def exact (env : Environment) : Expr → Int
  | number value _ => value.toInt
  | var v => ((env.get? v.name).map Value.toInt).getD 0
  | unary sign operand _ => sign.exact (operand.exact env)
  | binary op left right _ =>
    if op = .div ∧ right.isLiteralZero = true then 0
    else op.exact (left.exact env) (right.exact env)

/-- The expression itself and all its parts. -/
def subexpressions : Expr → List Expr
  | number value span => [number value span]
  | var v => [var v]
  | unary sign operand span => unary sign operand span :: operand.subexpressions
  | binary op left right span =>
    binary op left right span :: (left.subexpressions ++ right.subexpressions)

/-- What it takes for an expression to have a value. -/
structure Defined (env : Environment) (e : Expr) : Prop where
  /-- All variables are bound. -/
  bound : ∀ v, var v ∈ e.subexpressions → ∃ value, env.get? v.name = some value
  /-- No divisor but the number zero itself is zero. -/
  divisor : ∀ left right span, binary .div left right span ∈ e.subexpressions →
    right.isLiteralZero = false → right.exact env ≠ 0
  /-- The exact values of all parts are within the limits. -/
  inRange : ∀ d ∈ e.subexpressions, Value.InRange (d.exact env)

end Expr

/-! ## Single operations -/

theorem Span.checked_eq_ok_iff {node : Span} {result : Option Value} {v : Value} :
    node.checked result = .ok v ↔ result = some v := by
  cases result <;> simp [checked]

/-- A sign gives its exact result, or none. -/
theorem Sign.apply_eq_ok_iff {sign : Sign} {node : Span} {w v : Value} :
    sign.apply node w = .ok v ↔ v.toInt = sign.exact w.toInt := by
  cases sign with
  | plus =>
    rw [apply, Except.ok.injEq, Value.ext_iff]
    exact eq_comm
  | minus => rw [apply, Span.checked_eq_ok_iff, Value.neg?, Value.ofInt?_eq_some_iff, exact]

/-- An operator gives its exact result, or none; a quotient only if the divisor is not zero. -/
theorem Operator.apply_eq_ok_iff {op : Operator} {node divisor : Span} {l r v : Value} :
    op.apply node divisor l r = .ok v ↔
      (op = .div → r.toInt ≠ 0) ∧ v.toInt = op.exact l.toInt r.toInt := by
  cases op with
  | add => simp [apply, exact, Span.checked_eq_ok_iff, Value.add?, Value.ofInt?_eq_some_iff]
  | sub => simp [apply, exact, Span.checked_eq_ok_iff, Value.sub?, Value.ofInt?_eq_some_iff]
  | mul => simp [apply, exact, Span.checked_eq_ok_iff, Value.mul?, Value.ofInt?_eq_some_iff]
  | div =>
    rw [apply]
    by_cases hr : r.toInt = 0
    · simp [hr]
    · simp [hr, exact, Span.checked_eq_ok_iff, Value.div?, Value.ofInt?_eq_some_iff]

/-- **An operation gives its exact result, or none**; a quotient only if the divisor is not zero or
written as such. -/
theorem Link.apply_eq_ok_iff {op : Operator} {right : Expr} {node : Span} {l r v : Value} :
    Link.apply ⟨op, right, node⟩ l r = .ok v ↔
      (op = .div → right.isLiteralZero = false → r.toInt ≠ 0) ∧
        v.toInt = if op = .div ∧ right.isLiteralZero = true then 0
          else op.exact l.toInt r.toInt := by
  rw [apply]
  by_cases hzero : op = .div ∧ right.isLiteralZero = true
  · rw [if_pos hzero, if_pos hzero, Except.ok.injEq, Value.ext_iff]
    simp [hzero.2, Value.zero, eq_comm]
  · rw [if_neg hzero, if_neg hzero, Operator.apply_eq_ok_iff]
    have hop : op = .div → right.isLiteralZero = false := by
      intro hop
      simpa [hop] using hzero
    constructor
    · rintro ⟨hr, hv⟩
      exact ⟨fun hdiv _ => hr hdiv, hv⟩
    · rintro ⟨hr, hv⟩
      exact ⟨fun hdiv => hr hdiv (hop hdiv), hv⟩

namespace Expr

variable {env : Environment}

/-! ## What it takes for a node to have a value -/

theorem mem_subexpressions_self (e : Expr) : e ∈ e.subexpressions := by
  cases e <;> exact List.mem_cons_self

/-- A part of an expression takes no more than the whole. -/
theorem Defined.mono {d e : Expr} (h : Defined env e) (hsub : d.subexpressions ⊆ e.subexpressions) :
    Defined env d where
  bound v hv := h.bound v (hsub hv)
  divisor left right span hd := h.divisor left right span (hsub hd)
  inRange d' hd := h.inRange d' (hsub hd)

/-- A number always has a value. -/
theorem Defined.number (value : Value) (span : Span) : Defined env (number value span) := by
  constructor
  · intro v hv
    cases List.mem_singleton.1 hv
  · intro l r s hd
    cases List.mem_singleton.1 hd
  · intro d hd
    rw [List.mem_singleton.1 hd, Value.inRange_iff]
    exact ⟨value, rfl⟩

/-- A variable has a value if it is bound. -/
theorem Defined.var_iff {v : Variable} :
    Defined env (var v) ↔ ∃ value, env.get? v.name = some value := by
  constructor
  · exact fun h => h.bound v List.mem_cons_self
  · rintro ⟨value, hvalue⟩
    constructor
    · intro w hw
      cases List.mem_singleton.1 hw
      exact ⟨value, hvalue⟩
    · intro l r s hd
      cases List.mem_singleton.1 hd
    · intro d hd
      rw [List.mem_singleton.1 hd, Value.inRange_iff]
      exact ⟨value, by rw [exact, hvalue]; rfl⟩

/-- A node with a sign has a value if its operand has one and the result is within the limits. -/
theorem Defined.unary_iff {sign : Sign} {operand : Expr} {span : Span} :
    Defined env (unary sign operand span) ↔
      Defined env operand ∧ Value.InRange (sign.exact (operand.exact env)) := by
  constructor
  · intro h
    exact ⟨h.mono (List.subset_cons_self _ _), h.inRange _ List.mem_cons_self⟩
  · rintro ⟨h, hrange⟩
    constructor
    · intro v hv
      exact h.bound v ((List.mem_cons.1 hv).resolve_left (by simp))
    · intro l r s hd
      exact h.divisor l r s ((List.mem_cons.1 hd).resolve_left (by simp))
    · intro d hd
      rcases List.mem_cons.1 hd with rfl | hd
      · exact hrange
      · exact h.inRange d hd

/-- A node with an operator has a value if its operands have one, the divisor of a quotient is not
zero or written as such, and the result is within the limits. -/
theorem Defined.binary_iff {op : Operator} {left right : Expr} {span : Span} :
    Defined env (binary op left right span) ↔
      Defined env left ∧ Defined env right ∧
        (op = .div → right.isLiteralZero = false → right.exact env ≠ 0) ∧
          Value.InRange (exact env (binary op left right span)) := by
  have hmem : ∀ d, d ∈ (binary op left right span).subexpressions ↔
      d = binary op left right span ∨ d ∈ left.subexpressions ∨ d ∈ right.subexpressions := by
    intro d
    rw [subexpressions, List.mem_cons, List.mem_append]
  constructor
  · intro h
    refine ⟨h.mono fun d hd => (hmem d).2 (Or.inr (Or.inl hd)),
      h.mono fun d hd => (hmem d).2 (Or.inr (Or.inr hd)), ?_, h.inRange _ List.mem_cons_self⟩
    rintro rfl
    exact h.divisor left right span List.mem_cons_self
  · rintro ⟨hleft, hright, hdivisor, hrange⟩
    constructor
    · intro v hv
      rcases (hmem _).1 hv with hv | hv | hv
      · cases hv
      · exact hleft.bound v hv
      · exact hright.bound v hv
    · intro l r s hd
      rcases (hmem _).1 hd with hd | hd | hd
      · cases hd
        exact hdivisor rfl
      · exact hleft.divisor l r s hd
      · exact hright.divisor l r s hd
    · intro d hd
      rcases (hmem _).1 hd with rfl | hd | hd
      · exact hrange
      · exact hleft.inRange d hd
      · exact hright.inRange d hd

/-! ## The value of an expression -/

/-- A bound variable has its exact value. -/
theorem evaluate_var_eq_ok_iff {x : Variable} {v : Value} :
    x.evaluate env = .ok v ↔ Defined env (var x) ∧ v.toInt = exact env (var x) := by
  rw [Variable.evaluate, Defined.var_iff, exact]
  cases env.get? x.name with
  | none => simp
  | some value => simp [Value.ext_iff, eq_comm]

/-- **An expression has a value if it is defined**, and it is the exact one. -/
theorem evaluate_eq_ok_iff {e : Expr} {v : Value} :
    e.evaluate env = .ok v ↔ Defined env e ∧ v.toInt = e.exact env := by
  induction e generalizing v with
  | number value span =>
    rw [evaluate_number, Except.ok.injEq, Value.ext_iff]
    constructor
    · exact fun h => ⟨.number value span, h.symm⟩
    · exact fun h => h.2.symm
  | var x =>
    rw [evaluate_var]
    exact evaluate_var_eq_ok_iff
  | unary sign operand span ih =>
    rw [evaluate_unary, bind_eq_ok_iff, Defined.unary_iff, Value.inRange_iff]
    constructor
    · rintro ⟨w, hw, hv⟩
      obtain ⟨hoperand, hexact⟩ := ih.1 hw
      rw [Sign.apply_eq_ok_iff, hexact] at hv
      exact ⟨⟨hoperand, v, hv⟩, hv⟩
    · rintro ⟨⟨hoperand, -⟩, hv⟩
      obtain ⟨w, hw⟩ := Value.inRange_iff.1 (hoperand.inRange _ (mem_subexpressions_self operand))
      refine ⟨w, ih.2 ⟨hoperand, hw⟩, ?_⟩
      rw [Sign.apply_eq_ok_iff, hw]
      exact hv
  | binary op left right span ihleft ihright =>
    rw [evaluate_binary, bind_eq_ok_iff, Defined.binary_iff, Value.inRange_iff]
    constructor
    · rintro ⟨l, hl, h⟩
      obtain ⟨r, hr, hv⟩ := bind_eq_ok_iff.1 h
      obtain ⟨hleft, hlexact⟩ := ihleft.1 hl
      obtain ⟨hright, hrexact⟩ := ihright.1 hr
      rw [Link.apply_eq_ok_iff, hlexact, hrexact] at hv
      exact ⟨⟨hleft, hright, hv.1, v, hv.2⟩, hv.2⟩
    · rintro ⟨⟨hleft, hright, hdivisor, -⟩, hv⟩
      obtain ⟨l, hl⟩ := Value.inRange_iff.1 (hleft.inRange _ (mem_subexpressions_self left))
      obtain ⟨r, hr⟩ := Value.inRange_iff.1 (hright.inRange _ (mem_subexpressions_self right))
      refine ⟨l, ihleft.2 ⟨hleft, hl⟩, bind_eq_ok_iff.2 ⟨r, ihright.2 ⟨hright, hr⟩, ?_⟩⟩
      rw [Link.apply_eq_ok_iff, hl, hr]
      exact ⟨hdivisor, hv⟩

end Expr

/-! ## Overflows of single operations -/

/-- Only the least value has no negation. -/
theorem Value.neg?_eq_none_iff {v : Value} : v.neg? = none ↔ v.toInt = -2 ^ 63 := by
  have hlower := v.lower
  have hupper := v.upper
  rw [neg?, ofInt?_eq_none_iff]
  omega

/-- Only the least value divided by `-1` has no quotient. -/
theorem Value.div?_eq_none_iff {l r : Value} :
    l.div? r = none ↔ l.toInt = -2 ^ 63 ∧ r.toInt = -1 := by
  have hlower := l.lower
  have hupper := l.upper
  rw [div?, ofInt?_eq_none_iff]
  constructor
  · intro h
    -- The quotient is no larger than the dividend, so it is as large as the least value.
    have hle := Int.natAbs_tdiv_le_natAbs l.toInt r.toInt
    have hl : l.toInt = -2 ^ 63 := by omega
    have hquotient : l.toInt.tdiv r.toInt = 2 ^ 63 := by omega
    have hdivisor : l.toInt.natAbs / r.toInt.natAbs = l.toInt.natAbs := by
      rw [show l.toInt.natAbs / r.toInt.natAbs = (l.toInt.tdiv r.toInt).natAbs from
        (Int.natAbs_tdiv l.toInt r.toInt).symm]
      omega
    have hone : r.toInt.natAbs = 1 := (Nat.div_eq_self.1 hdivisor).resolve_left (by omega)
    refine ⟨hl, ?_⟩
    rcases Int.natAbs_eq r.toInt with hr | hr
    · rw [hr, hone, Int.natCast_one, Int.tdiv_one] at hquotient
      omega
    · omega
  · rintro ⟨hl, hr⟩
    rw [hl, hr]
    decide

theorem Span.checked_eq_error_iff {node : Span} {result : Option Value} {fault : Fault} :
    node.checked result = .error fault ↔ result = none ∧ fault = ⟨.integerOverflow, node⟩ := by
  cases result <;> simp [checked, eq_comm]

namespace Expr

variable {env : Environment}

/-- A negation fails exactly on the least value. -/
theorem evaluate_minus_eq_error_iff {operand : Expr} {w : Value} (h : operand.evaluate env = .ok w)
    {span : Span} {fault : Fault} :
    (unary .minus operand span).evaluate env = .error fault ↔
      w.toInt = -2 ^ 63 ∧ fault = ⟨.integerOverflow, span⟩ := by
  rw [evaluate_unary, h, ← Value.neg?_eq_none_iff, ← Span.checked_eq_error_iff]
  rfl

/-- The number zero has the value zero. -/
theorem toInt_of_isLiteralZero {e : Expr} {v : Value} (hzero : e.isLiteralZero = true)
    (h : e.evaluate env = .ok v) : v.toInt = 0 := by
  cases e with
  | number value span =>
    rw [evaluate_number] at h
    obtain rfl := Except.ok.inj h
    simpa [isLiteralZero] using hzero
  | var x => cases hzero
  | unary sign operand span => cases hzero
  | binary op left right span => cases hzero

/-- A division overflows exactly on the least value and `-1`. -/
theorem evaluate_div_eq_overflow_iff {left right : Expr} {l r : Value}
    (hl : left.evaluate env = .ok l) (hr : right.evaluate env = .ok r) {span : Span} :
    (binary .div left right span).evaluate env = .error ⟨.integerOverflow, span⟩ ↔
      l.toInt = -2 ^ 63 ∧ r.toInt = -1 := by
  rw [evaluate_binary, hl, hr, ← Value.div?_eq_none_iff]
  show Link.apply ⟨.div, right, span⟩ l r = .error ⟨.integerOverflow, span⟩ ↔ l.div? r = none
  rw [Link.apply]
  have hquotient : r.toInt = 0 → l.div? r ≠ none := by
    intro hzero hnone
    rw [Value.div?_eq_none_iff, hzero] at hnone
    omega
  by_cases hliteral : right.isLiteralZero = true
  · simp [hliteral, hquotient (toInt_of_isLiteralZero hliteral hr)]
  · rw [if_neg (by simp [hliteral]), Operator.apply]
    by_cases hzero : r.toInt = 0
    · simp [hzero, hquotient hzero]
    · simp [hzero, Span.checked_eq_error_iff]

/-! ## Exact evaluation -/

/-- An assignment goes through if its expression has a value, and binds its target to it. -/
theorem execute_assignment_iff {target : Variable} {e : Expr} {span : Span} {after : Environment} :
    (Stmt.assignment target e span).execute env = (after, none) ↔
      ∃ v, e.evaluate env = .ok v ∧ after = env.assign target.name v := by
  rw [Stmt.execute]
  cases e.evaluate env <;> simp [eq_comm]

/-- **Evaluation is exact arithmetic with a guard at the limits**: which expressions have a value,
and which one; where a negation fails, and where a division overflows; and what an assignment
stores. -/
theorem evaluate_exact (env : Environment) (e : Expr) :
    (∀ v, e.evaluate env = .ok v ↔ Defined env e ∧ v.toInt = e.exact env) ∧
    (∀ w, e.evaluate env = .ok w → ∀ span fault,
      (unary .minus e span).evaluate env = .error fault ↔
        w.toInt = -2 ^ 63 ∧ fault = ⟨.integerOverflow, span⟩) ∧
    (∀ right l r, e.evaluate env = .ok l → right.evaluate env = .ok r → ∀ span,
      (binary .div e right span).evaluate env = .error ⟨.integerOverflow, span⟩ ↔
        l.toInt = -2 ^ 63 ∧ r.toInt = -1) ∧
    ∀ target span after, (Stmt.assignment target e span).execute env = (after, none) ↔
      Defined env e ∧ ∃ v : Value, v.toInt = e.exact env ∧ Value.InRange (e.exact env) ∧
        after = env.assign target.name v := by
  refine ⟨fun v => evaluate_eq_ok_iff, ?_, ?_, ?_⟩
  · intro w hw span fault
    exact evaluate_minus_eq_error_iff hw
  · intro right l r hl hr span
    exact evaluate_div_eq_overflow_iff hl hr
  · intro target span after
    rw [execute_assignment_iff]
    constructor
    · rintro ⟨v, hv, hafter⟩
      obtain ⟨hdefined, hexact⟩ := evaluate_eq_ok_iff.1 hv
      exact ⟨hdefined, v, hexact, hdefined.inRange e (mem_subexpressions_self e), hafter⟩
    · rintro ⟨hdefined, v, hexact, -, hafter⟩
      exact ⟨v, evaluate_eq_ok_iff.2 ⟨hdefined, hexact⟩, hafter⟩

/-- The least value can neither be negated nor divided by `-1`. -/
theorem evaluate_exact_least :
    let least : Expr := .number ⟨-9223372036854775808, by decide, by decide⟩ ⟨1, 2⟩
    let one : Expr := .number ⟨1, by decide, by decide⟩ ⟨5, 6⟩
    (unary .minus least ⟨0, 2⟩).evaluate .empty = .error ⟨.integerOverflow, ⟨0, 2⟩⟩ ∧
    (binary .div least (unary .minus one ⟨4, 6⟩) ⟨1, 6⟩).evaluate .empty =
      .error ⟨.integerOverflow, ⟨1, 6⟩⟩ := by
  intro least one
  constructor
  · exact ((evaluate_exact .empty least).2.1 ⟨-9223372036854775808, by decide, by decide⟩
      (by decide +kernel) _ _).2 ⟨rfl, rfl⟩
  · exact ((evaluate_exact .empty least).2.2.1 (unary .minus one ⟨4, 6⟩)
      ⟨-9223372036854775808, by decide, by decide⟩ ⟨-1, by decide, by decide⟩
      (by decide +kernel) (by decide +kernel) ⟨1, 6⟩).2 ⟨rfl, rfl⟩

end Expr

end MiniPascal
