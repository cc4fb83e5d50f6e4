/-
# Where an evaluation fails

An evaluation that fails does so at one node: the nodes that are evaluated before have values, and
the operation of the node itself has none.  A node fails if it is a variable without a value, a
division by what turns out to be zero, or an operation whose exact result is beyond the limits; the
fault stands at the variable, at the divisor, or at the node.  Main statements:

* `Link.apply_eq_error_iff` : when an operation fails, and with which fault;
* `Expr.evaluate_eq_error_iff` : an evaluation fails at the node that it reaches and that fails;
* `Tree.run_eq_error_iff` : the same for the run of a tree.
-/
import MiniPascal.Proofs.Evaluation.Assignments
import MiniPascal.Proofs.Evaluation.Exact
import MiniPascal.Run

namespace MiniPascal

/-! ## Single operations -/

/-- An integer is refused exactly outside the limits of the values. -/
theorem Value.ofInt?_eq_none_iff_not_inRange {n : Int} : ofInt? n = none ↔ ¬InRange n := by
  rw [ofInt?_eq_none_iff, InRange]
  omega

/-- A sign fails if its exact result is beyond the limits. -/
theorem Sign.apply_eq_error_iff {sign : Sign} {node : Span} {w : Value} {fault : Fault} :
    sign.apply node w = .error fault ↔
      ¬Value.InRange (sign.exact w.toInt) ∧ fault = ⟨.integerOverflow, node⟩ := by
  cases sign with
  | plus =>
    have hrange : Value.InRange (Sign.plus.exact w.toInt) := Value.inRange_iff.2 ⟨w, rfl⟩
    simp [apply, hrange]
  | minus =>
    rw [apply, Span.checked_eq_error_iff, Value.neg?, Value.ofInt?_eq_none_iff_not_inRange]
    rfl

/-- An operator fails if it divides by zero, or if its exact result is beyond the limits. -/
theorem Operator.apply_eq_error_iff {op : Operator} {node divisor : Span} {l r : Value}
    {fault : Fault} :
    op.apply node divisor l r = .error fault ↔
      (op = .div ∧ r.toInt = 0 ∧ fault = ⟨.divisionByZero, divisor⟩) ∨
        (¬Value.InRange (op.exact l.toInt r.toInt) ∧ fault = ⟨.integerOverflow, node⟩) := by
  have hzero : Value.InRange 0 := Value.inRange_iff.2 ⟨.zero, rfl⟩
  cases op with
  | add =>
    simp [apply, exact, Span.checked_eq_error_iff, Value.add?,
      Value.ofInt?_eq_none_iff_not_inRange]
  | sub =>
    simp [apply, exact, Span.checked_eq_error_iff, Value.sub?,
      Value.ofInt?_eq_none_iff_not_inRange]
  | mul =>
    simp [apply, exact, Span.checked_eq_error_iff, Value.mul?,
      Value.ofInt?_eq_none_iff_not_inRange]
  | div =>
    rw [apply]
    by_cases hr : r.toInt = 0
    · simp [hr, exact, hzero, eq_comm]
    · simp [hr, exact, Span.checked_eq_error_iff, Value.div?,
        Value.ofInt?_eq_none_iff_not_inRange]

/-- **An operation fails** if its divisor is zero without being written as such, or if its exact
result is beyond the limits. -/
theorem Link.apply_eq_error_iff {op : Operator} {right : Expr} {node : Span} {l r : Value}
    {fault : Fault} :
    Link.apply ⟨op, right, node⟩ l r = .error fault ↔
      ¬(op = .div ∧ right.isLiteralZero = true) ∧
        ((op = .div ∧ r.toInt = 0 ∧ fault = ⟨.divisionByZero, right.span⟩) ∨
          (¬Value.InRange (op.exact l.toInt r.toInt) ∧ fault = ⟨.integerOverflow, node⟩)) := by
  rw [apply]
  by_cases hzero : op = .div ∧ right.isLiteralZero = true
  · simp [hzero]
  · rw [if_neg hzero, Operator.apply_eq_error_iff]
    simp only [hzero, not_false_eq_true, true_and]

/-- Two steps fail if the first one does, or the second one does with the result of the first. -/
theorem bind_eq_error_iff {α β ε : Type} {first : Except ε α} {second : α → Except ε β} {e : ε} :
    first >>= second = .error e ↔
      first = .error e ∨ ∃ a, first = .ok a ∧ second a = .error e := by
  cases first with
  | error other =>
    constructor
    · exact fun h => Or.inl (Except.error.inj h ▸ rfl)
    · rintro (h | ⟨a, h, -⟩)
      · rw [Except.error.inj h]
        rfl
      · cases h
  | ok a =>
    constructor
    · exact fun h => Or.inr ⟨a, rfl, h⟩
    · rintro (h | ⟨b, h, hb⟩)
      · cases h
      · rwa [Except.ok.inj h]

/-! ## Expressions -/

namespace Expr

/-- The evaluation of the expression comes to the node: what is evaluated before has a value. -/
inductive Reaches (env : Environment) : Expr → Expr → Prop
  | here (e : Expr) : Reaches env e e
  | operand {sign : Sign} {operand node : Expr} {span : Span} :
    Reaches env operand node → Reaches env (unary sign operand span) node
  | left {op : Operator} {left right node : Expr} {span : Span} :
    Reaches env left node → Reaches env (binary op left right span) node
  | right {op : Operator} {left right node : Expr} {span : Span} {l : Value} :
    left.evaluate env = .ok l → Reaches env right node →
    Reaches env (binary op left right span) node

/-- The node itself fails: its operands have values, and what it does with them gives none. -/
inductive Fails (env : Environment) : Expr → Fault → Prop
  /-- The variable is not bound. -/
  | unbound {v : Variable} :
    env.get? v.name = none → Fails env (var v) ⟨.undefinedVariable v.name, v.span⟩
  /-- The sign takes its operand beyond the limits. -/
  | signed {sign : Sign} {operand : Expr} {span : Span} {w : Value} :
    operand.evaluate env = .ok w → ¬Value.InRange (sign.exact w.toInt) →
    Fails env (unary sign operand span) ⟨.integerOverflow, span⟩
  /-- The divisor turns out to be zero. -/
  | divisor {left right : Expr} {span : Span} {l r : Value} :
    left.evaluate env = .ok l → right.evaluate env = .ok r → r.toInt = 0 →
    right.isLiteralZero = false →
    Fails env (binary .div left right span) ⟨.divisionByZero, right.span⟩
  /-- The operator takes its operands beyond the limits. -/
  | combined {op : Operator} {left right : Expr} {span : Span} {l r : Value} :
    left.evaluate env = .ok l → right.evaluate env = .ok r →
    ¬Value.InRange (op.exact l.toInt r.toInt) →
    Fails env (binary op left right span) ⟨.integerOverflow, span⟩

variable {env : Environment} {e node : Expr} {fault : Fault}

/-- What an evaluation comes to is a part of the expression. -/
theorem Reaches.mem_subexpressions (h : e.Reaches env node) :
    node ∈ e.subexpressions := by
  induction h with
  | here e => exact mem_subexpressions_self e
  | operand _ ih => exact List.mem_cons_of_mem _ ih
  | left _ ih => exact List.mem_cons_of_mem _ (List.mem_append_left _ ih)
  | right _ _ ih => exact List.mem_cons_of_mem _ (List.mem_append_right _ ih)

theorem evaluate_var_eq_error_iff {v : Variable} :
    (var v).evaluate env = .error fault ↔ Fails env (var v) fault := by
  rw [evaluate_var, Variable.evaluate]
  constructor
  · intro h
    cases hget : env.get? v.name with
    | some value =>
      rw [hget] at h
      cases h
    | none =>
      rw [hget] at h
      obtain rfl := Except.error.inj h
      exact .unbound hget
  · rintro ⟨hget⟩
    rw [hget]

/-- A sign fails if its operand does, or if it does itself. -/
theorem evaluate_unary_eq_error_iff {sign : Sign} {operand : Expr} {span : Span} :
    (unary sign operand span).evaluate env = .error fault ↔
      operand.evaluate env = .error fault ∨ Fails env (unary sign operand span) fault := by
  rw [evaluate_unary, bind_eq_error_iff]
  refine or_congr_right ⟨?_, ?_⟩
  · rintro ⟨w, hw, h⟩
    obtain ⟨hrange, rfl⟩ := Sign.apply_eq_error_iff.1 h
    exact .signed hw hrange
  · intro h
    cases h with
    | @signed _ _ _ w hw hrange => exact ⟨w, hw, Sign.apply_eq_error_iff.2 ⟨hrange, rfl⟩⟩

/-- An operation fails if its left operand does, if its right one does behind it, or itself. -/
theorem evaluate_binary_eq_error_iff {op : Operator} {left right : Expr} {span : Span} :
    (binary op left right span).evaluate env = .error fault ↔
      left.evaluate env = .error fault ∨
        (∃ l, left.evaluate env = .ok l ∧ right.evaluate env = .error fault) ∨
        Fails env (binary op left right span) fault := by
  rw [evaluate_binary, bind_eq_error_iff]
  refine or_congr_right ?_
  constructor
  · rintro ⟨l, hl, h⟩
    rcases bind_eq_error_iff.1 h with hright | ⟨r, hr, h⟩
    · exact Or.inl ⟨l, hl, hright⟩
    · obtain ⟨hliteral, ⟨rfl, hzero, rfl⟩ | ⟨hrange, rfl⟩⟩ := Link.apply_eq_error_iff.1 h
      · exact Or.inr (.divisor hl hr hzero (by simpa using hliteral))
      · exact Or.inr (.combined hl hr hrange)
  · rintro (⟨l, hl, hright⟩ | hfails)
    · exact ⟨l, hl, bind_eq_error_iff.2 (Or.inl hright)⟩
    · cases hfails with
      | @divisor _ _ _ l r hl hr hzero hliteral =>
        refine ⟨l, hl, bind_eq_error_iff.2 (Or.inr ⟨r, hr, Link.apply_eq_error_iff.2 ?_⟩)⟩
        exact ⟨by simp [hliteral], Or.inl ⟨rfl, hzero, rfl⟩⟩
      | @combined _ _ _ _ l r hl hr hrange =>
        refine ⟨l, hl, bind_eq_error_iff.2 (Or.inr ⟨r, hr, Link.apply_eq_error_iff.2 ?_⟩)⟩
        refine ⟨?_, Or.inr ⟨hrange, rfl⟩⟩
        -- The quotient by zero counts as zero, which is within the limits.
        rintro ⟨rfl, hliteral⟩
        rw [toInt_of_isLiteralZero hliteral hr] at hrange
        exact hrange (Value.inRange_iff.2 ⟨.zero, by simp [Operator.exact, Value.zero]⟩)

/-- **An evaluation fails at the node that it reaches and that fails.** -/
theorem evaluate_eq_error_iff :
    e.evaluate env = .error fault ↔ ∃ node, Reaches env e node ∧ Fails env node fault := by
  induction e with
  | number value span =>
    rw [evaluate_number]
    constructor
    · intro h
      cases h
    · rintro ⟨node, ⟨⟩, hfails⟩
      cases hfails
  | var v =>
    rw [evaluate_var_eq_error_iff]
    constructor
    · exact fun h => ⟨_, .here _, h⟩
    · rintro ⟨node, ⟨⟩, hfails⟩
      exact hfails
  | unary sign operand span ih =>
    rw [evaluate_unary_eq_error_iff, ih]
    constructor
    · rintro (⟨node, hnode, hfails⟩ | hfails)
      · exact ⟨node, .operand hnode, hfails⟩
      · exact ⟨_, .here _, hfails⟩
    · rintro ⟨node, hnode, hfails⟩
      cases hnode with
      | here => exact Or.inr hfails
      | operand hnode => exact Or.inl ⟨node, hnode, hfails⟩
  | binary op left right span ihleft ihright =>
    rw [evaluate_binary_eq_error_iff, ihleft, ihright]
    constructor
    · rintro (⟨node, hnode, hfails⟩ | ⟨l, hl, node, hnode, hfails⟩ | hfails)
      · exact ⟨node, .left hnode, hfails⟩
      · exact ⟨node, .right hl hnode, hfails⟩
      · exact ⟨_, .here _, hfails⟩
    · rintro ⟨node, hnode, hfails⟩
      cases hnode with
      | here => exact Or.inr (Or.inr hfails)
      | left hnode => exact Or.inl ⟨node, hnode, hfails⟩
      | right hl hnode => exact Or.inr (Or.inl ⟨_, hl, node, hnode, hfails⟩)

end Expr

/-! ## Trees -/

/-- The run of the tree comes to the evaluation of the expression in the environment: of the tree
itself, or of the right-hand side of an assignment once those in front of it are carried out. -/
inductive Tree.Evaluates : Tree → Environment → Expr → Prop
  | expr (e : Expr) : Evaluates (.expr e) .empty e
  | assignment {s : Stmt} {front back : List Assignment} {a : Assignment} {env : Environment} :
    s.assignments = front ++ a :: back → Leads .empty front env →
    Evaluates (.stmt s) env a.value

/-- A run fails at the first evaluation that does. -/
theorem Tree.run_eq_error_iff_evaluates {tree : Tree} {fault : Fault} :
    tree.run = .error fault ↔
      ∃ env e, tree.Evaluates env e ∧ e.evaluate env = .error fault := by
  cases tree with
  | expr e =>
    constructor
    · intro h
      refine ⟨.empty, e, .expr e, ?_⟩
      rw [run, evaluate] at h
      cases he : e.evaluate .empty with
      | ok v =>
        rw [he] at h
        cases h
      | error other =>
        rw [he] at h
        exact congrArg _ (Except.error.inj h)
    · rintro ⟨env, e, ⟨⟩, h⟩
      rw [run, evaluate, h]
      rfl
  | stmt s =>
    constructor
    · intro h
      rw [run, evaluate] at h
      rcases hs : s.execute .empty with ⟨after, _ | other⟩
      · rw [hs] at h
        cases h
      · rw [hs] at h
        obtain rfl := Except.error.inj h
        rw [Stmt.execute_eq_runAll, runAll_eq_error_iff] at hs
        obtain ⟨front, a, back, hassignments, hfront, ha⟩ := hs
        exact ⟨after, a.value, .assignment hassignments hfront, ha⟩
    · rintro ⟨env, e, hevaluates, h⟩
      cases hevaluates with
      | @assignment _ front back a _ hassignments hfront =>
        have hs : s.execute .empty = (env, some fault) := by
          rw [Stmt.execute_eq_runAll, runAll_eq_error_iff]
          exact ⟨front, a, back, hassignments, hfront, h⟩
        rw [run, evaluate, hs]

/-- The run of the tree comes to the node, and the node fails. -/
def Tree.FailsAt (tree : Tree) (node : Expr) (fault : Fault) : Prop :=
  ∃ env e, tree.Evaluates env e ∧ e.Reaches env node ∧ node.Fails env fault

/-- **The run of a tree fails at the node that it comes to and that fails.** -/
theorem Tree.run_eq_error_iff {tree : Tree} {fault : Fault} :
    tree.run = .error fault ↔ ∃ node, tree.FailsAt node fault := by
  rw [run_eq_error_iff_evaluates]
  constructor
  · rintro ⟨env, e, hevaluates, h⟩
    obtain ⟨node, hreaches, hfails⟩ := Expr.evaluate_eq_error_iff.1 h
    exact ⟨node, env, e, hevaluates, hreaches, hfails⟩
  · rintro ⟨node, env, e, hevaluates, hreaches, hfails⟩
    exact ⟨env, e, hevaluates, Expr.evaluate_eq_error_iff.2 ⟨node, hreaches, hfails⟩⟩

end MiniPascal
