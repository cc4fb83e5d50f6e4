/-
# Running at other places

The places of a tree do not matter for what it comes to: a moved expression has the same value, a
moved statement leaves the same environment behind, and a fault is moved as the tree is.  Main
statements:

* `Expr.evaluate_relocate` : the value of a moved expression;
* `Stmt.execute_relocate` : what a moved statement leaves behind;
* `run_relocate`, `Mode.detect_relocate` : sources with the same items, up to places, come to the
  same result, and ask for the same mode.
-/
import MiniPascal.Proofs.Evaluation.Recursion
import MiniPascal.Proofs.Places.Parsing
import MiniPascal.Reader
import MiniPascal.Run

namespace MiniPascal

variable (f : Nat → Nat)

/-- The outcome of a step, or its fault with the place moved. -/
def relocateFault {α : Type} : Except Fault α → Except Fault α
  | .ok a => .ok a
  | .error fault => .error (fault.relocate f)

/-- Two steps at other places are two steps with their fault moved. -/
theorem relocateFault_bind {α β : Type} (first : Except Fault α) (second : α → Except Fault β) :
    relocateFault f (first >>= second) =
      relocateFault f first >>= fun a => relocateFault f (second a) := by
  cases first <;> rfl

section

variable {f} {g : Nat → Nat} {α : Type} {result other : Except Fault α}

/-- Outcomes that agree up to the place of a fault are the same, if there is no fault. -/
theorem relocateFault_ok (h : relocateFault f result = relocateFault g other) {a : α}
    (hresult : result = .ok a) : other = .ok a := by
  subst hresult
  cases other with
  | error fault => cases h
  | ok b => exact h.symm

/-- Outcomes that agree up to the place of a fault are both faults of one cause, if one is. -/
theorem relocateFault_error (h : relocateFault f result = relocateFault g other) {fault : Fault}
    (hresult : result = .error fault) :
    ∃ fault', other = .error fault' ∧ fault'.relocate g = fault.relocate f := by
  subst hresult
  cases other with
  | ok b => cases h
  | error fault' => exact ⟨fault', rfl, (Except.error.inj h).symm⟩

end

/-! ## Single operations -/

theorem Span.checked_relocate (node : Span) (value : Option Value) :
    (node.relocate f).checked value = relocateFault f (node.checked value) := by
  cases value <;> rfl

theorem Sign.apply_relocate (sign : Sign) (node : Span) (value : Value) :
    sign.apply (node.relocate f) value = relocateFault f (sign.apply node value) := by
  cases sign with
  | plus => rfl
  | minus => exact node.checked_relocate f value.neg?

theorem Operator.apply_relocate (op : Operator) (node divisor : Span) (left right : Value) :
    op.apply (node.relocate f) (divisor.relocate f) left right =
      relocateFault f (op.apply node divisor left right) := by
  cases op with
  | div =>
    rw [apply, apply]
    split
    · rfl
    · exact node.checked_relocate f _
  | _ => exact node.checked_relocate f _

theorem Link.apply_relocate (op : Operator) (operand : Expr) (node : Span) (left right : Value) :
    Link.apply ⟨op, operand.relocate f, node.relocate f⟩ left right =
      relocateFault f (Link.apply ⟨op, operand, node⟩ left right) := by
  rw [apply, apply, Expr.isLiteralZero_relocate]
  split
  · rfl
  · rw [Expr.span_relocate]
    exact op.apply_relocate f node operand.span left right

theorem Variable.evaluate_relocate (env : Environment) (v : Variable) :
    (v.relocate f).evaluate env = relocateFault f (v.evaluate env) := by
  rw [evaluate, evaluate, relocate]
  dsimp only
  cases env.get? v.name <;> rfl

/-! ## Trees -/

/-- **The value of a moved expression** is that of the expression. -/
theorem Expr.evaluate_relocate (env : Environment) (e : Expr) :
    (e.relocate f).evaluate env = relocateFault f (e.evaluate env) := by
  induction e with
  | number value span =>
    rw [relocate, evaluate_number, evaluate_number]
    rfl
  | var v =>
    rw [relocate, evaluate_var, evaluate_var]
    exact v.evaluate_relocate f env
  | unary sign operand span ih =>
    rw [relocate, evaluate_unary, evaluate_unary, relocateFault_bind, ih]
    exact bind_congr fun value => sign.apply_relocate f span value
  | binary op left right span ihleft ihright =>
    rw [relocate, evaluate_binary, evaluate_binary, relocateFault_bind, ihleft]
    refine bind_congr fun l => ?_
    rw [relocateFault_bind, ihright]
    exact bind_congr fun r => Link.apply_relocate f op right span l r

namespace Stmt

mutual

/-- **What a moved statement leaves behind** is what the statement does. -/
theorem execute_relocate (env : Environment) :
    ∀ s : Stmt, (s.relocate f).execute env =
      ((s.execute env).1, (s.execute env).2.map (Fault.relocate f))
  | assignment target value span => by
    rw [relocate, execute, execute, Expr.evaluate_relocate]
    cases value.evaluate env <;> rfl
  | compound body span => by
    rw [relocate, execute, execute]
    exact executeList_relocate env body
  | empty span => rfl

theorem executeList_relocate (env : Environment) :
    ∀ body : List Stmt, executeList env (relocateList f body) =
      ((executeList env body).1, (executeList env body).2.map (Fault.relocate f))
  | [] => rfl
  | s :: rest => by
    rw [relocateList, executeList, executeList, execute_relocate env s]
    rcases s.execute env with ⟨after, _ | fault⟩
    · exact executeList_relocate after rest
    · rfl

end

end Stmt

/-- What a moved tree comes to is what the tree comes to. -/
theorem Tree.run_relocate (tree : Tree) :
    (tree.relocate f).run = relocateFault f tree.run := by
  cases tree with
  | expr e =>
    rw [relocate, run, run, evaluate, evaluate, Expr.evaluate_relocate]
    cases e.evaluate .empty <;> rfl
  | stmt s =>
    rw [relocate, run, run, evaluate, evaluate, Stmt.execute_relocate]
    rcases s.execute .empty with ⟨after, _ | fault⟩ <;> rfl

/-! ## Sources -/

/-- A source that is accepted is run as its tree is. -/
theorem run_of_parse_ok {source : String} {mode : Mode} {limit : Nat} {tree : Tree}
    (h : parse source mode limit = .ok tree) : run source mode limit = tree.run := by
  rw [run, h]
  rfl

theorem run_eq_bind (source : String) (mode : Mode) (limit : Nat) :
    relocateFault f (run source mode limit) =
      relocateResult f (parse source mode limit) >>= Tree.run := by
  rw [run]
  cases parse source mode limit with
  | error fault => rfl
  | ok tree => exact (tree.run_relocate f).symm

variable {f} in
/-- **Sources with the same items, up to places, come to the same result, up to places.** -/
theorem run_relocate {g : Nat → Nat} {source other : String} (hf : Monotone f) (hg : Monotone g)
    (hstop : (Span.single source.length).relocate f = (Span.single other.length).relocate g)
    (hitems : (Cursor.ofSource source).items.map (Item.relocate f) =
      (Cursor.ofSource other).items.map (Item.relocate g)) (mode : Mode) (limit : Nat) :
    relocateFault f (run source mode limit) = relocateFault g (run other mode limit) := by
  rw [run_eq_bind, run_eq_bind, parse_relocate hf hg hstop hitems]

/-! ## Modes -/

/-- A source asks to be read as a program if its first item is the token `BEGIN`. -/
theorem Mode.detect_eq_program_iff {source : String} :
    Mode.detect source = .program ↔
      ∃ t rest, (Cursor.ofSource source).items = .token t :: rest ∧
        t.kind = .keyword .blockBegin := by
  rw [Mode.detect, Cursor.items_eq]
  rcases (Cursor.ofSource source).next? with _ | ⟨t | fault, after⟩
  · simp
  · simp only [List.cons.injEq, Item.token.injEq, ite_eq_left_iff, reduceCtorEq, imp_false,
      Decidable.not_not]
    constructor
    · exact fun h => ⟨t, _, ⟨rfl, rfl⟩, h⟩
    · rintro ⟨u, rest, ⟨rfl, -⟩, h⟩
      exact h
  · simp

section

variable {f} {g : Nat → Nat} {source other : String}

theorem Mode.detect_program_of_relocate
    (hitems : (Cursor.ofSource source).items.map (Item.relocate f) =
      (Cursor.ofSource other).items.map (Item.relocate g))
    (h : Mode.detect source = .program) : Mode.detect other = .program := by
  obtain ⟨t, rest, hsource, hkind⟩ := detect_eq_program_iff.1 h
  rw [hsource] at hitems
  obtain ⟨item, rest', hother, hitem, -⟩ := List.map_eq_cons_iff.1 hitems.symm
  cases item with
  | fault fault => cases hitem
  | token u =>
    have htoken : u.relocate g = t.relocate f := Item.token.inj hitem
    exact detect_eq_program_iff.2 ⟨u, rest', hother, (Token.kind_of_relocate htoken).trans hkind⟩

/-- **Sources with the same items, up to places, ask for the same mode.** -/
theorem Mode.detect_relocate
    (hitems : (Cursor.ofSource source).items.map (Item.relocate f) =
      (Cursor.ofSource other).items.map (Item.relocate g)) :
    Mode.detect source = Mode.detect other := by
  cases hsource : Mode.detect source with
  | program => rw [detect_program_of_relocate hitems hsource]
  | expression =>
    cases hother : Mode.detect other with
    | program =>
      rw [detect_program_of_relocate hitems.symm hother] at hsource
      cases hsource
    | expression => rfl

end

end MiniPascal
