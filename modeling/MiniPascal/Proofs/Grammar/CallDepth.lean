/-
# Calls and groups

The calls that are open at once while a tree is worked on are bounded by the groups that are open at
once in its source.  Without groups an expression takes at most three calls: one for itself, one for
a term to the right of an operator, and one for a factor in it.  Parentheses leave no node, so a
factor in parentheses is called for as the expression inside, and a group adds two calls at most; a
sign or a block adds one.  Main statements:

* `Grammar.Expression.spineDepth_tree_le`, `Grammar.Block.callDepth_tree_le` : what a phrase inside
  some groups may take;
* `Grammar.Derivation.callDepth_tree_le` : the call depth of a tree, from the nesting of its source;
* `callDepth_of_parse` : from the limit on the nesting.
-/
import MiniPascal.Proofs.Evaluation.Frames
import MiniPascal.Proofs.Parser.Nesting

namespace MiniPascal

namespace Grammar

variable {limit : Nat}

/-! ## Expressions

A phrase inside `n` groups may open as many more as there are up to the limit.  The two calls that
each of the `n` groups may have cost are counted on the left.
-/

mutual

theorem Factor.callDepth_tree_le (f : Factor) {n : Nat} (hn : n ≤ limit)
    (h : ∀ o ∈ f.openings n, o.depth ≤ limit) : f.tree.callDepth + 2 * n ≤ 2 * limit + 1 := by
  cases f with
  | signed sign mark operand =>
    obtain ⟨hopen, hoperand⟩ :
        n + 1 ≤ limit ∧ ∀ o ∈ operand.openings (n + 1), o.depth ≤ limit :=
      List.forall_mem_cons.1 h
    have hdepth := Factor.callDepth_tree_le operand hopen hoperand
    rw [Factor.tree, Expr.callDepth]
    omega
  | integer value literal =>
    rw [Factor.tree, Expr.callDepth]
    omega
  | group opening inner closing =>
    obtain ⟨hopen, hinner⟩ : n + 1 ≤ limit ∧ ∀ o ∈ inner.openings (n + 1), o.depth ≤ limit :=
      List.forall_mem_cons.1 h
    -- Parentheses leave no node, so this is the expression itself, one group further in.
    have hspine := Expression.spineDepth_tree_le inner hopen hinner
    have hdepth := inner.tree.callDepth_le
    rw [Factor.tree]
    omega
  | name word =>
    rw [Factor.tree, Expr.callDepth]
    omega
termination_by structural f

theorem Factors.spineDepth_fold_le (fs : Factors) {n : Nat} (hn : n ≤ limit)
    (h : ∀ o ∈ fs.openings n, o.depth ≤ limit) {left : Expr}
    (hleft : left.spineDepth + 2 * n ≤ 2 * limit + 1) :
    (fs.fold left).spineDepth + 2 * n ≤ 2 * limit + 1 := by
  cases fs with
  | nil => exact hleft
  | cons op multiplicative mark factor rest =>
    obtain ⟨hfactor, hrest⟩ := List.forall_mem_append.1 h
    have hdepth := Factor.callDepth_tree_le factor hn hfactor
    rw [Factors.fold]
    apply Factors.spineDepth_fold_le rest hn hrest
    rw [Expr.combine, Expr.spineDepth]
    omega
termination_by structural fs

theorem Term.spineDepth_tree_le (t : Term) {n : Nat} (hn : n ≤ limit)
    (h : ∀ o ∈ t.openings n, o.depth ≤ limit) : t.tree.spineDepth + 2 * n ≤ 2 * limit + 1 := by
  obtain ⟨first, rest⟩ := t
  obtain ⟨hfirst, hrest⟩ := List.forall_mem_append.1 h
  -- If the first factor is an expression in parentheses, its spine goes on as that of the term.
  have hdepth := Factor.callDepth_tree_le first hn hfirst
  have hspine := first.tree.spineDepth_le
  rw [Term.tree]
  exact Factors.spineDepth_fold_le rest hn hrest (by omega)
termination_by structural t

theorem Terms.spineDepth_fold_le (terms : Terms) {n : Nat} (hn : n ≤ limit)
    (h : ∀ o ∈ terms.openings n, o.depth ≤ limit) {left : Expr}
    (hleft : left.spineDepth + 2 * n ≤ 2 * limit + 2) :
    (terms.fold left).spineDepth + 2 * n ≤ 2 * limit + 2 := by
  cases terms with
  | nil => exact hleft
  | cons op additive mark term rest =>
    obtain ⟨hterm, hrest⟩ := List.forall_mem_append.1 h
    have hspine := Term.spineDepth_tree_le term hn hterm
    have hdepth := term.tree.callDepth_le
    rw [Terms.fold]
    apply Terms.spineDepth_fold_le rest hn hrest
    rw [Expr.combine, Expr.spineDepth]
    omega
termination_by structural terms

/-- **What hangs on the spine of an expression** takes at most two calls for each group that may
still be opened, and two more. -/
theorem Expression.spineDepth_tree_le (e : Expression) {n : Nat} (hn : n ≤ limit)
    (h : ∀ o ∈ e.openings n, o.depth ≤ limit) : e.tree.spineDepth + 2 * n ≤ 2 * limit + 2 := by
  obtain ⟨first, rest⟩ := e
  obtain ⟨hfirst, hrest⟩ := List.forall_mem_append.1 h
  have hspine := Term.spineDepth_tree_le first hn hfirst
  rw [Expression.tree]
  exact Terms.spineDepth_fold_le rest hn hrest (by omega)
termination_by structural e

end

/-- An expression takes one call more for itself. -/
theorem Expression.callDepth_tree_le (e : Expression) {n : Nat} (hn : n ≤ limit)
    (h : ∀ o ∈ e.openings n, o.depth ≤ limit) : e.tree.callDepth + 2 * n ≤ 2 * limit + 3 := by
  have hspine := e.spineDepth_tree_le hn h
  have hdepth := e.tree.callDepth_le
  omega

/-! ## Statements -/

mutual

/-- **A block takes no more calls than an expression in its place may.** -/
theorem Block.callDepth_tree_le (b : Block) {n : Nat} (h : ∀ o ∈ b.openings n, o.depth ≤ limit) :
    b.tree.callDepth + 2 * n ≤ 2 * limit + 3 := by
  obtain ⟨opening, body, closing⟩ := b
  obtain ⟨hopen, hbody⟩ : n + 1 ≤ limit ∧ ∀ o ∈ body.openings (n + 1), o.depth ≤ limit :=
    List.forall_mem_cons.1 h
  have hdepth := Statements.callDepth_trees_le body closing.token.span.start hopen hbody
  rw [Block.tree, Stmt.callDepth]
  omega
termination_by structural b

theorem Statements.callDepth_trees_le (b : Statements) (next : Nat) {n : Nat} (hn : n ≤ limit)
    (h : ∀ o ∈ b.openings n, o.depth ≤ limit) :
    Stmt.callDepthList (b.trees next) + 2 * n ≤ 2 * limit + 4 := by
  cases b with
  | last statement =>
    have hdepth := Statement.callDepth_tree_le statement next hn h
    rw [Statements.trees, Stmt.callDepthList, Stmt.callDepthList]
    omega
  | cons statement semicolon rest =>
    obtain ⟨hstatement, hrest⟩ := List.forall_mem_append.1 h
    have hfirst :=
      Statement.callDepth_tree_le statement semicolon.token.span.start hn hstatement
    have hothers := Statements.callDepth_trees_le rest next hn hrest
    rw [Statements.trees, Stmt.callDepthList]
    omega
termination_by structural b

theorem Statement.callDepth_tree_le (s : Statement) (next : Nat) {n : Nat} (hn : n ≤ limit)
    (h : ∀ o ∈ s.openings n, o.depth ≤ limit) :
    (s.tree next).callDepth + 2 * n ≤ 2 * limit + 4 := by
  cases s with
  | block inner => exact Nat.le_succ_of_le (Block.callDepth_tree_le inner h)
  | assignment target mark value =>
    have hvalue := value.callDepth_tree_le hn h
    rw [Statement.tree, Stmt.callDepth]
    omega
  | empty =>
    rw [Statement.tree, Stmt.callDepth]
    omega
termination_by structural s

end

/-! ## Whole sources -/

/-- **The call depth of a tree is bounded by the nesting of its source.** -/
theorem Derivation.callDepth_tree_le {mode : Mode} (d : Derivation mode) :
    d.tree.callDepth ≤ 2 * d.nesting + 3 := by
  have hopenings := d.nesting_le_iff_openings.1 (Nat.le_refl d.nesting)
  cases d with
  | program block dot => exact block.callDepth_tree_le hopenings
  | expression e => exact e.callDepth_tree_le (Nat.zero_le _) hopenings

end Grammar

/-- **The limit on the nesting bounds the calls.**  The tree of a source that is accepted under a
limit has a call depth of at most twice the limit and three more, however long the source is.  That
much room for calls is enough to evaluate the tree in any environment and to write its text. -/
theorem callDepth_of_parse {source : String} {mode : Mode} {limit : Nat} {tree : Tree}
    (h : parse source mode limit = .ok tree) :
    tree.callDepth ≤ 2 * limit + 3 ∧
      (∀ env, tree.evaluateWithin (2 * limit + 3) env = some (tree.evaluate env)) ∧
      tree.textWithin (2 * limit + 3) = some tree.text := by
  obtain ⟨d, -, hnesting, rfl⟩ := parse_eq_ok_iff_nesting.1 h
  have hdepth : d.tree.callDepth ≤ 2 * limit + 3 :=
    calc d.tree.callDepth ≤ 2 * d.nesting + 3 := d.callDepth_tree_le
      _ ≤ 2 * limit + 3 := by omega
  refine ⟨hdepth, fun env => Tree.evaluateWithin_eq hdepth env, ?_⟩
  rw [Tree.textWithin_eq, if_pos hdepth]

/-- The bound is reached by `1+2*(1+2*3)` with room for one group: it needs five calls, and four are
too few to write its text. -/
theorem callDepth_of_parse_product :
    ∃ tree, parse "1+2*(1+2*3)" .expression 1 = .ok tree ∧ tree.callDepth = 5 ∧
      tree.textWithin 4 = none ∧ tree.textWithin 5 = some tree.text ∧
      tree.evaluateWithin 5 .empty = some (tree.evaluate .empty) := by
  let number (n : Nat) (h : n < 10) (span : Span) : Expr := .number ⟨n, by omega, by omega⟩ span
  let inner : Expr := .binary .add (number 1 (by decide) ⟨5, 6⟩)
    (.binary .mul (number 2 (by decide) ⟨7, 8⟩) (number 3 (by decide) ⟨9, 10⟩) ⟨7, 10⟩) ⟨5, 10⟩
  let tree : Tree := .expr (.binary .add (number 1 (by decide) ⟨0, 1⟩)
    (.binary .mul (number 2 (by decide) ⟨2, 3⟩) inner ⟨2, 10⟩) ⟨0, 10⟩)
  have hparse : parse "1+2*(1+2*3)" .expression 1 = .ok tree := by decide +kernel
  obtain ⟨-, hevaluate, htext⟩ := callDepth_of_parse hparse
  exact ⟨tree, hparse, by decide, by decide, htext, hevaluate .empty⟩

end MiniPascal
