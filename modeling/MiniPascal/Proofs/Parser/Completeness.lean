/-
# Derived sources are read

The parser reads the tokens of every derivation, rule by rule, and builds the tree of the derivation
on the way.  In front of each token as many groups are open as the derivation says.  Main statement:

* `Derivation.reads` : from the start the parser reads the tokens of a derivation, to its tree.
-/
import MiniPascal.Proofs.Parser.Reading

namespace MiniPascal

/-! ## Levels and blocks -/

namespace Level

theorem behind_multiplicative {op : Operator} (h : op.isMultiplicative = true)
    (sum : Option Pending) (term : Expr) : behind op sum term = ⟨sum, some ⟨term, op⟩, []⟩ :=
  if_pos h

theorem behind_additive {op : Operator} (h : op.isMultiplicative = false)
    (sum : Option Pending) (term : Expr) :
    behind op sum term = ⟨some ⟨Pending.close sum term, op⟩, none, []⟩ := by
  rw [behind, if_neg (by rw [h]; exact Bool.false_ne_true)]

end Level

namespace Blocks

/-- Statements more in the innermost block, in the order of the source. -/
def addAll (blocks : Blocks) (ss : List Stmt) : Blocks := ss.foldl add blocks

theorem addAll_eq (blocks : Blocks) (ss : List Stmt) :
    blocks.addAll ss =
      ⟨⟨blocks.inner.opening, ss.reverse ++ blocks.inner.done⟩, blocks.outer⟩ := by
  induction ss generalizing blocks with
  | nil => rfl
  | cons s ss ih =>
    rw [addAll, List.foldl_cons, ← addAll, ih, List.reverse_cons, List.append_assoc]
    rfl

end Blocks

namespace Config

/-- The end of a nested block is one statement more of the block around it. -/
theorem endBlock_nest (blocks : Blocks) (opening ending : Span) (ss : List Stmt) :
    endBlock ((blocks.nest opening).addAll ss) ending =
      separator (blocks.add (.compound ss (opening.join ending))) := by
  rw [Blocks.addAll_eq]
  simp [endBlock, Blocks.nest, Blocks.closed]

/-- The end of the outermost block is the end of the program's statements. -/
theorem endBlock_outermost (opening ending : Span) (ss : List Stmt) :
    endBlock (Blocks.addAll ⟨⟨opening, []⟩, []⟩ ss) ending =
      dot (.compound ss (opening.join ending)) := by
  rw [Blocks.addAll_eq]
  simp [endBlock, Blocks.closed]

end Config

open Config

namespace Grammar

/-! ## Expressions -/

/-- A leaf of an operator's kind leads from behind an operand to the next one. -/
theorem Leaf.move_operator {op : Operator} (mark : Leaf op.kind) (goal : Goal)
    (sum : Option Pending) (term : Expr) (outer : List Level) :
    (operator goal sum term outer).move? mark.token =
      some (.shift (operand goal (.behind op sum term) outer)) :=
  operator?_eq_some_iff.2 (Or.inl ⟨op, mark.kind_eq, rfl⟩)

mutual

/-- A factor is read as the operand that its tree is, under the signs in front of it. -/
theorem Factor.reads (f : Factor) (goal : Goal) (level : Level) (outer : List Level) {n : Nat}
    (hn : (operand goal level outer).groups = n) :
    Reads (operand goal level outer) f.yield (f.depths n)
      (operator goal level.sum (level.term f.tree) outer) := by
  subst hn
  cases f with
  | signed sign mark factor =>
    have hmove : (operand goal level outer).move? mark.token =
        some (.enter (operand goal (level.sign sign mark.token.span) outer)) :=
      operand?_eq_some_iff.2 (Or.inl ⟨sign, mark.kind_eq, rfl⟩)
    exact .cons hmove (Factor.reads factor goal _ outer (counted_of_move? hmove))
  | integer value literal =>
    have hmove : (operand goal level outer).move? literal.token =
        some (.shift (operator goal level.sum
          (level.term (.number value literal.token.span)) outer)) :=
      operand?_eq_some_iff.2 (Or.inr (Or.inr (Or.inl ⟨value, literal.kind_eq, rfl⟩)))
    exact .single hmove
  | group opening inner closing =>
    have hopen : (operand goal level outer).move? opening.token =
        some (.enter (operand goal .start (level :: outer))) :=
      operand?_eq_some_iff.2 (Or.inr (Or.inl ⟨opening.kind_eq, rfl⟩))
    obtain ⟨sum, term, htree, hinner⟩ :=
      Expression.reads inner goal (level :: outer) (counted_of_move? hopen)
    have hclose : (operator goal sum term (level :: outer)).move? closing.token =
        some (.shift (operator goal level.sum (level.term (Pending.close sum term)) outer)) := by
      refine operator?_eq_some_iff.2 (Or.inr ⟨?_, afterExpression?_group.2 ⟨closing.kind_eq, rfl⟩⟩)
      rw [closing.kind_eq]
      intro op
      cases op <;> simp [Operator.kind]
    -- In front of the closing parenthesis its own group is still open.
    have hgroups : (operator goal sum term (level :: outer)).groups =
        (operand goal level outer).groups + 1 := counted_of_move? hopen
    rw [Factor.tree, ← htree]
    exact .cons hopen (hinner.trans (hgroups ▸ Reads.single hclose))
  | name word =>
    have hmove : (operand goal level outer).move? word.token =
        some (.shift (operator goal level.sum
          (level.term (.var ⟨word.token.text, word.token.span⟩)) outer)) :=
      operand?_eq_some_iff.2 (Or.inr (Or.inr (Or.inr ⟨word.kind_eq, rfl⟩)))
    exact .single hmove
termination_by structural f

/-- Factors are read behind the ones in front of them. -/
theorem Factors.reads (fs : Factors) (goal : Goal) (sum : Option Pending) (term : Expr)
    (outer : List Level) {n : Nat} (hn : (operator goal sum term outer).groups = n) :
    Reads (operator goal sum term outer) fs.yield (fs.depths n)
      (operator goal sum (fs.fold term) outer) := by
  subst hn
  cases fs with
  | nil => exact .nil _
  | cons op multiplicative mark factor rest =>
    have hfactor := Factor.reads factor goal (.behind op sum term) outer
      (n := (operator goal sum term outer).groups) (by simp)
    rw [Level.behind_multiplicative multiplicative] at hfactor
    refine .cons (mark.move_operator goal sum term outer) ?_
    rw [Move.next, Level.behind_multiplicative multiplicative]
    exact hfactor.trans (Factors.reads rest goal sum _ outer rfl)
termination_by structural fs

/-- A term is read behind the terms in front of it. -/
theorem Term.reads (f : Term) (goal : Goal) (sum : Option Pending) (outer : List Level) {n : Nat}
    (hn : goalGroups goal + levelGroups outer = n) :
    Reads (operand goal ⟨sum, none, []⟩ outer) f.yield (f.depths n)
      (operator goal sum f.tree outer) := by
  obtain ⟨first, rest⟩ := f
  have hfirst := Factor.reads first goal ⟨sum, none, []⟩ outer hn
  exact hfirst.trans (Factors.reads rest goal sum _ outer hn)
termination_by structural f

/-- Terms are read behind the ones in front of them. -/
theorem Terms.reads (ts : Terms) (goal : Goal) (sum : Option Pending) (term : Expr)
    (outer : List Level) {n : Nat} (hn : (operator goal sum term outer).groups = n) :
    ∃ sum' term', Pending.close sum' term' = ts.fold (Pending.close sum term) ∧
      Reads (operator goal sum term outer) ts.yield (ts.depths n)
        (operator goal sum' term' outer) := by
  cases ts with
  | nil => exact ⟨sum, term, rfl, .nil _⟩
  | cons op additive mark next rest =>
    have hnext := Term.reads next goal (some ⟨Pending.close sum term, op⟩) outer hn
    obtain ⟨sum', term', htree, hrest⟩ :=
      Terms.reads rest goal (some ⟨Pending.close sum term, op⟩) next.tree outer hn
    refine ⟨sum', term', htree, ?_⟩
    subst hn
    refine .cons (mark.move_operator goal sum term outer) ?_
    rw [Move.next, Level.behind_additive additive]
    exact hnext.trans hrest
termination_by structural ts

/-- An expression is read to its end. -/
theorem Expression.reads (e : Expression) (goal : Goal) (outer : List Level) {n : Nat}
    (hn : goalGroups goal + levelGroups outer = n) :
    ∃ sum term, Pending.close sum term = e.tree ∧
      Reads (operand goal .start outer) e.yield (e.depths n) (operator goal sum term outer) := by
  obtain ⟨first, rest⟩ := e
  obtain ⟨sum, term, htree, hrest⟩ := Terms.reads rest goal none first.tree outer hn
  exact ⟨sum, term, htree, (Term.reads first goal none outer hn).trans hrest⟩
termination_by structural e

end

/-! ## Statements -/

mutual

/-- A block among the statements of another one is read as one statement more. -/
theorem Block.reads (b : Block) (blocks : Blocks) {n : Nat} (hn : blocks.depth = n) :
    Reads (statement blocks) b.yield (b.depths n) (separator (blocks.add b.tree)) := by
  obtain ⟨opening, body, closing⟩ := b
  have hopen : (statement blocks).move? opening.token =
      some (.enter (statement (blocks.nest opening.token.span))) :=
    statement?_eq_some_iff.2 (Or.inl ⟨opening.kind_eq, rfl⟩)
  have hbody := Statements.reads body (blocks.nest opening.token.span) closing
    (depth_nest blocks opening.token.span)
  rw [endBlock_nest] at hbody
  subst hn
  exact .cons hopen hbody
termination_by structural b

/-- The statements of a block are read to its end. -/
theorem Statements.reads (b : Statements) (blocks : Blocks) (closing : Leaf (.keyword .blockEnd))
    {n : Nat} (hn : blocks.depth = n) :
    Reads (statement blocks) (b.yield ++ [closing.token]) (b.depths n ++ [n])
      (endBlock (blocks.addAll (b.trees closing.token.span.start)) closing.token.span) := by
  cases b with
  | last first =>
    obtain ⟨c, hfirst, hgroups, hmove⟩ := Statement.reads first blocks hn
    have hclose := hmove closing.token (Or.inr closing.kind_eq)
    rw [afterStatement?_eq_some_iff.2 (Or.inr ⟨closing.kind_eq, rfl⟩)] at hclose
    exact hfirst.trans (hgroups ▸ Reads.single hclose)
  | cons first semicolon rest =>
    obtain ⟨c, hfirst, hgroups, hmove⟩ := Statement.reads first blocks hn
    have hnext := hmove semicolon.token (Or.inl semicolon.kind_eq)
    rw [afterStatement?_eq_some_iff.2 (Or.inl ⟨semicolon.kind_eq, rfl⟩)] at hnext
    have hrest := Statements.reads rest
      (blocks.add (first.tree semicolon.token.span.start)) closing hn
    subst hgroups
    rw [Statements.yield, Statements.depths, List.append_assoc, List.append_assoc]
    exact hfirst.trans (.cons hnext hrest)
termination_by structural b

/-- A statement is read to where the token behind it adds it to its block. -/
theorem Statement.reads (b : Statement) (blocks : Blocks) {n : Nat} (hn : blocks.depth = n) :
    ∃ c, Reads (statement blocks) b.yield (b.depths n) c ∧ c.groups = n ∧
      ∀ t : Token, t.kind = .symbol .semicolon ∨ t.kind = .keyword .blockEnd →
        c.move? t = afterStatement? (blocks.add (b.tree t.span.start)) t := by
  cases b with
  | block inner =>
    exact ⟨separator (blocks.add inner.tree), Block.reads inner blocks hn, hn, fun t _ => rfl⟩
  | assignment target mark value =>
    have htarget : (statement blocks).move? target.token =
        some (.shift (Config.target ⟨target.token.text, target.token.span⟩ blocks)) :=
      statement?_eq_some_iff.2 (Or.inr (Or.inl ⟨target.kind_eq, rfl⟩))
    have hmark : (Config.target ⟨target.token.text, target.token.span⟩ blocks).move? mark.token =
        some (.shift (operand
          (.assignment ⟨target.token.text, target.token.span⟩ blocks) .start [])) :=
      move?_target_eq_some_iff.2 ⟨mark.kind_eq, rfl⟩
    obtain ⟨sum, term, htree, hvalue⟩ := Expression.reads value
      (.assignment ⟨target.token.text, target.token.span⟩ blocks) [] hn
    refine ⟨operator (.assignment ⟨target.token.text, target.token.span⟩ blocks) sum term [],
      ?_, hn, ?_⟩
    · subst hn
      exact .cons htarget (.cons hmark hvalue)
    · intro t ht
      rw [Statement.tree, ← htree]
      simp only [move?, operator?]
      rcases ht with ht | ht <;> rw [ht] <;> rfl
  | empty =>
    refine ⟨statement blocks, .nil _, hn, ?_⟩
    intro t ht
    simp only [move?, statement?]
    rcases ht with ht | ht <;> rw [ht] <;> rfl
termination_by structural b

end

/-! ## Whole sources -/

/-- **From the start the parser reads the tokens of a derivation**, to where the derivation's tree
is the tree of the source, with as many groups open in front of each token as the derivation says.
-/
theorem Derivation.reads {mode : Mode} (d : Derivation mode) :
    ∃ c, Reads (start mode) d.yield d.depths c ∧ c.tree? = some d.tree := by
  cases d with
  | program block dot =>
    obtain ⟨opening, body, closing⟩ := block
    have hopen : begin.move? opening.token =
        some (.enter (statement ⟨⟨opening.token.span, []⟩, []⟩)) :=
      move?_begin_eq_some_iff.2 ⟨opening.kind_eq, rfl⟩
    have hbody := Statements.reads body ⟨⟨opening.token.span, []⟩, []⟩ closing rfl
    rw [endBlock_outermost] at hbody
    have hdot : ∀ s : Stmt, (Config.dot s).move? dot.token = some (.shift (finished s)) :=
      fun s => move?_dot_eq_some_iff.2 ⟨dot.kind_eq, rfl⟩
    exact ⟨_, (Reads.cons hopen hbody).trans (.single (hdot _)), rfl⟩
  | expression e =>
    obtain ⟨sum, term, htree, hreads⟩ := Expression.reads e .whole [] rfl
    refine ⟨_, hreads, ?_⟩
    rw [Derivation.tree, ← htree]
    rfl

end Grammar

end MiniPascal
