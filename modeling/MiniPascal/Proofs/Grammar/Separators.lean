/-
# Statements and semicolons

The statements of a block have one semicolon between any two of them, and semicolons stand nowhere
else.  A block counts as many statements as its body does, nothing for itself, so that the count of
a program and the number of its semicolons grow together, however the blocks nest and wherever a
statement is empty.  Main statements:

* `Grammar.Expression.semicolons_yield` : an expression has no semicolons;
* `Grammar.Block.statementCount_tree` : a block has one statement more than semicolons;
* `statementCount_of_parse` : so has a program, while an expression has none of either.
-/
import MiniPascal.Proofs.Parser.Acceptance

namespace MiniPascal

/-! ## Semicolons -/

/-- The number of semicolons among the tokens. -/
def semicolons (ts : List Token) : Nat := ts.countP fun t => t.kind = .symbol .semicolon

@[simp] theorem semicolons_nil : semicolons [] = 0 := rfl

@[simp] theorem semicolons_append (ts us : List Token) :
    semicolons (ts ++ us) = semicolons ts + semicolons us :=
  List.countP_append

theorem semicolons_eq_zero_iff {ts : List Token} :
    semicolons ts = 0 ↔ ∀ t ∈ ts, t.kind ≠ .symbol .semicolon := by
  simp [semicolons, List.countP_eq_zero]

namespace Grammar

/-- A semicolon counts. -/
theorem Leaf.semicolons_cons (semicolon : Leaf (.symbol .semicolon)) (ts : List Token) :
    semicolons (semicolon.token :: ts) = semicolons ts + 1 :=
  List.countP_cons_of_pos (decide_eq_true semicolon.kind_eq)

/-- A token of another kind does not. -/
theorem Leaf.semicolons_cons_of_ne {kind : Kind} (leaf : Leaf kind)
    (h : kind ≠ .symbol .semicolon) (ts : List Token) :
    semicolons (leaf.token :: ts) = semicolons ts := by
  have hleaf : leaf.token.kind ≠ .symbol .semicolon := by
    rw [leaf.kind_eq]
    exact h
  exact List.countP_cons_of_neg (by simpa using hleaf)

/-! ## Expressions -/

mutual

theorem Factor.semicolons_yield (f : Factor) : semicolons f.yield = 0 := by
  cases f with
  | signed sign mark operand =>
    rw [Factor.yield, mark.semicolons_cons_of_ne (sign.kind_ne (by decide))]
    exact Factor.semicolons_yield operand
  | integer value literal => exact literal.semicolons_cons_of_ne (by simp) []
  | group opening inner closing =>
    rw [Factor.yield, opening.semicolons_cons_of_ne (by decide), semicolons_append,
      closing.semicolons_cons_of_ne (by decide), Expression.semicolons_yield inner,
      semicolons_nil]
  | name word => exact word.semicolons_cons_of_ne (by decide) []
termination_by structural f

theorem Factors.semicolons_yield (fs : Factors) : semicolons fs.yield = 0 := by
  cases fs with
  | nil => rfl
  | cons op multiplicative mark factor rest =>
    rw [Factors.yield, mark.semicolons_cons_of_ne (op.kind_ne (by decide)), semicolons_append,
      Factor.semicolons_yield factor, Factors.semicolons_yield rest]
termination_by structural fs

theorem Term.semicolons_yield (t : Term) : semicolons t.yield = 0 := by
  obtain ⟨first, rest⟩ := t
  rw [Term.yield, semicolons_append, Factor.semicolons_yield first,
    Factors.semicolons_yield rest]
termination_by structural t

theorem Terms.semicolons_yield (terms : Terms) : semicolons terms.yield = 0 := by
  cases terms with
  | nil => rfl
  | cons op additive mark term rest =>
    rw [Terms.yield, mark.semicolons_cons_of_ne (op.kind_ne (by decide)), semicolons_append,
      Term.semicolons_yield term, Terms.semicolons_yield rest]
termination_by structural terms

/-- **An expression has no semicolons.** -/
theorem Expression.semicolons_yield (e : Expression) : semicolons e.yield = 0 := by
  obtain ⟨first, rest⟩ := e
  rw [Expression.yield, semicolons_append, Term.semicolons_yield first,
    Terms.semicolons_yield rest]
termination_by structural e

end

/-! ## Statements

A semicolon between two rows of statements adds up with the one statement that each row has more
than semicolons, and `BEGIN` and `END` add nothing to either side.
-/

mutual

/-- **A block has one statement more than semicolons.** -/
theorem Block.statementCount_tree (b : Block) :
    b.tree.statementCount = semicolons b.yield + 1 := by
  obtain ⟨opening, body, closing⟩ := b
  rw [Block.tree, Stmt.statementCount, Statements.statementCount_trees body, Block.yield,
    opening.semicolons_cons_of_ne (by decide), semicolons_append,
    closing.semicolons_cons_of_ne (by decide), semicolons_nil, Nat.add_zero]
termination_by structural b

theorem Statements.statementCount_trees (b : Statements) (next : Nat) :
    Stmt.statementCountList (b.trees next) = semicolons b.yield + 1 := by
  cases b with
  | last statement =>
    rw [Statements.trees, Stmt.statementCountList, Stmt.statementCountList, Statements.yield,
      Statement.statementCount_tree statement]
  | cons statement semicolon rest =>
    -- Each side has one statement more than semicolons, and the semicolon between them is one.
    have hstatement := Statement.statementCount_tree statement semicolon.token.span.start
    have hrest := Statements.statementCount_trees rest next
    rw [Statements.trees, Stmt.statementCountList, hstatement, hrest, Statements.yield,
      semicolons_append, semicolon.semicolons_cons]
    omega
termination_by structural b

theorem Statement.statementCount_tree (s : Statement) (next : Nat) :
    (s.tree next).statementCount = semicolons s.yield + 1 := by
  cases s with
  | block inner => exact Block.statementCount_tree inner
  | assignment target mark value =>
    rw [Statement.tree, Stmt.statementCount, Statement.yield,
      target.semicolons_cons_of_ne (by decide), mark.semicolons_cons_of_ne (by decide),
      value.semicolons_yield]
  | empty => rfl
termination_by structural s

end

/-! ## Whole sources -/

/-- The statements of a program are one more than its semicolons; an expression has neither. -/
theorem Derivation.statementCount_tree {mode : Mode} (d : Derivation mode) :
    (mode = .program → d.tree.statementCount = semicolons d.yield + 1) ∧
      (mode = .expression → d.tree.statementCount = 0 ∧ semicolons d.yield = 0) := by
  cases d with
  | program block dot =>
    constructor
    · intro _
      rw [Derivation.yield, semicolons_append, dot.semicolons_cons_of_ne (by decide)]
      exact block.statementCount_tree
    · intro hmode
      cases hmode
  | expression e =>
    refine ⟨fun hmode => ?_, fun _ => ⟨rfl, e.semicolons_yield⟩⟩
    cases hmode

end Grammar

/-- **Statements are counted by the semicolons.**  If a source is accepted as a program, under
whatever limit, then its tree has one statement more than the source has semicolons.  If it is
accepted as an expression, there are no statements and no semicolons. -/
theorem statementCount_of_parse {source : String} {mode : Mode} {limit : Nat} {tree : Tree}
    (h : parse source mode limit = .ok tree) :
    ∃ ts, tokens source = .ok ts ∧
      (mode = .program → tree.statementCount = 1 + semicolons ts) ∧
      (mode = .expression →
        tree.statementCount = 0 ∧ ∀ t ∈ ts, t.kind ≠ .symbol .semicolon) := by
  obtain ⟨d, hitems, -, rfl⟩ := parse_eq_ok_iff.1 h
  obtain ⟨hprogram, hexpression⟩ := d.statementCount_tree
  refine ⟨d.yield, tokens_eq_ok_iff.2 hitems, fun hmode => ?_, fun hmode => ?_⟩
  · rw [hprogram hmode, Nat.add_comm]
  · obtain ⟨hcount, hnone⟩ := hexpression hmode
    exact ⟨hcount, semicolons_eq_zero_iff.1 hnone⟩

/-- In `BEGIN;BEGIN x:=1;END END.` two semicolons separate three statements, two of them empty;
`1+x` has none of either. -/
theorem statementCount_of_parse_nested :
    (∃ ts, tokens "BEGIN;BEGIN x:=1;END END." = .ok ts ∧ semicolons ts = 2 ∧
      ∃ tree, parse "BEGIN;BEGIN x:=1;END END." .program 2 = .ok tree ∧
        tree.statementCount = 3) ∧
    ∃ ts, tokens "1+x" = .ok ts ∧ ∀ t ∈ ts, t.kind ≠ .symbol .semicolon := by
  have hprogram : parse "BEGIN;BEGIN x:=1;END END." .program 2 =
      .ok (.stmt (.compound [.empty (.emptyAt 5), .compound [
        .assignment ⟨"x", ⟨12, 13⟩⟩ (.number ⟨1, by decide, by decide⟩ ⟨15, 16⟩) ⟨12, 16⟩,
        .empty (.emptyAt 17)] ⟨6, 20⟩] ⟨0, 24⟩)) := by
    decide +kernel
  have hexpression : parse "1+x" .expression 0 =
      .ok (.expr (.binary .add (.number ⟨1, by decide, by decide⟩ ⟨0, 1⟩) (.var ⟨"x", ⟨2, 3⟩⟩)
        ⟨0, 3⟩)) := by
    decide +kernel
  obtain ⟨ts, hts, hcount, -⟩ := statementCount_of_parse hprogram
  obtain ⟨us, hus, -, hnone⟩ := statementCount_of_parse hexpression
  have hthree : 3 = 1 + semicolons ts := hcount rfl
  exact ⟨⟨ts, hts, by omega, _, hprogram, rfl⟩, us, hus, (hnone rfl).2⟩

end MiniPascal
