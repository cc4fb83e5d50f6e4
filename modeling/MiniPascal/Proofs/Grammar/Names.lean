/-
# The names of a tree

A tree holds the names of its source, each as often and in the order in which the source writes it,
and no others.  What is true of all identifiers of a source is therefore true of all names of its
tree.  Main statements:

* `Grammar.Expression.names_tree`, `Grammar.Block.names_tree` : the names of a derivation's tree;
* `names_of_parse` : the names of a parsed tree are the identifiers of its source;
* `isWord_of_mem_names` : so they are words.
-/
import MiniPascal.Proofs.Evaluation.Reads
import MiniPascal.Proofs.Lexical.Tiling
import MiniPascal.Proofs.Parser.Acceptance

namespace MiniPascal

/-! ## Names -/

/-- The names in the expression, from left to right. -/
def Expr.names (e : Expr) : List String := e.reads.map Variable.name

/-- The names in the assignment, with that of the target in front. -/
def Assignment.names (a : Assignment) : List String := a.target.name :: a.value.names

/-- The names in the tree, in the order of the source. -/
def Tree.names : Tree → List String
  | expr e => e.names
  | stmt s => s.assignments.flatMap Assignment.names

/-- The text of the token, if it is an identifier. -/
def Token.identifier? (t : Token) : Option String :=
  if t.kind = .identifier then some t.text else none

/-- The identifiers among the tokens, in order. -/
def identifiers (ts : List Token) : List String := ts.filterMap Token.identifier?

@[simp] theorem identifiers_append (ts us : List Token) :
    identifiers (ts ++ us) = identifiers ts ++ identifiers us :=
  List.filterMap_append

theorem mem_identifiers_iff {ts : List Token} {name : String} :
    name ∈ identifiers ts ↔ ∃ t ∈ ts, t.kind = .identifier ∧ t.text = name := by
  simp [identifiers, List.mem_filterMap, Token.identifier?]

namespace Grammar

/-- An identifier is among the identifiers. -/
theorem Leaf.identifiers_cons (word : Leaf .identifier) (ts : List Token) :
    identifiers (word.token :: ts) = word.token.text :: identifiers ts := by
  have hword : word.token.identifier? = some word.token.text := if_pos word.kind_eq
  rw [identifiers, List.filterMap_cons, hword, identifiers]

/-- A token of another kind is not. -/
theorem Leaf.identifiers_cons_of_ne {kind : Kind} (leaf : Leaf kind) (h : kind ≠ .identifier)
    (ts : List Token) : identifiers (leaf.token :: ts) = identifiers ts := by
  have hleaf : leaf.token.identifier? = none := by
    rw [Token.identifier?, leaf.kind_eq, if_neg h]
  rw [identifiers, List.filterMap_cons, hleaf, identifiers]

end Grammar

theorem Expr.names_binary (op : Operator) (left right : Expr) (span : Span) :
    (binary op left right span).names = left.names ++ right.names :=
  List.map_append

theorem Expr.names_combine (op : Operator) (left right : Expr) :
    (combine op left right).names = left.names ++ right.names :=
  names_binary op left right _

namespace Grammar

/-! ## Expressions -/

mutual

theorem Factor.names_tree (f : Factor) : f.tree.names = identifiers f.yield := by
  cases f with
  | signed sign mark operand =>
    rw [Factor.yield, mark.identifiers_cons_of_ne (sign.kind_ne (by decide))]
    exact Factor.names_tree operand
  | integer value literal =>
    rw [Factor.yield, literal.identifiers_cons_of_ne (by simp)]
    rfl
  | group opening inner closing =>
    rw [Factor.yield, opening.identifiers_cons_of_ne (by decide), identifiers_append,
      closing.identifiers_cons_of_ne (by decide), ← Expression.names_tree inner]
    exact (List.append_nil _).symm
  | name word =>
    rw [Factor.yield, word.identifiers_cons]
    rfl
termination_by structural f

theorem Factors.names_fold (fs : Factors) (left : Expr) :
    (fs.fold left).names = left.names ++ identifiers fs.yield := by
  cases fs with
  | nil => exact (List.append_nil _).symm
  | cons op multiplicative mark factor rest =>
    rw [Factors.fold, Factors.names_fold rest, Expr.names_combine, Factor.names_tree factor,
      Factors.yield, mark.identifiers_cons_of_ne (op.kind_ne (by decide)), identifiers_append,
      List.append_assoc]
termination_by structural fs

theorem Term.names_tree (t : Term) : t.tree.names = identifiers t.yield := by
  obtain ⟨first, rest⟩ := t
  rw [Term.tree, Factors.names_fold rest, Factor.names_tree first, Term.yield, identifiers_append]
termination_by structural t

theorem Terms.names_fold (terms : Terms) (left : Expr) :
    (terms.fold left).names = left.names ++ identifiers terms.yield := by
  cases terms with
  | nil => exact (List.append_nil _).symm
  | cons op additive mark term rest =>
    rw [Terms.fold, Terms.names_fold rest, Expr.names_combine, Term.names_tree term,
      Terms.yield, mark.identifiers_cons_of_ne (op.kind_ne (by decide)), identifiers_append,
      List.append_assoc]
termination_by structural terms

/-- **The names of an expression's tree are its identifiers.** -/
theorem Expression.names_tree (e : Expression) : e.tree.names = identifiers e.yield := by
  obtain ⟨first, rest⟩ := e
  rw [Expression.tree, Terms.names_fold rest, Term.names_tree first, Expression.yield,
    identifiers_append]
termination_by structural e

end

/-! ## Statements -/

mutual

/-- **The names of a block's tree are its identifiers.** -/
theorem Block.names_tree (b : Block) :
    b.tree.assignments.flatMap Assignment.names = identifiers b.yield := by
  obtain ⟨opening, body, closing⟩ := b
  rw [Block.yield, opening.identifiers_cons_of_ne (by decide), identifiers_append,
    closing.identifiers_cons_of_ne (by decide), ← Statements.names_trees body]
  exact (List.append_nil _).symm
termination_by structural b

theorem Statements.names_trees (b : Statements) (next : Nat) :
    (Stmt.assignmentsList (b.trees next)).flatMap Assignment.names = identifiers b.yield := by
  cases b with
  | last statement =>
    rw [Statements.trees, Stmt.assignmentsList, Stmt.assignmentsList, List.append_nil,
      Statement.names_tree statement, Statements.yield]
  | cons statement semicolon rest =>
    rw [Statements.trees, Stmt.assignmentsList, List.flatMap_append,
      Statement.names_tree statement, Statements.names_trees rest, Statements.yield,
      identifiers_append, semicolon.identifiers_cons_of_ne (by decide)]
termination_by structural b

theorem Statement.names_tree (s : Statement) (next : Nat) :
    (s.tree next).assignments.flatMap Assignment.names = identifiers s.yield := by
  cases s with
  | block inner => exact Block.names_tree inner
  | assignment target mark value =>
    rw [Statement.yield, target.identifiers_cons, mark.identifiers_cons_of_ne (by decide),
      ← value.names_tree]
    exact List.append_nil _
  | empty => rfl
termination_by structural s

end

/-- The names of the tree of a whole source are the identifiers of the source. -/
theorem Derivation.names_tree {mode : Mode} (d : Derivation mode) :
    d.tree.names = identifiers d.yield := by
  cases d with
  | program block dot =>
    rw [Derivation.yield, identifiers_append, dot.identifiers_cons_of_ne (by decide),
      ← block.names_tree]
    exact (List.append_nil _).symm
  | expression e => exact e.names_tree

end Grammar

section

variable {source : String} {mode : Mode} {limit : Nat} {tree : Tree}

/-- **The names of a parsed tree are the identifiers of its source.** -/
theorem names_of_parse (h : parse source mode limit = .ok tree) :
    ∃ ts, tokens source = .ok ts ∧ tree.names = identifiers ts := by
  obtain ⟨d, hitems, -, rfl⟩ := parse_eq_ok_iff.1 h
  exact ⟨d.yield, tokens_eq_ok_iff.2 hitems, d.names_tree⟩

/-- **The names of a parsed tree are words.** -/
theorem isWord_of_mem_names (h : parse source mode limit = .ok tree) {name : String}
    (hname : name ∈ tree.names) : IsWord name.toList := by
  obtain ⟨ts, hts, hnames⟩ := names_of_parse h
  rw [hnames, mem_identifiers_iff] at hname
  obtain ⟨t, ht, hkind, rfl⟩ := hname
  have hwritten := ((tokens_eq_ok_iff_tiling.1 hts).tokens t ht).written
  rw [hkind] at hwritten
  exact hwritten.1

end

end MiniPascal
