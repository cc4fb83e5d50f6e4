/-
# One operand, and two with an operator between them

The shortest expressions: a factor alone, and two factors with an operator between them.  Whether
the operator is one of terms or of factors, its operands are the two factors.  A sign or an operator
is one symbol, whatever is written behind it.  Main statements:

* `parse_of_factor` : a source that is a factor is parsed to its tree;
* `parse_of_factors` : a source that is two factors is parsed to the operation on their trees.
-/
import MiniPascal.Proofs.Lexical.Embedding
import MiniPascal.Proofs.Parser.Run

namespace MiniPascal

open Grammar

/-! ## Signs and operators -/

namespace Cursor

theorem items_sign (sign : Sign) (offset : Nat) (rest : List Char) :
    items ⟨offset, sign.text.toList ++ rest⟩ =
      .token ⟨sign.kind, sign.text, ⟨offset, offset + 1⟩⟩ :: items ⟨offset + 1, rest⟩ := by
  cases sign with
  | plus => exact items_symbol (s := .plus) (by decide) offset rest
  | minus => exact items_symbol (s := .minus) (by decide) offset rest

theorem items_operator (op : Operator) (offset : Nat) (rest : List Char) :
    items ⟨offset, op.text.toList ++ rest⟩ =
      .token ⟨op.kind, op.text, ⟨offset, offset + 1⟩⟩ :: items ⟨offset + 1, rest⟩ := by
  cases op with
  | add => exact items_symbol (s := .plus) (by decide) offset rest
  | sub => exact items_symbol (s := .minus) (by decide) offset rest
  | mul => exact items_symbol (s := .star) (by decide) offset rest
  | div => exact items_symbol (s := .slash) (by decide) offset rest

end Cursor

/-! ## Derivations -/

namespace Grammar

namespace Expression

/-- The expression that is the factor alone. -/
def ofFactor (f : Factor) : Expression := .mk (.mk f .nil) .nil

/-- The expression that is the two factors with the operator between them. -/
def ofFactors (op : Operator) (mark : Leaf op.kind) (f g : Factor) : Expression :=
  if h : op.isMultiplicative = true then .mk (.mk f (.cons op h mark g .nil)) .nil
  else .mk (.mk f .nil) (.cons op (Bool.eq_false_iff.2 h) mark (.mk g .nil) .nil)

variable (op : Operator) (mark : Leaf op.kind) (f g : Factor) (n : Nat)

@[simp] theorem yield_ofFactor : (ofFactor f).yield = f.yield := by
  simp [ofFactor, yield, Term.yield, Factors.yield, Terms.yield]

@[simp] theorem tree_ofFactor : (ofFactor f).tree = f.tree := rfl

@[simp] theorem depths_ofFactor : (ofFactor f).depths n = f.depths n := by
  simp [ofFactor, depths, Term.depths, Factors.depths, Terms.depths]

@[simp] theorem yield_ofFactors :
    (ofFactors op mark f g).yield = f.yield ++ mark.token :: g.yield := by
  unfold ofFactors
  split <;> simp [yield, Term.yield, Factors.yield, Terms.yield]

@[simp] theorem tree_ofFactors :
    (ofFactors op mark f g).tree = .combine op f.tree g.tree := by
  unfold ofFactors
  split <;> rfl

@[simp] theorem depths_ofFactors :
    (ofFactors op mark f g).depths n = f.depths n ++ n :: g.depths n := by
  unfold ofFactors
  split <;> simp [depths, Term.depths, Factors.depths, Terms.depths]

end Expression

end Grammar

/-! ## Sources -/

section

variable {source : String} {limit : Nat} {f g : Factor}

/-- **A source that is a factor is parsed to its tree.** -/
theorem parse_of_factor (hitems : (Cursor.ofSource source).items = f.yield.map .token)
    (hdepths : ∀ n ∈ f.depths 0, n ≤ limit) :
    parse source .expression limit = .ok (.expr f.tree) := by
  refine parse_eq_ok_iff.2 ⟨.expression (.ofFactor f), ?_, ?_, ?_⟩
  · rwa [Derivation.yield, Expression.yield_ofFactor]
  · rwa [Derivation.depths, Expression.depths_ofFactor]
  · rw [Derivation.tree, Expression.tree_ofFactor]

/-- **A source that is two factors with an operator between them is parsed to the operation on
their trees.** -/
theorem parse_of_factors {op : Operator} (mark : Leaf op.kind)
    (hitems : (Cursor.ofSource source).items = (f.yield ++ mark.token :: g.yield).map .token)
    (hleft : ∀ n ∈ f.depths 0, n ≤ limit) (hright : ∀ n ∈ g.depths 0, n ≤ limit) :
    parse source .expression limit = .ok (.expr (.combine op f.tree g.tree)) := by
  refine parse_eq_ok_iff.2 ⟨.expression (.ofFactors op mark f g), ?_, ?_, ?_⟩
  · rwa [Derivation.yield, Expression.yield_ofFactors]
  · rw [Derivation.depths, Expression.depths_ofFactors, List.forall_mem_append,
      List.forall_mem_cons]
    exact ⟨hleft, Nat.zero_le _, hright⟩
  · rw [Derivation.tree, Expression.tree_ofFactors]

end

end MiniPascal
