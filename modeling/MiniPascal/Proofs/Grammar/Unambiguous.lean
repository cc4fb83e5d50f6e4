/-
# The grammar is unambiguous

A phrase is determined by the tokens that it derives, together with its end in a longer list of
tokens, as long as what follows cannot go on with it.  One token is enough to tell: a term goes on
only with a multiplicative operator, an expression only with an operator, and a statement is always
followed by a semicolon or by `END`.  Main statements:

* `Expression.yield_append_inj`, `Block.yield_append_inj` : a phrase and its end are determined;
* `Derivation.yield_injective` : the tokens of a source have at most one derivation.
-/
import MiniPascal.Proofs.Grammar.Derivation

namespace MiniPascal

/-- Different signs are tokens of different kinds. -/
theorem Sign.kind_injective {s t : Sign} (h : s.kind = t.kind) : s = t := by
  cases s <;> cases t <;> simp [Sign.kind] at h ⊢

/-- Different operators are tokens of different kinds. -/
theorem Operator.kind_injective {op other : Operator} (h : op.kind = other.kind) : op = other := by
  cases op <;> cases other <;> simp [Operator.kind] at h ⊢

/-- A sign is no token but a plus or a minus. -/
theorem Sign.kind_ne (sign : Sign) {kind : Kind}
    (h : kind ∉ [Kind.symbol .plus, .symbol .minus]) : sign.kind ≠ kind := by
  rintro rfl
  cases sign <;> exact h (by decide)

/-- An operator is no token but one of four symbols. -/
theorem Operator.kind_ne (op : Operator) {kind : Kind}
    (h : kind ∉ [Kind.symbol .plus, .symbol .minus, .symbol .star, .symbol .slash]) :
    op.kind ≠ kind := by
  rintro rfl
  cases op <;> exact h (by decide)

namespace Grammar

/-! ## Leaves -/

/-- A token is a leaf of one kind only. -/
theorem Leaf.kind_unique {k l : Kind} {a : Leaf k} {b : Leaf l} (h : a.token = b.token) :
    k = l := by
  rw [← a.kind_eq, ← b.kind_eq, h]

/-- Leaves of different kinds are different tokens. -/
theorem Leaf.token_ne {k l : Kind} (a : Leaf k) (b : Leaf l) (h : k ≠ l) : a.token ≠ b.token :=
  fun htoken => h (Leaf.kind_unique htoken)

/-- A sign is no integer, no parenthesis and no name. -/
theorem Leaf.sign_ne {sign : Sign} {k : Kind} (mark : Leaf sign.kind) (other : Leaf k)
    (hplus : k ≠ .symbol .plus) (hminus : k ≠ .symbol .minus) : mark.token ≠ other.token := by
  apply Leaf.token_ne
  cases sign
  · exact hplus.symm
  · exact hminus.symm

/-! ## What ends a phrase -/

/-- The tokens do not go on with the term in front of them. -/
def EndsTerm (ts : List Token) : Prop :=
  ∀ t ∈ ts.head?, ∀ op : Operator, op.isMultiplicative = true → t.kind ≠ op.kind

/-- The tokens do not go on with the expression in front of them. -/
def EndsExpression (ts : List Token) : Prop := ∀ t ∈ ts.head?, ∀ op : Operator, t.kind ≠ op.kind

/-- The tokens start with one that stands behind a statement. -/
def EndsStatement (ts : List Token) : Prop :=
  ∃ t rest, ts = t :: rest ∧ (t.kind = .symbol .semicolon ∨ t.kind = .keyword .blockEnd)

/-- The tokens start with the end of a block. -/
def EndsBlock (ts : List Token) : Prop := ∃ t rest, ts = t :: rest ∧ t.kind = .keyword .blockEnd

theorem endsExpression_nil : EndsExpression [] := by
  intro t ht
  cases ht

/-- A token that is no operator ends an expression. -/
theorem endsExpression_cons {t : Token} (h : ∀ op : Operator, t.kind ≠ op.kind)
    (rest : List Token) : EndsExpression (t :: rest) := by
  intro u hu
  cases hu
  exact h

/-- A closing parenthesis ends an expression. -/
theorem endsExpression_rightParen (closing : Leaf (.symbol .rightParen)) (rest : List Token) :
    EndsExpression (closing.token :: rest) := by
  apply endsExpression_cons
  intro op
  rw [closing.kind_eq]
  cases op <;> simp [Operator.kind]

/-- What stands behind a statement ends an expression. -/
theorem EndsStatement.endsExpression {ts : List Token} (h : EndsStatement ts) :
    EndsExpression ts := by
  obtain ⟨t, rest, rfl, ht⟩ := h
  apply endsExpression_cons
  intro op
  rcases ht with ht | ht <;> rw [ht] <;> cases op <;> simp [Operator.kind]

theorem EndsExpression.endsTerm {ts : List Token} (h : EndsExpression ts) : EndsTerm ts :=
  fun t ht op _ => h t ht op

/-- An expression does not end in front of an operator. -/
theorem EndsExpression.not_operator {op : Operator} (mark : Leaf op.kind) (rest : List Token) :
    ¬ EndsExpression (mark.token :: rest) :=
  fun h => h mark.token rfl op mark.kind_eq

/-- A term does not end in front of an operator between factors. -/
theorem EndsTerm.not_multiplicative {op : Operator} (h : op.isMultiplicative = true)
    (mark : Leaf op.kind) (rest : List Token) : ¬ EndsTerm (mark.token :: rest) :=
  fun hends => hends mark.token rfl op h mark.kind_eq

/-- A term ends in front of more terms and what ends an expression. -/
theorem Terms.endsTerm (ts : Terms) {r : List Token} (hr : EndsExpression r) :
    EndsTerm (ts.yield ++ r) := by
  cases ts with
  | nil => exact hr.endsTerm
  | cons op additive mark term rest =>
    intro t ht other hother hkind
    obtain rfl : mark.token = t := by simpa [Terms.yield] using ht
    have hop : op = other := Operator.kind_injective (mark.kind_eq ▸ hkind)
    rw [hop, hother] at additive
    cases additive

theorem EndsBlock.endsStatement {ts : List Token} (h : EndsBlock ts) : EndsStatement ts := by
  obtain ⟨t, rest, rfl, ht⟩ := h
  exact ⟨t, rest, rfl, Or.inr ht⟩

/-! ## Expressions -/

mutual

/-- A factor and its end are determined. -/
theorem Factor.yield_append_inj (f g : Factor) (r s : List Token)
    (h : f.yield ++ r = g.yield ++ s) : f = g ∧ r = s := by
  -- Factors of different rules start with tokens of different kinds.
  cases f with
  | signed sign mark operand =>
    cases g with
    | signed sign' mark' operand' =>
      obtain ⟨hmark, hrest⟩ := List.cons.inj h
      obtain rfl := Sign.kind_injective (Leaf.kind_unique hmark)
      obtain ⟨rfl, rfl⟩ := Factor.yield_append_inj operand operand' r s hrest
      exact ⟨by rw [Leaf.ext hmark], rfl⟩
    | _ => exact absurd (List.cons.inj h).1 (mark.sign_ne _ (by simp) (by simp))
  | integer value literal =>
    cases g with
    | signed sign mark operand =>
      exact absurd (List.cons.inj h).1.symm (mark.sign_ne _ (by simp) (by simp))
    | integer value' literal' =>
      obtain ⟨hliteral, hrest⟩ := List.cons.inj h
      obtain rfl := Kind.integer.inj (Leaf.kind_unique hliteral)
      exact ⟨by rw [Leaf.ext hliteral], hrest⟩
    | _ => exact absurd (List.cons.inj h).1 (Leaf.token_ne _ _ (by simp))
  | group opening inner closing =>
    cases g with
    | signed sign mark operand =>
      exact absurd (List.cons.inj h).1.symm (mark.sign_ne _ (by simp) (by simp))
    | group opening' inner' closing' =>
      simp only [Factor.yield, List.cons_append, List.append_assoc, List.cons.injEq] at h
      obtain ⟨hopening, hrest⟩ := h
      obtain ⟨rfl, hclosing⟩ := Expression.yield_append_inj inner inner' _ _
        (endsExpression_rightParen closing r) (endsExpression_rightParen closing' s) hrest
      obtain ⟨hclosing, hend⟩ := List.cons.inj hclosing
      exact ⟨by rw [Leaf.ext hopening, Leaf.ext hclosing], hend⟩
    | _ => exact absurd (List.cons.inj h).1 (Leaf.token_ne _ _ (by simp))
  | name word =>
    cases g with
    | signed sign mark operand =>
      exact absurd (List.cons.inj h).1.symm (mark.sign_ne _ (by simp) (by simp))
    | name word' =>
      obtain ⟨hword, hrest⟩ := List.cons.inj h
      exact ⟨by rw [Leaf.ext hword], hrest⟩
    | _ => exact absurd (List.cons.inj h).1 (Leaf.token_ne _ _ (by simp))
termination_by structural f

/-- The factors of a repetition and its end are determined. -/
theorem Factors.yield_append_inj (fs gs : Factors) (r s : List Token) (hr : EndsTerm r)
    (hs : EndsTerm s) (h : fs.yield ++ r = gs.yield ++ s) : fs = gs ∧ r = s := by
  cases fs with
  | nil =>
    cases gs with
    | nil => exact ⟨rfl, h⟩
    | cons op multiplicative mark factor rest =>
      -- What stands behind the shorter repetition would go on with it.
      rw [show r = _ from h] at hr
      exact absurd hr (EndsTerm.not_multiplicative multiplicative mark _)
  | cons op multiplicative mark factor rest =>
    cases gs with
    | nil =>
      rw [show s = _ from h.symm] at hs
      exact absurd hs (EndsTerm.not_multiplicative multiplicative mark _)
    | cons op' multiplicative' mark' factor' rest' =>
      simp only [Factors.yield, List.cons_append, List.append_assoc, List.cons.injEq] at h
      obtain ⟨hmark, hrest⟩ := h
      obtain rfl := Operator.kind_injective (Leaf.kind_unique hmark)
      obtain ⟨rfl, htail⟩ := Factor.yield_append_inj factor factor' _ _ hrest
      obtain ⟨rfl, hend⟩ := Factors.yield_append_inj rest rest' r s hr hs htail
      exact ⟨by rw [Leaf.ext hmark], hend⟩
termination_by structural fs

/-- A term and its end are determined. -/
theorem Term.yield_append_inj (f g : Term) (r s : List Token) (hr : EndsTerm r)
    (hs : EndsTerm s) (h : f.yield ++ r = g.yield ++ s) : f = g ∧ r = s := by
  obtain ⟨first, rest⟩ := f
  obtain ⟨first', rest'⟩ := g
  simp only [Term.yield, List.append_assoc] at h
  obtain ⟨rfl, hrest⟩ := Factor.yield_append_inj first first' _ _ h
  obtain ⟨rfl, hend⟩ := Factors.yield_append_inj rest rest' r s hr hs hrest
  exact ⟨rfl, hend⟩
termination_by structural f

/-- The terms of a repetition and its end are determined. -/
theorem Terms.yield_append_inj (fs gs : Terms) (r s : List Token) (hr : EndsExpression r)
    (hs : EndsExpression s) (h : fs.yield ++ r = gs.yield ++ s) : fs = gs ∧ r = s := by
  cases fs with
  | nil =>
    cases gs with
    | nil => exact ⟨rfl, h⟩
    | cons op additive mark term rest =>
      rw [show r = _ from h] at hr
      exact absurd hr (EndsExpression.not_operator mark _)
  | cons op additive mark term rest =>
    cases gs with
    | nil =>
      rw [show s = _ from h.symm] at hs
      exact absurd hs (EndsExpression.not_operator mark _)
    | cons op' additive' mark' term' rest' =>
      simp only [Terms.yield, List.cons_append, List.append_assoc, List.cons.injEq] at h
      obtain ⟨hmark, hrest⟩ := h
      obtain rfl := Operator.kind_injective (Leaf.kind_unique hmark)
      obtain ⟨rfl, htail⟩ := Term.yield_append_inj term term' _ _ (rest.endsTerm hr)
        (rest'.endsTerm hs) hrest
      obtain ⟨rfl, hend⟩ := Terms.yield_append_inj rest rest' r s hr hs htail
      exact ⟨by rw [Leaf.ext hmark], hend⟩
termination_by structural fs

/-- An expression and its end are determined. -/
theorem Expression.yield_append_inj (e f : Expression) (r s : List Token) (hr : EndsExpression r)
    (hs : EndsExpression s) (h : e.yield ++ r = f.yield ++ s) : e = f ∧ r = s := by
  obtain ⟨first, rest⟩ := e
  obtain ⟨first', rest'⟩ := f
  simp only [Expression.yield, List.append_assoc] at h
  obtain ⟨rfl, hrest⟩ := Term.yield_append_inj first first' _ _ (rest.endsTerm hr)
    (rest'.endsTerm hs) h
  obtain ⟨rfl, hend⟩ := Terms.yield_append_inj rest rest' r s hr hs hrest
  exact ⟨rfl, hend⟩
termination_by structural e

end

/-! ## Statements -/

/-- A semicolon ends a statement. -/
theorem endsStatement_semicolon (semicolon : Leaf (.symbol .semicolon)) (rest : List Token) :
    EndsStatement (semicolon.token :: rest) :=
  ⟨_, rest, rfl, Or.inl semicolon.kind_eq⟩

/-- `END` ends a block. -/
theorem endsBlock_blockEnd (closing : Leaf (.keyword .blockEnd)) (rest : List Token) :
    EndsBlock (closing.token :: rest) :=
  ⟨_, rest, rfl, closing.kind_eq⟩

/-- What ends a statement starts with no other token. -/
theorem EndsStatement.not_leaf {k : Kind} {leaf : Leaf k} {rest : List Token}
    (h : EndsStatement (leaf.token :: rest)) : k = .symbol .semicolon ∨ k = .keyword .blockEnd := by
  obtain ⟨t, tail, heq, hkind⟩ := h
  rw [← (List.cons.inj heq).1, leaf.kind_eq] at hkind
  exact hkind

/-- What ends a block starts with no other token. -/
theorem EndsBlock.not_leaf {k : Kind} {leaf : Leaf k} {rest : List Token}
    (h : EndsBlock (leaf.token :: rest)) : k = .keyword .blockEnd := by
  obtain ⟨t, tail, heq, hkind⟩ := h
  rw [← (List.cons.inj heq).1, leaf.kind_eq] at hkind
  exact hkind

mutual

/-- A block and its end are determined. -/
theorem Block.yield_append_inj (b c : Block) (r s : List Token)
    (h : b.yield ++ r = c.yield ++ s) : b = c ∧ r = s := by
  obtain ⟨opening, body, closing⟩ := b
  obtain ⟨opening', body', closing'⟩ := c
  simp only [Block.yield, List.cons_append, List.append_assoc, List.cons.injEq] at h
  obtain ⟨hopening, hrest⟩ := h
  obtain ⟨rfl, htail⟩ := Statements.yield_append_inj body body' _ _
    (endsBlock_blockEnd closing r) (endsBlock_blockEnd closing' s) hrest
  obtain ⟨hclosing, hend⟩ := List.cons.inj htail
  exact ⟨by rw [Leaf.ext hopening, Leaf.ext hclosing], hend⟩
termination_by structural b

/-- Statements and their end are determined. -/
theorem Statements.yield_append_inj (b c : Statements) (r s : List Token) (hr : EndsBlock r)
    (hs : EndsBlock s) (h : b.yield ++ r = c.yield ++ s) : b = c ∧ r = s := by
  cases b with
  | last first =>
    cases c with
    | last first' =>
      obtain ⟨rfl, hend⟩ := Statement.yield_append_inj first first' r s hr.endsStatement
        hs.endsStatement h
      exact ⟨rfl, hend⟩
    | cons first' semicolon rest =>
      simp only [Statements.yield, List.cons_append, List.append_assoc] at h
      -- A semicolon would stand where the block ends.
      obtain ⟨-, hend⟩ := Statement.yield_append_inj first first' r _ hr.endsStatement
        (endsStatement_semicolon semicolon _) h
      rw [hend] at hr
      cases hr.not_leaf
  | cons first semicolon rest =>
    simp only [Statements.yield, List.cons_append, List.append_assoc] at h
    cases c with
    | last first' =>
      obtain ⟨-, hend⟩ := Statement.yield_append_inj first first' _ s
        (endsStatement_semicolon semicolon _) hs.endsStatement h
      rw [← hend] at hs
      cases hs.not_leaf
    | cons first' semicolon' rest' =>
      simp only [Statements.yield, List.cons_append, List.append_assoc] at h
      obtain ⟨rfl, htail⟩ := Statement.yield_append_inj first first' _ _
        (endsStatement_semicolon semicolon _) (endsStatement_semicolon semicolon' _) h
      obtain ⟨hsemicolon, hrest⟩ := List.cons.inj htail
      obtain ⟨rfl, hend⟩ := Statements.yield_append_inj rest rest' r s hr hs hrest
      exact ⟨by rw [Leaf.ext hsemicolon], hend⟩
termination_by structural b

/-- A statement and its end are determined. -/
theorem Statement.yield_append_inj (b c : Statement) (r s : List Token) (hr : EndsStatement r)
    (hs : EndsStatement s) (h : b.yield ++ r = c.yield ++ s) : b = c ∧ r = s := by
  cases b with
  | block inner =>
    cases c with
    | block inner' =>
      obtain ⟨rfl, hend⟩ := Block.yield_append_inj inner inner' r s h
      exact ⟨rfl, hend⟩
    | assignment target mark value =>
      obtain ⟨opening, body, closing⟩ := inner
      exact absurd (List.cons.inj h).1 (Leaf.token_ne _ _ (by simp))
    | empty =>
      obtain ⟨opening, body, closing⟩ := inner
      rw [← show _ = s from h] at hs
      exact absurd hs.not_leaf (by simp)
  | assignment target mark value =>
    cases c with
    | block inner =>
      obtain ⟨opening, body, closing⟩ := inner
      exact absurd (List.cons.inj h).1 (Leaf.token_ne _ _ (by simp))
    | assignment target' mark' value' =>
      simp only [Statement.yield, List.cons_append, List.cons.injEq] at h
      obtain ⟨htarget, hmark, hvalue⟩ := h
      obtain ⟨rfl, hend⟩ := Expression.yield_append_inj value value' r s hr.endsExpression
        hs.endsExpression hvalue
      exact ⟨by rw [Leaf.ext htarget, Leaf.ext hmark], hend⟩
    | empty =>
      rw [← show _ = s from h] at hs
      exact absurd hs.not_leaf (by simp)
  | empty =>
    cases c with
    | block inner =>
      obtain ⟨opening, body, closing⟩ := inner
      rw [show r = _ from h] at hr
      exact absurd hr.not_leaf (by simp)
    | assignment target mark value =>
      rw [show r = _ from h] at hr
      exact absurd hr.not_leaf (by simp)
    | empty => exact ⟨rfl, h⟩
termination_by structural b

end

/-! ## Whole sources -/

/-- **The grammar is unambiguous.**  The tokens of a source have at most one derivation. -/
theorem Derivation.yield_injective {mode : Mode} {d e : Derivation mode} (h : d.yield = e.yield) :
    d = e := by
  cases d with
  | program block dot =>
    obtain ⟨block', dot'⟩ := e
    obtain ⟨rfl, hdot⟩ := Block.yield_append_inj block block' _ _ h
    rw [Leaf.ext (List.cons.inj hdot).1]
  | expression e =>
    cases e with
    | expression f =>
      have happend : e.yield ++ [] = f.yield ++ [] := congrArg (· ++ []) h
      rw [(Expression.yield_append_inj e f [] [] endsExpression_nil endsExpression_nil happend).1]

end Grammar

end MiniPascal
