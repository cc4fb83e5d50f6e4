/-
# What is read is derived

Conversely to `Derivation.reads`, what the parser reads up to the end of a source has a derivation.
A configuration in front of a phrase accepts only tokens that start with a derivation of that
phrase, and goes on behind it as the phrase's tree says.  The phrases of expressions call for each
other, and so do those of statements, each time on fewer tokens: the inductions are on the number of
tokens.

* `exists_expression`, `exists_statements` : what is accepted in front of a phrase;
* `Accepts.derives` : what is accepted from the start has a derivation;
* `accepts_start_iff` : the parser without a limit accepts what the grammar derives, to its tree.
-/
import MiniPascal.Proofs.Grammar.Unambiguous
import MiniPascal.Proofs.Parser.Completeness

namespace MiniPascal

open Grammar

namespace Config

/-- From the configuration the parser reads the tokens up to the end of a source with this tree. -/
def Accepts (c : Config) (ts : List Token) (tree : Tree) : Prop :=
  ∃ ds d, Reads c ts ds d ∧ d.tree? = some tree

theorem accepts_nil_iff {c : Config} {tree : Tree} : Accepts c [] tree ↔ c.tree? = some tree := by
  constructor
  · rintro ⟨ds, d, hreads, htree⟩
    cases hreads
    exact htree
  · intro htree
    exact ⟨[], c, .nil c, htree⟩

theorem accepts_cons_iff {c : Config} {t : Token} {ts : List Token} {tree : Tree} :
    Accepts c (t :: ts) tree ↔ ∃ m, c.move? t = some m ∧ Accepts m.next ts tree := by
  constructor
  · rintro ⟨ds, d, hreads, htree⟩
    obtain ⟨m, es, hmove, rfl, hrest⟩ := hreads.exists_move
    exact ⟨m, hmove, es, d, hrest, htree⟩
  · rintro ⟨m, hmove, es, d, hrest, htree⟩
    exact ⟨c.groups :: es, d, .cons hmove hrest, htree⟩

/-- A configuration that may not end a source accepts only what it moves on with. -/
theorem Accepts.exists_move {c : Config} {ts : List Token} {tree : Tree} (h : Accepts c ts tree)
    (hend : c.tree? = none) :
    ∃ t rest m, ts = t :: rest ∧ c.move? t = some m ∧ Accepts m.next rest tree := by
  cases ts with
  | nil =>
    rw [accepts_nil_iff, hend] at h
    cases h
  | cons t rest =>
    obtain ⟨m, hmove, hrest⟩ := accepts_cons_iff.1 h
    exact ⟨t, rest, m, rfl, hmove, hrest⟩

/-! ## Expressions -/

/-- A token that is no operator closes the expression in front of it. -/
theorem move?_operator_of_ne {t : Token} (h : ∀ op : Operator, t.kind ≠ op.kind) {goal : Goal}
    {sum : Option Pending} {term : Expr} {outer : List Level} :
    (operator goal sum term outer).move? t =
      afterExpression? goal (Pending.close sum term) outer t := by
  refine Option.ext fun m => ?_
  rw [show (operator goal sum term outer).move? t = operator? goal sum term outer t from rfl,
    operator?_eq_some_iff]
  constructor
  · rintro (⟨op, hop, -⟩ | ⟨-, hm⟩)
    · exact absurd hop (h op)
    · exact hm
  · exact fun hm => Or.inr ⟨h, hm⟩

/-- A source does not end inside parentheses. -/
theorem tree?_operator_group (goal : Goal) (sum : Option Pending) (term : Expr) (level : Level)
    (outer : List Level) : (operator goal sum term (level :: outer)).tree? = none := by
  cases goal <;> rfl

/-- In front of what ends an expression, its terms may be put together beforehand. -/
theorem accepts_closed_iff {ts : List Token} (h : EndsExpression ts) {goal : Goal}
    {sum : Option Pending} {term : Expr} {outer : List Level} {tree : Tree} :
    Accepts (operator goal none (Pending.close sum term) outer) ts tree ↔
      Accepts (operator goal sum term outer) ts tree := by
  cases ts with
  | nil =>
    rw [accepts_nil_iff, accepts_nil_iff]
    cases goal <;> cases outer <;> exact Iff.rfl
  | cons t ts =>
    rw [accepts_cons_iff, accepts_cons_iff, move?_operator_of_ne (h t rfl),
      move?_operator_of_ne (h t rfl)]
    exact Iff.rfl

/-- What is accepted in front of an operand starts with a factor. -/
def OperandSound (ts : List Token) : Prop :=
  ∀ goal level outer tree, Accepts (operand goal level outer) ts tree →
    ∃ (f : Factor) (rest : List Token), ts = f.yield ++ rest ∧
      Accepts (operator goal level.sum (level.term f.tree) outer) rest tree

/-- What is accepted behind an operand starts with the rest of its term and of its expression. -/
def OperatorSound (ts : List Token) : Prop :=
  ∀ goal sum term outer tree, Accepts (operator goal sum term outer) ts tree →
    ∃ (fs : Factors) (terms : Terms) (rest : List Token),
      ts = fs.yield ++ (terms.yield ++ rest) ∧ EndsExpression rest ∧
        Accepts (operator goal none (terms.fold (Pending.close sum (fs.fold term))) outer) rest tree

theorem Factor.length_yield_pos (f : Factor) : 0 < f.yield.length := by
  cases f <;> simp [Factor.yield]

/-- What is accepted in front of an expression starts with one. -/
theorem exists_expression_of {ts : List Token} (hoperand : OperandSound ts)
    (hoperator : ∀ us : List Token, us.length < ts.length → OperatorSound us) {goal : Goal}
    {outer : List Level} {tree : Tree} (h : Accepts (operand goal .start outer) ts tree) :
    ∃ (e : Expression) (rest : List Token), ts = e.yield ++ rest ∧ EndsExpression rest ∧
      Accepts (operator goal none e.tree outer) rest tree := by
  obtain ⟨f, us, rfl, hus⟩ := hoperand _ _ _ _ h
  have hlength : us.length < (f.yield ++ us).length := by
    have hpos := Factor.length_yield_pos f
    rw [List.length_append]
    omega
  obtain ⟨fs, terms, rest, rfl, hrest, haccepts⟩ := hoperator us hlength _ _ _ _ _ hus
  refine ⟨.mk (.mk f fs) terms, rest, ?_, hrest, haccepts⟩
  rw [Expression.yield, Term.yield, List.append_assoc, List.append_assoc]

theorem operandSound_of {ts : List Token}
    (ih : ∀ us : List Token, us.length < ts.length → OperandSound us ∧ OperatorSound us) :
    OperandSound ts := by
  intro goal level outer tree h
  obtain ⟨t, us, m, rfl, hmove, hus⟩ := h.exists_move rfl
  have hlength : us.length < (t :: us).length := Nat.lt_succ_self us.length
  -- The kind of the first token decides which rule of a factor it is.
  rcases operand?_eq_some_iff.1 hmove with ⟨sign, hkind, rfl⟩ | ⟨hkind, rfl⟩ | ⟨value, hkind, rfl⟩ |
    ⟨hkind, rfl⟩
  · obtain ⟨f, rest, rfl, hrest⟩ := (ih us hlength).1 _ _ _ _ hus
    exact ⟨.signed sign ⟨t, hkind⟩ f, rest, rfl, hrest⟩
  · obtain ⟨e, vs, rfl, hends, hvs⟩ := exists_expression_of (ih us hlength).1
      (fun vs hvs => (ih vs (Nat.lt_trans hvs hlength)).2) hus
    obtain ⟨u, rest, m, rfl, hmove, hrest⟩ := hvs.exists_move (tree?_operator_group ..)
    rw [move?_operator_of_ne (hends u rfl)] at hmove
    obtain ⟨hclosing, rfl⟩ := afterExpression?_group.1 hmove
    refine ⟨.group ⟨t, hkind⟩ e ⟨u, hclosing⟩, rest, ?_, hrest⟩
    simp [Factor.yield]
  · exact ⟨.integer value ⟨t, hkind⟩, us, rfl, hus⟩
  · exact ⟨.name ⟨t, hkind⟩, us, rfl, hus⟩

theorem operatorSound_of {ts : List Token}
    (ih : ∀ us : List Token, us.length < ts.length → OperandSound us ∧ OperatorSound us) :
    OperatorSound ts := by
  intro goal sum term outer tree h
  cases ts with
  | nil =>
    exact ⟨.nil, .nil, [], rfl, endsExpression_nil, (accepts_closed_iff endsExpression_nil).2 h⟩
  | cons t us =>
    obtain ⟨m, hmove, hus⟩ := accepts_cons_iff.1 h
    -- An operator leads on to the next factor or term, and any other token ends the expression.
    rcases operator?_eq_some_iff.1 hmove with ⟨op, hkind, rfl⟩ | ⟨hne, -⟩
    · obtain ⟨f, vs, rfl, hvs⟩ := (ih us (Nat.lt_succ_self us.length)).1 _ _ _ _ hus
      have hlength : vs.length < (t :: (f.yield ++ vs)).length := by
        rw [List.length_cons, List.length_append]
        omega
      obtain ⟨fs, terms, rest, rfl, hrest, haccepts⟩ := (ih vs hlength).2 _ _ _ _ _ hvs
      cases hop : op.isMultiplicative with
      | true =>
        rw [Level.behind_multiplicative hop] at haccepts
        refine ⟨.cons op hop ⟨t, hkind⟩ f fs, terms, rest, ?_, hrest, haccepts⟩
        simp [Factors.yield]
      | false =>
        rw [Level.behind_additive hop] at haccepts
        refine ⟨.nil, .cons op hop ⟨t, hkind⟩ (.mk f fs) terms, rest, ?_, hrest, haccepts⟩
        simp [Factors.yield, Terms.yield, Term.yield]
    · have hends := endsExpression_cons hne us
      exact ⟨.nil, .nil, t :: us, rfl, hends, (accepts_closed_iff hends).2 h⟩

theorem operandSound_and_operatorSound (ts : List Token) : OperandSound ts ∧ OperatorSound ts := by
  induction hn : ts.length using Nat.strongRecOn generalizing ts with
  | ind n ih =>
    have hshorter : ∀ us : List Token, us.length < ts.length → OperandSound us ∧ OperatorSound us :=
      fun us hus => ih us.length (hn ▸ hus) us rfl
    exact ⟨operandSound_of hshorter, operatorSound_of hshorter⟩

/-- **What is accepted in front of an expression starts with one**, and goes on behind it. -/
theorem exists_expression {ts : List Token} {goal : Goal} {outer : List Level} {tree : Tree}
    (h : Accepts (operand goal .start outer) ts tree) :
    ∃ (e : Expression) (rest : List Token), ts = e.yield ++ rest ∧ EndsExpression rest ∧
      Accepts (operator goal none e.tree outer) rest tree :=
  exists_expression_of (operandSound_and_operatorSound ts).1
    (fun us _ => (operandSound_and_operatorSound us).2) h

/-! ## Statements -/

/-- What is accepted in front of a statement starts with one, and with what may stand behind it. -/
def StatementSound (ts : List Token) : Prop :=
  ∀ blocks tree, Accepts (statement blocks) ts tree →
    ∃ (s : Statement) (t : Token) (rest : List Token) (m : Move), ts = s.yield ++ t :: rest ∧
      afterStatement? (blocks.add (s.tree t.span.start)) t = some m ∧ Accepts m.next rest tree

/-- What is accepted in front of the statements of a block starts with them, up to its `END`. -/
def StatementsSound (ts : List Token) : Prop :=
  ∀ blocks tree, Accepts (statement blocks) ts tree →
    ∃ (b : Statements) (closing : Leaf (.keyword .blockEnd)) (rest : List Token),
      ts = b.yield ++ closing.token :: rest ∧
        Accepts (endBlock (blocks.addAll (b.trees closing.token.span.start)) closing.token.span)
          rest tree

theorem statementSound_of {ts : List Token}
    (ih : ∀ us : List Token, us.length < ts.length → StatementsSound us) : StatementSound ts := by
  intro blocks tree h
  obtain ⟨t, us, m, rfl, hmove, hus⟩ := h.exists_move rfl
  rcases statement?_eq_some_iff.1 hmove with ⟨hkind, rfl⟩ | ⟨hkind, rfl⟩ | hafter
  · obtain ⟨b, closing, vs, rfl, hvs⟩ := ih us (Nat.lt_succ_self us.length) _ _ hus
    rw [endBlock_nest] at hvs
    obtain ⟨u, rest, m, rfl, hmove, hrest⟩ := hvs.exists_move rfl
    refine ⟨.block (.mk ⟨t, hkind⟩ b closing), u, rest, m, ?_, hmove, hrest⟩
    simp [Statement.yield, Block.yield]
  · obtain ⟨u, vs, m, rfl, hmove, hvs⟩ := hus.exists_move rfl
    obtain ⟨hassign, rfl⟩ := move?_target_eq_some_iff.1 hmove
    obtain ⟨e, ws, rfl, hends, hws⟩ := exists_expression hvs
    obtain ⟨v, rest, m, rfl, hmove, hrest⟩ := hws.exists_move rfl
    rw [move?_operator_of_ne (hends v rfl)] at hmove
    exact ⟨.assignment ⟨t, hkind⟩ ⟨u, hassign⟩ e, v, rest, m, rfl, hmove, hrest⟩
  · exact ⟨.empty, t, us, m, rfl, hafter, hus⟩

theorem statementsSound_of {ts : List Token}
    (ih : ∀ us : List Token, us.length < ts.length → StatementsSound us) : StatementsSound ts := by
  intro blocks tree h
  obtain ⟨s, t, us, m, rfl, hafter, hus⟩ := statementSound_of ih _ _ h
  rcases afterStatement?_eq_some_iff.1 hafter with ⟨hkind, rfl⟩ | ⟨hkind, rfl⟩
  · have hlength : us.length < (s.yield ++ t :: us).length := by
      rw [List.length_append, List.length_cons]
      omega
    obtain ⟨b, closing, rest, rfl, hrest⟩ := ih us hlength _ _ hus
    refine ⟨.cons s ⟨t, hkind⟩ b, closing, rest, ?_, hrest⟩
    simp [Statements.yield]
  · exact ⟨.last s, ⟨t, hkind⟩, us, rfl, hus⟩

/-- **What is accepted in front of the statements of a block starts with them**, up to its `END`. -/
theorem exists_statements (ts : List Token) : StatementsSound ts := by
  induction hn : ts.length using Nat.strongRecOn generalizing ts with
  | ind n ih => exact statementsSound_of fun us hus => ih us.length (hn ▸ hus) us rfl

/-! ## Whole sources -/

/-- What is accepted from the start has a derivation of its tree. -/
theorem Accepts.derives {mode : Mode} {ts : List Token} {tree : Tree}
    (h : Accepts (start mode) ts tree) : ∃ d : Derivation mode, d.yield = ts ∧ d.tree = tree := by
  cases mode with
  | program =>
    obtain ⟨t, us, m, rfl, hmove, hus⟩ := Accepts.exists_move h rfl
    obtain ⟨hbegin, rfl⟩ := move?_begin_eq_some_iff.1 hmove
    obtain ⟨b, closing, vs, rfl, hvs⟩ := exists_statements _ _ _ hus
    rw [endBlock_outermost] at hvs
    obtain ⟨u, rest, m, rfl, hmove, hrest⟩ := hvs.exists_move rfl
    obtain ⟨hdot, rfl⟩ := move?_dot_eq_some_iff.1 hmove
    -- No token is allowed behind the dot.
    cases rest with
    | cons v rest =>
      obtain ⟨m, hmove, -⟩ := accepts_cons_iff.1 hrest
      cases hmove
    | nil =>
      obtain rfl := Option.some.inj (accepts_nil_iff.1 hrest)
      refine ⟨.program (.mk ⟨t, hbegin⟩ b closing) ⟨u, hdot⟩, ?_, rfl⟩
      simp [Derivation.yield, Block.yield]
  | expression =>
    obtain ⟨e, rest, rfl, hends, hrest⟩ := exists_expression h
    cases rest with
    | cons t rest =>
      obtain ⟨m, hmove, -⟩ := accepts_cons_iff.1 hrest
      rw [move?_operator_of_ne (hends t rfl)] at hmove
      cases hmove
    | nil =>
      obtain rfl := Option.some.inj (accepts_nil_iff.1 hrest)
      exact ⟨.expression e, (List.append_nil _).symm, rfl⟩

/-- **Without a limit the parser accepts exactly what the grammar derives**, and builds the tree of
the derivation. -/
theorem accepts_start_iff {mode : Mode} {ts : List Token} {tree : Tree} :
    Accepts (start mode) ts tree ↔ ∃ d : Derivation mode, d.yield = ts ∧ d.tree = tree := by
  constructor
  · exact Accepts.derives
  · rintro ⟨d, rfl, rfl⟩
    obtain ⟨c, hreads, htree⟩ := d.reads
    exact ⟨d.depths, c, hreads, htree⟩

end Config

end MiniPascal
