/-
# The spans of a tree

Every node of a parsed tree knows the stretch of the source that it was read from.  These stretches
are exact: those of names and numbers hold the name or the digits and nothing else, that of an
operation reaches from its first operand or sign to its last operand, and that of a block from its
`BEGIN` to its `END`.  They are nested as the nodes are, and the parts of a node stand one behind
another.  Parentheses around an expression lie outside its stretch.  Main statements:

* `Expr.StandsIn.combine`, `Expr.StandsIn.signed` : the stretch of an operation;
* `Grammar.Expression.standsIn`, `Grammar.Block.standsIn` : the stretches of a derivation's tree;
* `spans_exact` : the same for the tree of a source.
-/
import MiniPascal.Proofs.Lexical.Tiling

namespace MiniPascal

/-! ## Stretches of a source -/

/-- The token is an opening or a closing parenthesis. -/
def Token.IsParenthesis (t : Token) : Prop :=
  t.kind = .symbol .leftParen ∨ t.kind = .symbol .rightParen

/-- The span is a stretch of the text that begins where one of the tokens begins and ends where one
of them ends, neither of which is a parenthesis. -/
structure Span.BoundedBy (span : Span) (text : List Char) (ts : List Token) : Prop where
  /-- There is at least one character. -/
  nonempty : span.start < span.stop
  /-- The stretch is in the text. -/
  stop_le : span.stop ≤ text.length
  /-- One of the tokens begins where the stretch does. -/
  first : ∃ t ∈ ts, ¬t.IsParenthesis ∧ t.span.start = span.start
  /-- One of the tokens ends where the stretch does. -/
  last : ∃ t ∈ ts, ¬t.IsParenthesis ∧ t.span.stop = span.stop

/-- Each `BEGIN` among the tokens has an `END` behind it, and each `END` a `BEGIN` in front. -/
inductive Balanced : List Token → Prop
  | nil : Balanced []
  | other {t : Token} {rest : List Token} :
    t.kind ≠ .keyword .blockBegin → t.kind ≠ .keyword .blockEnd → Balanced rest →
    Balanced (t :: rest)
  | block {opening closing : Token} {inner rest : List Token} :
    opening.kind = .keyword .blockBegin → closing.kind = .keyword .blockEnd → Balanced inner →
    Balanced rest → Balanced (opening :: (inner ++ closing :: rest))

/-- Among the tokens, `closing` is the `END` of the block that `opening` begins. -/
structure Token.ClosedBy (ts : List Token) (opening closing : Token) : Prop where
  /-- The block begins with `BEGIN`. -/
  opening_kind : opening.kind = .keyword .blockBegin
  /-- The block ends with `END`. -/
  closing_kind : closing.kind = .keyword .blockEnd
  /-- Every block that begins between the two ends between them. -/
  inner : ∃ inner, Balanced inner ∧ opening :: (inner ++ [closing]) <:+: ts

/-! ## Where the nodes of a tree stand -/

/-- The variable stands where its name is written. -/
structure Variable.StandsIn (v : Variable) (text : List Char) (ts : List Token) : Prop where
  /-- The place of the variable is a stretch of the text. -/
  bounded : v.span.BoundedBy text ts
  /-- The text there is the name. -/
  slice : v.span.slice text = v.name.toList

/-- Every node of the expression stands where it is written: a number where its digits are, an
operation from the first of its operands, or its sign, to the last one, with something between any
two of these. -/
def Expr.StandsIn (text : List Char) (ts : List Token) : Expr → Prop
  | number value span =>
    span.BoundedBy text ts ∧ IsDigits (span.slice text) ∧
      value.toInt = Nat.ofDigitChars 10 (span.slice text) 0
  | var v => v.StandsIn text ts
  | unary _ operand span =>
    span.BoundedBy text ts ∧ span.start < operand.span.start ∧ span.stop = operand.span.stop ∧
      StandsIn text ts operand
  | binary _ left right span =>
    span.BoundedBy text ts ∧ span.start = left.span.start ∧ span.stop = right.span.stop ∧
      left.span.stop < right.span.start ∧ StandsIn text ts left ∧ StandsIn text ts right

namespace Stmt

/-- The statements stand between the two offsets, each one behind the end of the one before. -/
def Chained (start stop : Nat) : List Stmt → Prop
  | [] => start ≤ stop
  | s :: rest =>
    start ≤ s.span.start ∧ s.span.start ≤ s.span.stop ∧ Chained s.span.stop stop rest

mutual

/-- Every node of the statement stands where it is written: an assignment from its target to its
value, with something between the two, a block from its `BEGIN` to its `END`, with its statements
one behind another between these, and an empty statement between two characters. -/
def StandsIn (text : List Char) (ts : List Token) : Stmt → Prop
  | assignment target value span =>
    span.BoundedBy text ts ∧ span.start = target.span.start ∧ span.stop = value.span.stop ∧
      target.span.stop < value.span.start ∧ target.StandsIn text ts ∧ value.StandsIn text ts
  | compound body span =>
    span.BoundedBy text ts ∧
      (∃ opening closing, Token.ClosedBy ts opening closing ∧
        span = ⟨opening.span.start, closing.span.stop⟩ ∧
        Chained opening.span.stop closing.span.start body) ∧
      AllStandIn text ts body
  | empty span => span.start = span.stop ∧ span.stop ≤ text.length

/-- Every node of each of the statements stands where it is written. -/
def AllStandIn (text : List Char) (ts : List Token) : List Stmt → Prop
  | [] => True
  | s :: rest => StandsIn text ts s ∧ AllStandIn text ts rest

end

end Stmt

/-- Every node of the tree stands where it is written. -/
def Tree.StandsIn (text : List Char) (ts : List Token) : Tree → Prop
  | expr e => e.StandsIn text ts
  | stmt s => s.StandsIn text ts

/-! ## More tokens around -/

variable {text : List Char} {ts us : List Token}

theorem Span.BoundedBy.mono {span : Span} (h : span.BoundedBy text ts) (hsub : ts ⊆ us) :
    span.BoundedBy text us := by
  obtain ⟨t, ht, hfirst⟩ := h.first
  obtain ⟨u, hu, hlast⟩ := h.last
  exact ⟨h.nonempty, h.stop_le, ⟨t, hsub ht, hfirst⟩, ⟨u, hsub hu, hlast⟩⟩

theorem Token.ClosedBy.mono {opening closing : Token} (h : ClosedBy ts opening closing)
    (hin : ts <:+: us) : ClosedBy us opening closing := by
  obtain ⟨inner, hbalanced, hinner⟩ := h.inner
  exact ⟨h.opening_kind, h.closing_kind, inner, hbalanced, hinner.trans hin⟩

theorem Variable.StandsIn.mono {v : Variable} (h : v.StandsIn text ts) (hsub : ts ⊆ us) :
    v.StandsIn text us :=
  ⟨h.bounded.mono hsub, h.slice⟩

namespace Expr

variable {e left right operand : Expr}

theorem StandsIn.mono (h : e.StandsIn text ts) (hsub : ts ⊆ us) : e.StandsIn text us := by
  induction e with
  | number value span => exact ⟨h.1.mono hsub, h.2⟩
  | var v => exact Variable.StandsIn.mono h hsub
  | unary sign operand span ih =>
    obtain ⟨hspan, hstart, hstop, hoperand⟩ := h
    exact ⟨hspan.mono hsub, hstart, hstop, ih hoperand⟩
  | binary op left right span ihleft ihright =>
    obtain ⟨hspan, hstart, hstop, hbetween, hleft, hright⟩ := h
    exact ⟨hspan.mono hsub, hstart, hstop, hbetween, ihleft hleft, ihright hright⟩

/-- An expression stands in a stretch of the text. -/
theorem StandsIn.bounded (h : e.StandsIn text ts) : e.span.BoundedBy text ts := by
  cases e with
  | number value span => exact h.1
  | var v => exact Variable.StandsIn.bounded h
  | unary sign operand span => exact h.1
  | binary op left right span => exact h.1

end Expr

namespace Stmt

mutual

theorem StandsIn.mono (hin : ts <:+: us) :
    ∀ s : Stmt, s.StandsIn text ts → s.StandsIn text us
  | assignment target value span => by
    rintro ⟨hspan, hstart, hstop, hbetween, htarget, hvalue⟩
    have hsub := hin.subset
    exact ⟨hspan.mono hsub, hstart, hstop, hbetween, htarget.mono hsub, hvalue.mono hsub⟩
  | compound body span => by
    rintro ⟨hspan, ⟨opening, closing, hclosed, hends, hchained⟩, hbody⟩
    exact ⟨hspan.mono hin.subset, ⟨opening, closing, hclosed.mono hin, hends, hchained⟩,
      AllStandIn.mono hin body hbody⟩
  | empty span => id

theorem AllStandIn.mono (hin : ts <:+: us) :
    ∀ body : List Stmt, AllStandIn text ts body → AllStandIn text us body
  | [] => id
  | s :: rest => fun ⟨hs, hrest⟩ => ⟨StandsIn.mono hin s hs, AllStandIn.mono hin rest hrest⟩

end

end Stmt

/-- Behind balanced tokens there may be others. -/
theorem Balanced.append (h : Balanced ts) (hus : Balanced us) : Balanced (ts ++ us) := by
  induction h with
  | nil => exact hus
  | other hbegin hend _ ih => exact .other hbegin hend ih
  | @block opening closing inner rest hopening hclosing hinner _ _ ih =>
    rw [List.cons_append, List.append_assoc]
    exact .block hopening hclosing hinner ih

/-! ## Tokens in order -/

/-- The tokens stand in the text, one behind another. -/
structure InOrder (text : List Char) (ts : List Token) : Prop where
  /-- Each token stands in the text. -/
  stands : ∀ t ∈ ts, t.StandsIn text ∧ t.span.stop ≤ text.length
  /-- Each token ends where a later one starts, or before. -/
  ordered : ts.Pairwise fun t u => t.span.stop ≤ u.span.start

theorem Tiling.inOrder {start stop : Nat} (h : Tiling text start stop ts) : InOrder text ts :=
  ⟨fun t ht => ⟨h.tokens t ht, Nat.le_trans (h.within t ht).2 h.stop_le⟩, h.ordered⟩

theorem inOrder_append_iff :
    InOrder text (ts ++ us) ↔
      InOrder text ts ∧ InOrder text us ∧ ∀ t ∈ ts, ∀ u ∈ us, t.span.stop ≤ u.span.start := by
  constructor
  · intro h
    obtain ⟨hts, hus⟩ := List.forall_mem_append.1 h.stands
    obtain ⟨hordered, hordered', hbetween⟩ := List.pairwise_append.1 h.ordered
    exact ⟨⟨hts, hordered⟩, ⟨hus, hordered'⟩, hbetween⟩
  · rintro ⟨hts, hus, hbetween⟩
    exact ⟨List.forall_mem_append.2 ⟨hts.stands, hus.stands⟩,
      List.pairwise_append.2 ⟨hts.ordered, hus.ordered, hbetween⟩⟩

theorem inOrder_cons_iff {t : Token} :
    InOrder text (t :: ts) ↔
      (t.StandsIn text ∧ t.span.stop ≤ text.length) ∧ InOrder text ts ∧
        ∀ u ∈ ts, t.span.stop ≤ u.span.start := by
  constructor
  · intro h
    obtain ⟨ht, hts⟩ := List.forall_mem_cons.1 h.stands
    obtain ⟨hbetween, hordered⟩ := List.pairwise_cons.1 h.ordered
    exact ⟨ht, ⟨hts, hordered⟩, hbetween⟩
  · rintro ⟨ht, hts, hbetween⟩
    exact ⟨List.forall_mem_cons.2 ⟨ht, hts.stands⟩,
      List.pairwise_cons.2 ⟨hbetween, hts.ordered⟩⟩

/-- A token bounds its own stretch, unless it is a parenthesis. -/
theorem InOrder.bounded {t : Token} (h : InOrder text ts) (ht : t ∈ ts)
    (hkind : ¬t.IsParenthesis) : t.span.BoundedBy text ts := by
  obtain ⟨hstands, hstop⟩ := h.stands t ht
  exact ⟨hstands.nonempty, hstop, ⟨t, ht, hkind, rfl⟩, ⟨t, ht, hkind, rfl⟩⟩

/-! ## The stretch of an operation -/

/-- Behind the tokens of one stretch there is another one, with a token between them. -/
theorem Span.BoundedBy.stop_lt {s p : Span} {mark : Token} (hs : s.BoundedBy text ts)
    (hp : p.BoundedBy text us) (h : InOrder text (ts ++ mark :: us)) : s.stop < p.start := by
  obtain ⟨-, hmark, hbefore⟩ := inOrder_append_iff.1 h
  obtain ⟨⟨hstands, -⟩, -, hbehind⟩ := inOrder_cons_iff.1 hmark
  obtain ⟨t, ht, -, hlast⟩ := hs.last
  obtain ⟨u, hu, -, hfirst⟩ := hp.first
  have hfront : t.span.stop ≤ mark.span.start := hbefore t ht mark List.mem_cons_self
  have hback : mark.span.stop ≤ u.span.start := hbehind u hu
  have hnonempty : mark.span.start < mark.span.stop := hstands.nonempty
  omega

/-- One stretch in front of another: the least span that covers both reaches from the start of the
one to the end of the other. -/
theorem Span.BoundedBy.join {s p : Span} (hs : s.BoundedBy text ts) (hp : p.BoundedBy text ts)
    (h : s.stop ≤ p.start) :
    (s.join p).BoundedBy text ts ∧ (s.join p).start = s.start ∧ (s.join p).stop = p.stop := by
  have hsnonempty := hs.nonempty
  have hpnonempty := hp.nonempty
  have hstart : min s.start p.start = s.start := by omega
  have hstop : max s.stop p.stop = p.stop := by omega
  rw [Span.join, hstart, hstop]
  refine ⟨⟨?_, hp.stop_le, hs.first, hp.last⟩, rfl, rfl⟩
  show s.start < p.stop
  omega

namespace Expr

variable {left right operand : Expr} {mark : Token}

/-- **The stretch of an operation** reaches from its left operand to its right one. -/
theorem StandsIn.combine (hleft : left.StandsIn text ts) (hright : right.StandsIn text us)
    (h : InOrder text (ts ++ mark :: us)) (op : Operator) :
    (Expr.combine op left right).StandsIn text (ts ++ mark :: us) := by
  have hbetween : left.span.stop < right.span.start := hleft.bounded.stop_lt hright.bounded h
  have hl := hleft.mono (List.subset_append_left ts (mark :: us))
  have hr := hright.mono
    (List.Subset.trans (List.subset_cons_self mark us) (List.subset_append_right ts (mark :: us)))
  obtain ⟨hspan, hstart, hstop⟩ := hl.bounded.join hr.bounded (Nat.le_of_lt hbetween)
  exact ⟨hspan, hstart, hstop, hbetween, hl, hr⟩

/-- **The stretch of a signed operand** reaches from the sign to the operand's end. -/
theorem StandsIn.signed (hmark : ¬mark.IsParenthesis) (hoperand : operand.StandsIn text us)
    (h : InOrder text (mark :: us)) (sign : Sign) :
    (Expr.unary sign operand (mark.span.join operand.span)).StandsIn text (mark :: us) := by
  obtain ⟨⟨hstands, -⟩, -, hbehind⟩ := inOrder_cons_iff.1 h
  have ho := hoperand.mono (List.subset_cons_self mark us)
  have hm : mark.span.BoundedBy text (mark :: us) := h.bounded List.mem_cons_self hmark
  obtain ⟨u, hu, -, hfirst⟩ := hoperand.bounded.first
  have hback : mark.span.stop ≤ u.span.start := hbehind u hu
  have hnonempty : mark.span.start < mark.span.stop := hstands.nonempty
  obtain ⟨hspan, hstart, hstop⟩ := hm.join ho.bounded (by omega)
  refine ⟨hspan, ?_, hstop, ho⟩
  rw [hstart]
  omega

end Expr

namespace Grammar

/-! ## Expressions -/

theorem Leaf.not_isParenthesis {kind : Kind} (leaf : Leaf kind) (hleft : kind ≠ .symbol .leftParen)
    (hright : kind ≠ .symbol .rightParen) : ¬leaf.token.IsParenthesis := by
  rintro (h | h)
  · exact hleft (leaf.kind_eq.symm.trans h)
  · exact hright (leaf.kind_eq.symm.trans h)

theorem Leaf.variable_standsIn (word : Leaf .identifier) (h : InOrder text ts)
    (hword : word.token ∈ ts) :
    (Variable.mk word.token.text word.token.span).StandsIn text ts :=
  ⟨h.bounded hword (word.not_isParenthesis (by decide) (by decide)),
    (h.stands _ hword).1.slice⟩

mutual

/-- The tree of a factor stands where its tokens do. -/
theorem Factor.standsIn (f : Factor) (h : InOrder text f.yield) :
    f.tree.StandsIn text f.yield := by
  cases f with
  | signed sign mark operand =>
    have hoperand := Factor.standsIn operand (inOrder_cons_iff.1 h).2.1
    have hmark : ¬mark.token.IsParenthesis := by
      cases sign <;> exact mark.not_isParenthesis (by decide) (by decide)
    exact hoperand.signed hmark h sign
  | integer value literal =>
    have hmem : literal.token ∈ [literal.token] := List.mem_singleton_self _
    have hstands := (h.stands _ hmem).1
    have hwritten := hstands.written
    rw [literal.kind_eq] at hwritten
    obtain ⟨hdigits, -, -, hvalue⟩ := hwritten
    refine ⟨h.bounded hmem (literal.not_isParenthesis (by simp) (by simp)), ?_, ?_⟩
    · rwa [hstands.slice]
    · rwa [hstands.slice]
  | group opening inner closing =>
    have hinner := (inOrder_append_iff.1 (inOrder_cons_iff.1 h).2.1).1
    refine (Expression.standsIn inner hinner).mono ?_
    exact List.Subset.trans (List.subset_append_left _ _) (List.subset_cons_self _ _)
  | name word => exact word.variable_standsIn h (List.mem_singleton_self _)
termination_by structural f

theorem Factors.standsIn (fs : Factors) {front : List Token} {left : Expr}
    (hleft : left.StandsIn text front) (h : InOrder text (front ++ fs.yield)) :
    (fs.fold left).StandsIn text (front ++ fs.yield) := by
  cases fs with
  | nil => exact hleft.mono (List.subset_append_left _ _)
  | cons op multiplicative mark factor rest =>
    rw [Factors.yield, ← List.cons_append, ← List.append_assoc] at h ⊢
    have hfront := (inOrder_append_iff.1 h).1
    have hfactor := (inOrder_cons_iff.1 (inOrder_append_iff.1 hfront).2.1).2.1
    exact Factors.standsIn rest (hleft.combine (Factor.standsIn factor hfactor) hfront op) h
termination_by structural fs

theorem Term.standsIn (t : Term) (h : InOrder text t.yield) : t.tree.StandsIn text t.yield := by
  obtain ⟨first, rest⟩ := t
  exact Factors.standsIn rest (Factor.standsIn first (inOrder_append_iff.1 h).1) h
termination_by structural t

theorem Terms.standsIn (terms : Terms) {front : List Token} {left : Expr}
    (hleft : left.StandsIn text front) (h : InOrder text (front ++ terms.yield)) :
    (terms.fold left).StandsIn text (front ++ terms.yield) := by
  cases terms with
  | nil => exact hleft.mono (List.subset_append_left _ _)
  | cons op additive mark term rest =>
    rw [Terms.yield, ← List.cons_append, ← List.append_assoc] at h ⊢
    have hfront := (inOrder_append_iff.1 h).1
    have hterm := (inOrder_cons_iff.1 (inOrder_append_iff.1 hfront).2.1).2.1
    exact Terms.standsIn rest (hleft.combine (Term.standsIn term hterm) hfront op) h
termination_by structural terms

/-- **The tree of an expression stands where its tokens do.** -/
theorem Expression.standsIn (e : Expression) (h : InOrder text e.yield) :
    e.tree.StandsIn text e.yield := by
  obtain ⟨first, rest⟩ := e
  exact Terms.standsIn rest (Term.standsIn first (inOrder_append_iff.1 h).1) h
termination_by structural e

end

/-! ## Blocks that are balanced -/

theorem Leaf.balanced {kind : Kind} (leaf : Leaf kind) (hbegin : kind ≠ .keyword .blockBegin)
    (hend : kind ≠ .keyword .blockEnd) (h : Balanced ts) : Balanced (leaf.token :: ts) :=
  .other (leaf.kind_eq.symm ▸ hbegin) (leaf.kind_eq.symm ▸ hend) h

mutual

theorem Factor.balanced (f : Factor) : Balanced f.yield := by
  cases f with
  | signed sign mark operand =>
    have hoperand := Factor.balanced operand
    cases sign <;> exact mark.balanced (by decide) (by decide) hoperand
  | integer value literal => exact literal.balanced (by simp) (by simp) .nil
  | group opening inner closing =>
    have hclosing : Balanced [closing.token] := closing.balanced (by decide) (by decide) .nil
    exact opening.balanced (by decide) (by decide) ((Expression.balanced inner).append hclosing)
  | name word => exact word.balanced (by decide) (by decide) .nil
termination_by structural f

theorem Factors.balanced (fs : Factors) : Balanced fs.yield := by
  cases fs with
  | nil => exact .nil
  | cons op multiplicative mark factor rest =>
    have htail := (Factor.balanced factor).append (Factors.balanced rest)
    cases op <;> exact mark.balanced (by decide) (by decide) htail
termination_by structural fs

theorem Term.balanced (t : Term) : Balanced t.yield := by
  obtain ⟨first, rest⟩ := t
  exact (Factor.balanced first).append (Factors.balanced rest)
termination_by structural t

theorem Terms.balanced (terms : Terms) : Balanced terms.yield := by
  cases terms with
  | nil => exact .nil
  | cons op additive mark term rest =>
    have htail := (Term.balanced term).append (Terms.balanced rest)
    cases op <;> exact mark.balanced (by decide) (by decide) htail
termination_by structural terms

/-- No block begins or ends in an expression. -/
theorem Expression.balanced (e : Expression) : Balanced e.yield := by
  obtain ⟨first, rest⟩ := e
  exact (Term.balanced first).append (Terms.balanced rest)
termination_by structural e

end

mutual

theorem Block.balanced (b : Block) : Balanced b.yield := by
  obtain ⟨opening, body, closing⟩ := b
  exact .block opening.kind_eq closing.kind_eq (Statements.balanced body) .nil
termination_by structural b

/-- **The blocks among statements end where they should.** -/
theorem Statements.balanced (b : Statements) : Balanced b.yield := by
  cases b with
  | last statement => exact Statement.balanced statement
  | cons statement semicolon rest =>
    have hrest := semicolon.balanced (by decide) (by decide) (Statements.balanced rest)
    exact (Statement.balanced statement).append hrest
termination_by structural b

theorem Statement.balanced (s : Statement) : Balanced s.yield := by
  cases s with
  | block inner => exact Block.balanced inner
  | assignment target mark value =>
    exact target.balanced (by decide) (by decide)
      (mark.balanced (by decide) (by decide) value.balanced)
  | empty => exact .nil
termination_by structural s

end

/-! ## Statements -/

/-- A statement lies between what is in front of its tokens and the token behind them. -/
theorem Statement.between (s : Statement) (next : Token) (h : InOrder text (s.yield ++ [next]))
    (hs : (s.tree next.span.start).StandsIn text s.yield) {start : Nat}
    (hstart : ∀ t ∈ s.yield ++ [next], start ≤ t.span.start) :
    start ≤ (s.tree next.span.start).span.start ∧
      (s.tree next.span.start).span.start ≤ (s.tree next.span.start).span.stop ∧
      (s.tree next.span.start).span.stop ≤ next.span.start := by
  have hnext : next ∈ s.yield ++ [next] := List.mem_append_right _ (List.mem_singleton_self _)
  have hbounded : ∀ span : Span, span.BoundedBy text s.yield →
      start ≤ span.start ∧ span.start ≤ span.stop ∧ span.stop ≤ next.span.start := by
    intro span hspan
    obtain ⟨t, ht, -, hfirst⟩ := hspan.first
    obtain ⟨u, hu, -, hlast⟩ := hspan.last
    have ht' : start ≤ t.span.start := hstart t (List.mem_append_left _ ht)
    have hu' : u.span.stop ≤ next.span.start :=
      (inOrder_append_iff.1 h).2.2 u hu next (List.mem_singleton_self _)
    have hnonempty := hspan.nonempty
    omega
  cases s with
  | block inner =>
    obtain ⟨opening, body, closing⟩ := inner
    exact hbounded _ hs.1
  | assignment target mark value => exact hbounded _ hs.1
  | empty => exact ⟨hstart next hnext, Nat.le_refl _, Nat.le_refl _⟩

mutual

/-- **The tree of a block stands where its tokens do.** -/
theorem Block.standsIn (b : Block) (h : InOrder text b.yield) :
    b.tree.StandsIn text b.yield := by
  obtain ⟨opening, body, closing⟩ := b
  obtain ⟨-, hbody, hbehind⟩ := inOrder_cons_iff.1 h
  obtain ⟨hall, hchained⟩ := Statements.standsIn body closing.token hbody
  have hclosing : closing.token ∈ body.yield ++ [closing.token] :=
    List.mem_append_right _ (List.mem_singleton_self _)
  have ho : opening.token.span.BoundedBy text (Block.mk opening body closing).yield :=
    h.bounded List.mem_cons_self (opening.not_isParenthesis (by decide) (by decide))
  have hc : closing.token.span.BoundedBy text (Block.mk opening body closing).yield :=
    h.bounded (List.mem_cons_of_mem _ hclosing) (closing.not_isParenthesis (by decide) (by decide))
  obtain ⟨hspan, hstart, hstop⟩ := ho.join hc (hbehind _ hclosing)
  refine ⟨hspan, ⟨opening.token, closing.token, ?_, ?_, hchained _ hbehind⟩, ?_⟩
  · exact ⟨opening.kind_eq, closing.kind_eq, body.yield, body.balanced, List.infix_rfl⟩
  · rw [← hstart, ← hstop]
  · exact Stmt.AllStandIn.mono ⟨[opening.token], [closing.token], by simp [Block.yield]⟩ _ hall
termination_by structural b

theorem Statements.standsIn (b : Statements) (next : Token)
    (h : InOrder text (b.yield ++ [next])) :
    Stmt.AllStandIn text b.yield (b.trees next.span.start) ∧
      ∀ start, (∀ t ∈ b.yield ++ [next], start ≤ t.span.start) →
        Stmt.Chained start next.span.start (b.trees next.span.start) := by
  cases b with
  | last statement =>
    have hstands := Statement.standsIn statement next h
    refine ⟨⟨hstands, trivial⟩, fun start hstart => ?_⟩
    exact statement.between next h hstands hstart
  | cons statement semicolon rest =>
    rw [Statements.yield, List.append_assoc, List.cons_append] at h ⊢
    obtain ⟨hstatement, htail, hbefore⟩ := inOrder_append_iff.1 h
    obtain ⟨hsemicolon, hrest, hbehind⟩ := inOrder_cons_iff.1 htail
    have hfront : InOrder text (statement.yield ++ [semicolon.token]) := by
      rw [List.append_cons] at h
      exact (inOrder_append_iff.1 h).1
    have hfirst := Statement.standsIn statement semicolon.token hfront
    obtain ⟨hall, hchained⟩ := Statements.standsIn rest next hrest
    have hprefix : statement.yield <:+: statement.yield ++ semicolon.token :: rest.yield :=
      (List.prefix_append _ _).isInfix
    have hsuffix : rest.yield <:+: statement.yield ++ semicolon.token :: rest.yield :=
      ((List.suffix_cons _ _).trans (List.suffix_append _ _)).isInfix
    refine ⟨⟨Stmt.StandsIn.mono hprefix _ hfirst, Stmt.AllStandIn.mono hsuffix _ hall⟩, ?_⟩
    intro start hstart
    have hmarked : ∀ t ∈ statement.yield ++ [semicolon.token], start ≤ t.span.start := by
      intro t ht
      apply hstart t
      rw [List.append_cons]
      exact List.mem_append_left _ ht
    obtain ⟨hlower, hforward, hupper⟩ :=
      statement.between semicolon.token hfront hfirst hmarked
    refine ⟨hlower, hforward, hchained _ fun t ht => ?_⟩
    have hnonempty : semicolon.token.span.start < semicolon.token.span.stop :=
      hsemicolon.1.nonempty
    have hnext : semicolon.token.span.stop ≤ t.span.start := hbehind t ht
    omega
termination_by structural b

theorem Statement.standsIn (s : Statement) (next : Token) (h : InOrder text (s.yield ++ [next])) :
    (s.tree next.span.start).StandsIn text s.yield := by
  cases s with
  | block inner => exact Block.standsIn inner (inOrder_append_iff.1 h).1
  | assignment target mark value =>
    have hown := (inOrder_append_iff.1 h).1
    rw [Statement.yield, ← List.singleton_append] at hown ⊢
    have htail := (inOrder_append_iff.1 hown).2.1
    have hvalue := value.standsIn (inOrder_cons_iff.1 htail).2.1
    have htarget := target.variable_standsIn (inOrder_append_iff.1 hown).1
      (List.mem_singleton_self _)
    have hbetween := htarget.bounded.stop_lt hvalue.bounded hown
    have ht := htarget.mono (List.subset_append_left _ (mark.token :: value.yield))
    have hv := hvalue.mono (List.Subset.trans (List.subset_cons_self mark.token _)
      (List.subset_append_right [target.token] _))
    obtain ⟨hspan, hstart, hstop⟩ := ht.bounded.join hv.bounded (Nat.le_of_lt hbetween)
    exact ⟨hspan, hstart, hstop, hbetween, ht, hv⟩
  | empty =>
    obtain ⟨⟨hstands, hstop⟩, -⟩ := inOrder_cons_iff.1 h
    exact ⟨rfl, Nat.le_trans (Nat.le_of_lt hstands.nonempty) hstop⟩
termination_by structural s

end

/-- The tree of a whole source stands where its tokens do. -/
theorem Derivation.standsIn {mode : Mode} (d : Derivation mode) (h : InOrder text d.yield) :
    d.tree.StandsIn text d.yield := by
  cases d with
  | program block dot =>
    have hblock := block.standsIn (inOrder_append_iff.1 h).1
    exact Stmt.StandsIn.mono (List.prefix_append _ _).isInfix _ hblock
  | expression e => exact e.standsIn h

end Grammar

/-! ## Whole sources -/

variable {source : String} {mode : Mode} {limit : Nat} {tree : Tree}

/-- The tree of a derivation of a source's tokens stands in the source. -/
theorem Grammar.Derivation.standsIn_source {d : Derivation mode}
    (h : (Cursor.ofSource source).items = d.yield.map .token) :
    d.tree.StandsIn source.toList d.yield :=
  d.standsIn (tokens_eq_ok_iff_tiling.1 (tokens_eq_ok_iff.2 h)).inOrder

/-- **Every span of a parsed tree is exact**, and the spans are nested as the nodes are.  Each node
stands in the source, among its tokens, where it is written, and no stretch begins or ends with a
parenthesis. -/
theorem spans_exact (h : parse source mode limit = .ok tree) :
    ∃ ts, tokens source = .ok ts ∧ tree.StandsIn source.toList ts := by
  obtain ⟨d, hitems, -, rfl⟩ := parse_eq_ok_iff.1 h
  exact ⟨d.yield, tokens_eq_ok_iff.2 hitems, d.standsIn_source hitems⟩

/-- In `BEGIN x := -(1) END.` the negation ends with its operand, in front of the parenthesis, and
so does the assignment. -/
theorem spans_exact_negation :
    ∃ ts, tokens "BEGIN x := -(1) END." = .ok ts ∧
      Tree.StandsIn "BEGIN x := -(1) END.".toList ts
        (.stmt (.compound [.assignment ⟨"x", ⟨6, 7⟩⟩
          (.unary .minus (.number ⟨1, by decide, by decide⟩ ⟨13, 14⟩) ⟨11, 14⟩) ⟨6, 14⟩]
          ⟨0, 19⟩)) := by
  have hparse : parse "BEGIN x := -(1) END." .program 3 =
      .ok (.stmt (.compound [.assignment ⟨"x", ⟨6, 7⟩⟩
        (.unary .minus (.number ⟨1, by decide, by decide⟩ ⟨13, 14⟩) ⟨11, 14⟩) ⟨6, 14⟩]
        ⟨0, 19⟩)) := by
    decide +kernel
  exact spans_exact hparse

end MiniPascal
