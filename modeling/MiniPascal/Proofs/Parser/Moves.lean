/-
# Moves of the parser

What the next token does to a configuration, as one statement for each kind of configuration.  A
move that opens a group raises the number of open groups by one, and no other move raises it.  Main
statements:

* `statement?_eq_some_iff`, `afterStatement?_eq_some_iff` : the moves inside blocks;
* `operand?_eq_some_iff`, `operator?_eq_some_iff` : the moves inside expressions;
* `counted_of_move?` : how many groups are open after a move.
-/
import MiniPascal.Parser.Config
import MiniPascal.Proofs.Grammar.Derivation

namespace MiniPascal

/-- What has been read of an expression behind an operator, in front of the next operand. -/
def Level.behind (op : Operator) (sum : Option Pending) (term : Expr) : Level :=
  if op.isMultiplicative then ⟨sum, some ⟨term, op⟩, []⟩
  else ⟨some ⟨Pending.close sum term, op⟩, none, []⟩

/-- The level with one sign more in front of the operand. -/
def Level.sign (level : Level) (sign : Sign) (place : Span) : Level :=
  ⟨level.sum, level.product, (sign, place) :: level.signs⟩

/-- A statement about some sign is one about either sign. -/
theorem Sign.exists_iff {p : Sign → Prop} : (∃ sign, p sign) ↔ p .plus ∨ p .minus := by
  constructor
  · rintro ⟨sign, h⟩
    cases sign
    · exact Or.inl h
    · exact Or.inr h
  · rintro (h | h)
    · exact ⟨_, h⟩
    · exact ⟨_, h⟩

/-- A statement about some operator is one about any of the four. -/
theorem Operator.exists_iff {p : Operator → Prop} :
    (∃ op, p op) ↔ p .add ∨ p .sub ∨ p .mul ∨ p .div := by
  constructor
  · rintro ⟨op, h⟩
    cases op <;> simp [h]
  · rintro (h | h | h | h) <;> exact ⟨_, h⟩

/-- A statement about every operator is one about each of the four. -/
theorem Operator.forall_iff {p : Operator → Prop} :
    (∀ op, p op) ↔ p .add ∧ p .sub ∧ p .mul ∧ p .div := by
  constructor
  · intro h
    exact ⟨h _, h _, h _, h _⟩
  · rintro ⟨hadd, hsub, hmul, hdiv⟩ op
    cases op
    · exact hadd
    · exact hsub
    · exact hmul
    · exact hdiv

namespace Config

/-! ## Moves inside blocks -/

/-- Behind a statement comes a semicolon or `END`. -/
theorem afterStatement?_eq_some_iff {blocks : Blocks} {t : Token} {m : Move} :
    afterStatement? blocks t = some m ↔
      (t.kind = .symbol .semicolon ∧ m = .shift (statement blocks)) ∨
        (t.kind = .keyword .blockEnd ∧ m = .shift (endBlock blocks t.span)) := by
  unfold afterStatement?
  split <;> simp_all [eq_comm]

/-- A statement starts with `BEGIN` or a name, or it is empty. -/
theorem statement?_eq_some_iff {blocks : Blocks} {t : Token} {m : Move} :
    statement? blocks t = some m ↔
      (t.kind = .keyword .blockBegin ∧ m = .enter (statement (blocks.nest t.span))) ∨
        (t.kind = .identifier ∧ m = .shift (target ⟨t.text, t.span⟩ blocks)) ∨
        afterStatement? (blocks.add (.empty (.emptyAt t.span.start))) t = some m := by
  unfold statement? afterStatement?
  cases hkind : t.kind with
  | symbol s => cases s <;> simp [eq_comm]
  | keyword k => cases k <;> simp [eq_comm]
  | _ => simp [eq_comm]

/-- A program starts with `BEGIN`. -/
theorem move?_begin_eq_some_iff {t : Token} {m : Move} :
    begin.move? t = some m ↔
      t.kind = .keyword .blockBegin ∧ m = .enter (statement ⟨⟨t.span, []⟩, []⟩) := by
  simp [move?, eq_comm]

/-- Behind the target of an assignment comes the sign of assignment. -/
theorem move?_target_eq_some_iff {v : Variable} {blocks : Blocks} {t : Token} {m : Move} :
    (target v blocks).move? t = some m ↔
      t.kind = .symbol .assign ∧ m = .shift (operand (.assignment v blocks) .start []) := by
  simp [move?, eq_comm]

/-- Behind the block of a program comes a dot. -/
theorem move?_dot_eq_some_iff {block : Stmt} {t : Token} {m : Move} :
    (dot block).move? t = some m ↔ t.kind = .symbol .dot ∧ m = .shift (finished block) := by
  simp [move?, eq_comm]

/-! ## Moves inside expressions -/

/-- An operand starts with a sign or a parenthesis, or it is a number or a name. -/
theorem operand?_eq_some_iff {goal : Goal} {level : Level} {outer : List Level} {t : Token}
    {m : Move} :
    operand? goal level outer t = some m ↔
      (∃ sign : Sign, t.kind = sign.kind ∧
          m = .enter (operand goal (level.sign sign t.span) outer)) ∨
        (t.kind = .symbol .leftParen ∧ m = .enter (operand goal .start (level :: outer))) ∨
        (∃ value, t.kind = .integer value ∧
          m = .shift (operator goal level.sum (level.term (.number value t.span)) outer)) ∨
        (t.kind = .identifier ∧
          m = .shift (operator goal level.sum (level.term (.var ⟨t.text, t.span⟩)) outer)) := by
  rw [Sign.exists_iff]
  unfold operand?
  cases hkind : t.kind with
  | symbol s => cases s <;> simp [Sign.kind, Level.sign, eq_comm]
  | _ => simp [Sign.kind, eq_comm]

/-- Behind an operand comes an operator, or what comes behind the expression. -/
theorem operator?_eq_some_iff {goal : Goal} {sum : Option Pending} {term : Expr}
    {outer : List Level} {t : Token} {m : Move} :
    operator? goal sum term outer t = some m ↔
      (∃ op : Operator, t.kind = op.kind ∧
          m = .shift (operand goal (.behind op sum term) outer)) ∨
        ((∀ op : Operator, t.kind ≠ op.kind) ∧
          afterExpression? goal (Pending.close sum term) outer t = some m) := by
  rw [Operator.exists_iff, Operator.forall_iff]
  unfold operator?
  cases hkind : t.kind with
  | symbol s =>
    cases s <;> simp [Operator.kind, Level.behind, Operator.isMultiplicative, eq_comm]
  | _ => simp [Operator.kind]

/-- Behind an expression inside parentheses comes the one that closes them. -/
theorem afterExpression?_group {goal : Goal} {e : Expr} {level : Level} {outer : List Level}
    {t : Token} {m : Move} :
    afterExpression? goal e (level :: outer) t = some m ↔
      t.kind = .symbol .rightParen ∧ m = .shift (operator goal level.sum (level.term e) outer) := by
  unfold afterExpression?
  split <;> simp_all [eq_comm]

/-! ## Open groups -/

/-- The end of a block closes one group. -/
theorem groups_endBlock (blocks : Blocks) (ending : Span) :
    (endBlock blocks ending).groups + 1 = blocks.depth := by
  obtain ⟨inner, outer⟩ := blocks
  cases outer with
  | nil => rfl
  | cons block outer => rfl

@[simp] theorem depth_add (blocks : Blocks) (s : Stmt) : (blocks.add s).depth = blocks.depth := rfl

@[simp] theorem depth_nest (blocks : Blocks) (opening : Span) :
    (blocks.nest opening).depth = blocks.depth + 1 := rfl

@[simp] theorem groups_operand (goal : Goal) (level : Level) (outer : List Level) :
    (operand goal level outer).groups =
      goalGroups goal + level.signs.length + levelGroups outer := rfl

@[simp] theorem groups_operator (goal : Goal) (sum : Option Pending) (term : Expr)
    (outer : List Level) :
    (operator goal sum term outer).groups = goalGroups goal + levelGroups outer := rfl

@[simp] theorem signs_behind (op : Operator) (sum : Option Pending) (term : Expr) :
    (Level.behind op sum term).signs = [] := by
  cases op <;> rfl

/-- A move from where `n` groups are open opens one more if it enters a group, and else none. -/
def Counted (n : Nat) : Move → Prop
  | .shift next => next.groups ≤ n
  | .enter next => next.groups = n + 1

theorem counted_of_afterStatement? {blocks : Blocks} {t : Token} {m : Move}
    (h : afterStatement? blocks t = some m) : Counted blocks.depth m := by
  rcases afterStatement?_eq_some_iff.1 h with ⟨-, rfl⟩ | ⟨-, rfl⟩
  · exact Nat.le_refl _
  · exact Nat.le_of_succ_le (Nat.le_of_eq (groups_endBlock blocks t.span))

theorem counted_of_statement? {blocks : Blocks} {t : Token} {m : Move}
    (h : statement? blocks t = some m) : Counted blocks.depth m := by
  rcases statement?_eq_some_iff.1 h with ⟨-, rfl⟩ | ⟨-, rfl⟩ | h
  · exact depth_nest blocks t.span
  · exact Nat.le_refl _
  · have hcounted := counted_of_afterStatement? h
    rwa [depth_add] at hcounted

theorem counted_of_operand? {goal : Goal} {level : Level} {outer : List Level} {t : Token}
    {m : Move} (h : operand? goal level outer t = some m) :
    Counted (operand goal level outer).groups m := by
  rcases operand?_eq_some_iff.1 h with ⟨sign, -, rfl⟩ | ⟨-, rfl⟩ | ⟨value, -, rfl⟩ | ⟨-, rfl⟩
  · simp only [Counted, groups_operand, Level.sign, List.length_cons]
    omega
  · simp only [Counted, groups_operand, Level.start, levelGroups, List.length_nil]
    omega
  · simp only [Counted, groups_operand, groups_operator]
    omega
  · simp only [Counted, groups_operand, groups_operator]
    omega

theorem counted_of_operator? {goal : Goal} {sum : Option Pending} {term : Expr}
    {outer : List Level} {t : Token} {m : Move} (h : operator? goal sum term outer t = some m) :
    Counted (operator goal sum term outer).groups m := by
  rcases operator?_eq_some_iff.1 h with ⟨op, -, rfl⟩ | ⟨-, h⟩
  · simp [Counted]
  · cases outer with
    | cons level outer =>
      obtain ⟨-, rfl⟩ := afterExpression?_group.1 h
      simp only [Counted, groups_operator, levelGroups]
      omega
    | nil =>
      cases goal with
      | whole => cases h
      | assignment v blocks =>
        rw [groups_operator]
        have hcounted := counted_of_afterStatement? h
        rwa [depth_add] at hcounted

/-- **A move opens at most one group**, and exactly one if it enters a group. -/
theorem counted_of_move? {c : Config} {t : Token} {m : Move} (h : c.move? t = some m) :
    Counted c.groups m := by
  cases c with
  | begin =>
    obtain ⟨-, rfl⟩ := move?_begin_eq_some_iff.1 h
    rfl
  | statement blocks => exact counted_of_statement? h
  | target v blocks =>
    obtain ⟨-, rfl⟩ := move?_target_eq_some_iff.1 h
    exact Nat.le_refl _
  | operand goal level outer => exact counted_of_operand? h
  | operator goal sum term outer => exact counted_of_operator? h
  | separator blocks => exact counted_of_afterStatement? h
  | dot block =>
    obtain ⟨-, rfl⟩ := move?_dot_eq_some_iff.1 h
    exact Nat.le_refl _
  | finished block => cases h

end Config

end MiniPascal
