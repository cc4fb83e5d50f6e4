/-
# Where a parser fails

A parser that fails does so at the end of the source, at a token that the grammar refuses, at a
token that opens a group too many, or because reading fails before it comes to any of these.  Main
statements:

* `Config.complaint_some_cases` : what is said about a token that is refused;
* `Config.opens_of_move?` : which tokens open groups;
* `refusal_of_parse` : where a parser fails, and with which fault.
-/
import MiniPascal.Proofs.Parser.ViablePrefix

namespace MiniPascal

/-! ## Complaints -/

/-- The cause is that the end of the source stands in place of what the grammar asks for. -/
def Cause.foundEnd : Cause → Bool
  | mismatch _ none | trailing _ none => true
  | _ => false

/-- At the end of the source the end is what is found. -/
theorem Config.foundEnd_complaint_none (c : Config) : (c.complaint none).foundEnd = true := by
  cases c with
  | operator goal sum term outer => cases goal <;> cases outer <;> rfl
  | _ => rfl

/-- Of a token that is refused either the kind is said, or the text of a real literal. -/
theorem Config.complaint_some_cases (t : Token) (c : Config) :
    (∃ expected, c.complaint (some t) = .mismatch expected (some t.kind)) ∨
      (∃ mode, c.complaint (some t) = .trailing mode (some t.kind)) ∨
      ∃ bits, t.kind = .real bits ∧ c.complaint (some t) = .realOperand t.text := by
  cases c with
  | operand goal level outer =>
    obtain ⟨kind, text, span⟩ := t
    cases kind with
    | real bits => exact Or.inr (Or.inr ⟨bits, rfl, rfl⟩)
    | _ => exact Or.inl ⟨.operand, rfl⟩
  | operator goal sum term outer =>
    cases outer with
    | cons level outer => exact Or.inl ⟨.rightParen, by cases goal <;> rfl⟩
    | nil =>
      cases goal with
      | whole => exact Or.inr (Or.inl ⟨.expression, rfl⟩)
      | assignment v blocks => exact Or.inl ⟨.blockEnd, rfl⟩
  | finished block => exact Or.inr (Or.inl ⟨.program, rfl⟩)
  | _ => exact Or.inl ⟨_, rfl⟩

/-! ## Tokens that open groups -/

/-- The token opens a block or a parenthesis, or it is a sign. -/
def Token.Opens (t : Token) : Prop :=
  t.kind = .keyword .blockBegin ∨ t.kind = .symbol .leftParen ∨ t.kind = .symbol .plus ∨
    t.kind = .symbol .minus

namespace Config

variable {c next : Config} {t : Token}

/-- No group is entered behind a statement. -/
theorem afterStatement?_ne_enter {blocks : Blocks} :
    afterStatement? blocks t ≠ some (.enter next) := by
  intro h
  rcases afterStatement?_eq_some_iff.1 h with ⟨-, h⟩ | ⟨-, h⟩ <;> cases h

/-- No group is entered behind an operand. -/
theorem operator?_ne_enter {goal : Goal} {sum : Option Pending} {term : Expr}
    {outer : List Level} : operator? goal sum term outer t ≠ some (.enter next) := by
  intro h
  rcases operator?_eq_some_iff.1 h with ⟨op, -, h⟩ | ⟨-, h⟩
  · cases h
  · cases outer with
    | cons level outer => cases (afterExpression?_group.1 h).2
    | nil =>
      cases goal with
      | whole => cases h
      | assignment v blocks => exact afterStatement?_ne_enter h

/-- A group is entered at a token that opens one. -/
theorem opens_of_enter (h : c.move? t = some (.enter next)) : t.Opens := by
  cases c with
  | begin => exact Or.inl (move?_begin_eq_some_iff.1 h).1
  | statement blocks =>
    rcases statement?_eq_some_iff.1 h with ⟨hkind, -⟩ | ⟨-, h⟩ | h
    · exact Or.inl hkind
    · cases h
    · exact absurd h afterStatement?_ne_enter
  | target v blocks => cases (move?_target_eq_some_iff.1 h).2
  | operand goal level outer =>
    rcases operand?_eq_some_iff.1 h with ⟨sign, hkind, -⟩ | ⟨hkind, -⟩ | ⟨value, -, h⟩ | ⟨-, h⟩
    · cases sign with
      | plus => exact Or.inr (Or.inr (Or.inl hkind))
      | minus => exact Or.inr (Or.inr (Or.inr hkind))
    · exact Or.inr (Or.inl hkind)
    · cases h
    · cases h
  | operator goal sum term outer => exact absurd h operator?_ne_enter
  | separator blocks => exact absurd h afterStatement?_ne_enter
  | dot block => cases (move?_dot_eq_some_iff.1 h).2
  | finished block => cases h

/-- **A token behind which more groups are open opens one.** -/
theorem opens_of_move? {m : Move} (h : c.move? t = some m) (hm : c.groups < m.next.groups) :
    t.Opens := by
  have hcounted := counted_of_move? h
  cases m with
  | enter next => exact opens_of_enter h
  | shift next =>
    have hnext : next.groups ≤ c.groups := hcounted
    exact absurd hm (Nat.not_lt.2 hnext)

end Config

/-! ## Whole sources -/

/-- Where the parser fails on the source, and with which fault. -/
inductive Refusal (source : String) (limit : Nat) : Fault → Prop
  /-- The source must not end where it does. -/
  | atEnd (c : Config) : Refusal source limit ⟨c.complaint none, .single source.length⟩
  /-- The token must not stand where it does. -/
  | refused (c : Config) {t : Token} :
    .token t ∈ (Cursor.ofSource source).items →
    Refusal source limit ⟨c.complaint (some t), t.span⟩
  /-- The token opens a group too many. -/
  | tooDeep {t : Token} :
    .token t ∈ (Cursor.ofSource source).items → t.Opens →
    Refusal source limit ⟨.nestingTooDeep limit, t.span⟩
  /-- Reading fails. -/
  | lexical {fault : Fault} : tokens source = .error fault → Refusal source limit fault

variable {source : String} {mode : Mode} {limit : Nat} {fault : Fault}

/-- **Where a parser fails, and with which fault.** -/
theorem refusal_of_parse (h : parse source mode limit = .error fault) :
    Refusal source limit fault := by
  rcases Ahead.items_cases (Cursor.ofSource source).items with ⟨a, ha⟩ | ⟨other, rest, hitems⟩
  · rw [parse_of_items ha.symm] at h
    obtain ⟨ts, ds, c, b, -, -, hc, hb, hhalts⟩ := Parse.exists_halts_first ha.symm mode limit
    generalize Parse.ofAhead (.first source limit) [] (Config.start mode) a = outcome at h hhalts
    cases hhalts with
    | atEnd =>
      rw [Parse.atEnd] at h
      split at h
      · cases h
      · obtain rfl := Except.error.inj h
        exact .atEnd c
    | @refused t rest hmove =>
      obtain rfl := Except.error.inj h
      refine .refused c ?_
      rw [hb]
      exact List.mem_append_right _ List.mem_cons_self
    | @fault t m other rest hmove =>
      obtain rfl := Except.error.inj h
      refine .lexical (tokens_eq_error_iff.2 ⟨ts ++ [t], rest, ?_⟩)
      rw [hb, List.map_append, List.append_assoc]
      rfl
    | @tooDeep t m b hmove hdeep =>
      obtain rfl := Except.error.inj h
      rw [Bounds.room_first] at hdeep
      refine .tooDeep ?_ (Config.opens_of_move? hmove (Nat.lt_of_le_of_lt hc hdeep))
      rw [hb]
      exact List.mem_append_right _ List.mem_cons_self
  · rw [parse_of_fault hitems] at h
    obtain rfl := Except.error.inj h
    exact .lexical (tokens_eq_error_iff.2 ⟨[], rest, hitems⟩)

end MiniPascal
