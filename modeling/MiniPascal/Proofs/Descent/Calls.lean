/-
# Calls between routines

A routine is made of single steps and of calls of other routines, or of itself.  With the calls left
open it can be run with other routines in their place.  Run with one of them left without an outcome
in a state, it has no outcome itself if it comes to that call; this tells what a routine calls, and
it tells all of it, as what a routine comes to depends on nothing else.  Main statements:

* `routine_eq_body` : the routines, with calls of each other;
* `body_local` : what a routine comes to depends on what it enters only.
-/
import MiniPascal.Proofs.Descent.Agreement

namespace MiniPascal

namespace Descent

/-! ## Rules and their routines -/

/-- The rules whose routines call each other.  Loops are rules of their own: `terms`, `factors` and
`statements` are entered once for each iteration. -/
inductive Rule where
  | expression
  | terms
  | term
  | factors
  | factor
  | signed
  | group
  | assignment
  | block
  | statements
  | statement
  deriving DecidableEq

namespace Rule

/-- What the routine for the rule is given. -/
abbrev Given : Rule → Type
  | terms | factors => Expr
  | signed => Sign
  | statements => List Stmt
  | expression | term | factor | group | assignment | block | statement => Unit

/-- What the routine for the rule comes to. -/
abbrev Result : Rule → Type
  | expression | terms | term | factors | factor | signed | group => Expr
  | assignment | block | statement => Stmt
  | statements => List Stmt

end Rule

/-- A routine for each rule. -/
abbrev Routines : Type := (rule : Rule) → rule.Given → Routine rule.Result

namespace Setting

/-- The routines. -/
def routine (setting : Setting) : Routines
  | .expression, _ => setting.expression
  | .terms, left => setting.terms left
  | .term, _ => setting.term
  | .factors, left => setting.factors left
  | .factor, _ => setting.factor
  | .signed, sign => setting.signed sign
  | .group, _ => setting.group
  | .assignment, _ => setting.assignment
  | .block, _ => setting.block
  | .statements, done => setting.statements done
  | .statement, _ => setting.statement

/-- What the routines do if their calls of each other go to the routines in `call`. -/
def body (setting : Setting) (call : Routines) : Routines
  | .expression, _ => do
    let first ← call .term ()
    call .terms first
  | .terms, left => do
    let found ← inView
    match additive? found with
    | some op =>
      let _ ← advance
      let right ← call .term ()
      call .terms (.combine op left right)
    | none => return left
  | .term, _ => do
    let first ← call .factor ()
    call .factors first
  | .factors, left => do
    let found ← inView
    match multiplicative? found with
    | some op =>
      let _ ← advance
      let right ← call .factor ()
      call .factors (.combine op left right)
    | none => return left
  | .factor, _ => do
    let found ← inView
    match found.map Token.kind with
    | some (.symbol .plus) => call .signed .plus
    | some (.symbol .minus) => call .signed .minus
    | some (.integer value) =>
      let literal ← advance
      return .number value literal.span
    | some (.symbol .leftParen) => call .group ()
    | some .identifier =>
      let v ← name
      return .var v
    | _ => fail setting.stop operandCause
  | .signed, sign => do
    let mark ← advance
    enter setting.limit mark.span
    let operand ← call .factor ()
    leave
    return .unary sign operand (mark.span.join operand.span)
  | .group, _ => do
    let opening ← advance
    enter setting.limit opening.span
    let inner ← call .expression ()
    let _ ← consume setting.stop (.symbol .rightParen) .rightParen
    leave
    return inner
  | .assignment, _ => do
    let target ← name
    let _ ← consume setting.stop (.symbol .assign) .assign
    let value ← call .expression ()
    return .assignment target value (target.span.join value.span)
  | .block, _ => do
    let opening ← consume setting.stop (.keyword .blockBegin) .programBegin
    enter setting.limit opening.span
    let first ← call .statement ()
    let body ← call .statements [first]
    let closing ← consume setting.stop (.keyword .blockEnd) .blockEnd
    leave
    return .compound body (opening.span.join closing.span)
  | .statements, done => do
    let found ← inView
    if found.map Token.kind = some (.symbol .semicolon) then
      let _ ← advance
      let next ← call .statement ()
      call .statements (next :: done)
    else return done.reverse
  | .statement, _ => do
    let found ← inView
    match found.map Token.kind with
    | some (.keyword .blockBegin) => call .block ()
    | some .identifier => call .assignment ()
    | _ => nothing setting.stop

/-- The routines call each other. -/
theorem routine_eq_body (setting : Setting) (rule : Rule) (given : rule.Given) :
    setting.routine rule given = setting.body setting.routine rule given := by
  cases rule with
  | expression => rw [routine, expression, body]; rfl
  | terms => rw [routine, terms, body]; rfl
  | term => rw [routine, term, body]; rfl
  | factors => rw [routine, factors, body]; rfl
  | factor => rw [routine, factor, body]; rfl
  | signed => rw [routine, signed, body]; rfl
  | group => rw [routine, group, body]; rfl
  | assignment => rfl
  | block => rw [routine, block, body]; rfl
  | statements => rw [routine, statements, body]; rfl
  | statement => rw [routine, statement, body]; rfl

end Setting

/-! ## Entries -/

/-- A routine that is entered in a state. -/
structure Entry where
  /-- The rule. -/
  rule : Rule
  /-- What the routine is given. -/
  given : rule.Given
  /-- The state. -/
  state : State

namespace Setting

variable {setting : Setting} {y : Entry}

open Classical in
/-- The routines, of which one has no outcome if it is entered as `y` is. -/
noncomputable def without (setting : Setting) (y : Entry) : Routines := fun rule given s =>
  if (⟨rule, given, s⟩ : Entry) = y then none else setting.routine rule given s

theorem without_self (setting : Setting) (y : Entry) :
    setting.without y y.rule y.given y.state = none := if_pos rfl

theorem without_of_ne {z : Entry} (h : z ≠ y) :
    setting.without y z.rule z.given z.state = setting.routine z.rule z.given z.state := if_neg h

/-- The routine of `x` calls the one of `y`: without an outcome of the latter it would have none
itself. -/
def Enters (setting : Setting) (x y : Entry) : Prop :=
  setting.body (setting.without y) x.rule x.given x.state = none

end Setting

/-! ## What a routine depends on -/

variable {α β : Type} {setting : Setting} {s : State}

/-- What a routine with open calls comes to in the state depends on what it calls only: on the
routines without which it would have no outcome, in the states in which it calls them. -/
def Local (setting : Setting) (r : Routines → Routine α) (s : State) : Prop :=
  ∀ call : Routines,
    (∀ y : Entry, r (setting.without y) s = none →
      call y.rule y.given y.state = setting.routine y.rule y.given y.state) →
    r call s = r setting.routine s

namespace Local

variable {r : Routines → Routine α} {f : α → Routines → Routine β}

/-- A routine that calls nothing. -/
theorem const (r : Routine α) : Local setting (fun _ => r) s := fun _ _ => rfl

/-- A single call. -/
theorem call (rule : Rule) (given : rule.Given) : Local setting (fun call => call rule given) s :=
  fun _ h => h ⟨rule, given, s⟩ (setting.without_self ⟨rule, given, s⟩)

/-- Without another routine, a routine has no outcome or comes to the same one. -/
theorem without_cases (h : Local setting r s) (y : Entry) :
    r (setting.without y) s = none ∨ r (setting.without y) s = r setting.routine s := by
  by_cases hnone : r (setting.without y) s = none
  · exact Or.inl hnone
  · refine Or.inr (h _ fun z hz => ?_)
    have hne : z ≠ y := by
      rintro rfl
      exact hnone hz
    exact Setting.without_of_ne hne

/-- A routine behind another one. -/
theorem bind (h : Local setting r s) (hf : ∀ a after, Local setting (f a) after) :
    Local setting (fun call => r call >>= fun a => f a call) s := by
  intro call hcall
  -- Without an outcome of one of the two, there is none of both.
  have hfirst : ∀ y, r (setting.without y) s = none →
      (r (setting.without y) >>= fun a => f a (setting.without y)) s = none := by
    intro y hy
    rw [bind_apply, hy]
  have hsecond : ∀ y a after, r setting.routine s = some (.ok a, after) →
      f a (setting.without y) after = none →
      (r (setting.without y) >>= fun a => f a (setting.without y)) s = none := by
    intro y a after houtcome hy
    rcases h.without_cases y with hnone | hsame
    · exact hfirst y hnone
    · rw [bind_apply, hsame, houtcome]
      exact hy
  have hr : r call s = r setting.routine s := h call fun y hy => hcall y (hfirst y hy)
  show (r call >>= fun a => f a call) s = (r setting.routine >>= fun a => f a setting.routine) s
  rw [bind_apply, bind_apply, hr]
  rcases houtcome : r setting.routine s with _ | ⟨stop | a, after⟩
  · rfl
  · rfl
  · exact hf a after call fun y hy => hcall y (hsecond y a after houtcome hy)

/-- Looking at what is in view calls nothing. -/
theorem inView {f : Option Token → Routines → Routine α}
    (h : Local setting (f s.ahead.current?) s) :
    Local setting (fun call => Descent.inView >>= fun found => f found call) s := h

end Local

/-- **What a routine comes to depends on what it calls only.** -/
theorem body_local (setting : Setting) (rule : Rule) (given : rule.Given) (s : State) :
    Local setting (fun call => setting.body call rule given) s := by
  cases rule with
  | expression => exact .bind (.call .term ()) fun first _ => .call .terms first
  | terms =>
    refine Local.inView ?_
    rcases additive? s.ahead.current? with _ | op
    · exact .const _
    · exact .bind (.const _) fun _ _ => .bind (.call .term ()) fun _ _ => .call .terms _
  | term => exact .bind (.call .factor ()) fun first _ => .call .factors first
  | factors =>
    refine Local.inView ?_
    rcases multiplicative? s.ahead.current? with _ | op
    · exact .const _
    · exact .bind (.const _) fun _ _ => .bind (.call .factor ()) fun _ _ => .call .factors _
  | factor =>
    refine Local.inView ?_
    rcases s.ahead.current?.map Token.kind with _ | kind
    · exact .const _
    · cases kind with
      | symbol symbol => cases symbol <;> first | exact .call _ _ | exact .const _
      | _ => exact .const _
  | signed =>
    exact .bind (.const _) fun _ _ => .bind (.const _) fun _ _ =>
      .bind (.call .factor ()) fun _ _ => .const _
  | group =>
    exact .bind (.const _) fun _ _ => .bind (.const _) fun _ _ =>
      .bind (.call .expression ()) fun _ _ => .const _
  | assignment =>
    exact .bind (.const _) fun _ _ => .bind (.const _) fun _ _ =>
      .bind (.call .expression ()) fun _ _ => .const _
  | block =>
    exact .bind (.const _) fun _ _ => .bind (.const _) fun _ _ =>
      .bind (.call .statement ()) fun first _ => .bind (.call .statements [first]) fun _ _ =>
        .const _
  | statements =>
    refine Local.inView ?_
    by_cases hkind : s.ahead.current?.map Token.kind = some (.symbol .semicolon)
    · simp only [if_pos hkind]
      exact .bind (.const _) fun _ _ => .bind (.call .statement ()) fun _ _ => .call .statements _
    · simp only [if_neg hkind]
      exact .const _
  | statement =>
    refine Local.inView ?_
    rcases s.ahead.current?.map Token.kind with _ | kind
    · exact .const _
    · cases kind with
      | keyword keyword => cases keyword <;> first | exact .call _ _ | exact .const _
      | identifier => exact .call .assignment ()
      | _ => exact .const _

/-- A routine does the same with other routines that do the same where it enters them. -/
theorem Setting.body_eq_of_enters (x : Entry) (call : Routines)
    (h : ∀ y, setting.Enters x y →
      call y.rule y.given y.state = setting.routine y.rule y.given y.state) :
    setting.body call x.rule x.given x.state = setting.routine x.rule x.given x.state := by
  rw [routine_eq_body]
  exact body_local setting x.rule x.given x.state call h

end Descent

end MiniPascal
