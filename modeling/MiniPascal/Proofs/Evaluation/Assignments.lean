/-
# The assignments of a statement

What a statement does is decided by its assignments alone, in the order of the source: they are
carried out one after another, and the first one whose right-hand side has no value ends the run and
leaves the environment as it found it.  How the assignments are nested in blocks makes no
difference.  Main statements:

* `execute_eq_runAll` : a statement runs its assignments;
* `runAll_eq_ok_iff`, `runAll_eq_error_iff` : when all of them are carried out, and where the run
  ends otherwise;
* `Leads.get?_of_ne`, `Leads.get?_last` : what the names are bound to afterwards;
* `execute_left_to_right` : all of this together.
-/
import MiniPascal.Execution
import MiniPascal.Proofs.Evaluation.Recursion
import Mathlib.Control.Monad.Basic

namespace MiniPascal

/-- An assignment of a statement. -/
structure Assignment where
  /-- The variable that is bound. -/
  target : Variable
  /-- The expression on the right-hand side. -/
  value : Expr

namespace Stmt

mutual

/-- The assignments of a statement, those inside blocks included, in the order of the source. -/
def assignments : Stmt → List Assignment
  | assignment target value _ => [⟨target, value⟩]
  | compound body _ => assignmentsList body
  | empty _ => []

/-- The assignments of a list of statements. -/
def assignmentsList : List Stmt → List Assignment
  | [] => []
  | s :: rest => s.assignments ++ assignmentsList rest

end

end Stmt

/-! ## Carrying out assignments -/

/-- The assignments, carried out one after another, lead from the first environment to the last one:
each right-hand side has a value in the environment that the assignments before it have left. -/
inductive Leads : Environment → List Assignment → Environment → Prop
  | nil (env : Environment) : Leads env [] env
  | cons {env after : Environment} {a : Assignment} {v : Value} {rest : List Assignment} :
      a.value.evaluate env = .ok v → Leads (env.assign a.target.name v) rest after →
      Leads env (a :: rest) after

/-- Carries out the assignments up to the first one whose right-hand side has no value. -/
def runAll (env : Environment) : List Assignment → Environment × Option Fault
  | [] => (env, none)
  | a :: rest =>
    match a.value.evaluate env with
    | .ok v => runAll (env.assign a.target.name v) rest
    | .error fault => (env, some fault)

/-- Assignments go on behind others that have all been carried out. -/
theorem runAll_append_of_none {env mid : Environment} {as : List Assignment}
    (h : runAll env as = (mid, none)) (bs : List Assignment) :
    runAll env (as ++ bs) = runAll mid bs := by
  induction as generalizing env with
  | nil =>
    cases h
    rfl
  | cons a as ih =>
    rw [List.cons_append]
    rw [runAll] at h ⊢
    cases hvalue : a.value.evaluate env with
    | ok v =>
      rw [hvalue] at h
      exact ih h
    | error fault =>
      rw [hvalue] at h
      cases h

/-- Assignments behind one that has failed are not carried out. -/
theorem runAll_append_of_some {env mid : Environment} {as : List Assignment} {fault : Fault}
    (h : runAll env as = (mid, some fault)) (bs : List Assignment) :
    runAll env (as ++ bs) = (mid, some fault) := by
  induction as generalizing env with
  | nil => cases h
  | cons a as ih =>
    rw [List.cons_append]
    rw [runAll] at h ⊢
    cases hvalue : a.value.evaluate env with
    | ok v =>
      rw [hvalue] at h
      exact ih h
    | error fault =>
      rw [hvalue] at h
      exact h

namespace Stmt

mutual

/-- **A statement runs its assignments**, however they are nested. -/
theorem execute_eq_runAll (s : Stmt) (env : Environment) :
    s.execute env = runAll env s.assignments := by
  cases s with
  | assignment target value span =>
    rw [execute, assignments, runAll]
    cases value.evaluate env <;> rfl
  | compound body span => exact executeList_eq_runAll body env
  | empty span => rfl
termination_by structural s

/-- Statements run their assignments. -/
theorem executeList_eq_runAll (ss : List Stmt) (env : Environment) :
    executeList env ss = runAll env (assignmentsList ss) := by
  cases ss with
  | nil => rfl
  | cons s rest =>
    have hfirst := execute_eq_runAll s env
    rw [executeList, assignmentsList]
    rcases hrun : s.execute env with ⟨mid, _ | fault⟩
    · rw [runAll_append_of_none (hfirst ▸ hrun)]
      exact executeList_eq_runAll rest mid
    · rw [runAll_append_of_some (hfirst ▸ hrun)]
termination_by structural ss

end

end Stmt

/-! ## Where a run ends -/

variable {env after : Environment}

/-- **All assignments are carried out if each right-hand side has a value in its turn.** -/
theorem runAll_eq_ok_iff {as : List Assignment} :
    runAll env as = (after, none) ↔ Leads env as after := by
  induction as generalizing env with
  | nil =>
    constructor
    · intro h
      cases h
      exact .nil _
    · rintro ⟨⟩
      rfl
  | cons a as ih =>
    rw [runAll]
    constructor
    · intro h
      cases hvalue : a.value.evaluate env with
      | ok v =>
        rw [hvalue] at h
        exact .cons hvalue (ih.1 h)
      | error fault =>
        rw [hvalue] at h
        cases h
    · intro h
      cases h with
      | cons hvalue hrest =>
        rw [hvalue]
        exact ih.2 hrest

/-- **A run ends at the first right-hand side without a value**, in the environment that the
assignments in front of it have left. -/
theorem runAll_eq_error_iff {as : List Assignment} {fault : Fault} :
    runAll env as = (after, some fault) ↔
      ∃ front a back, as = front ++ a :: back ∧ Leads env front after ∧
        a.value.evaluate after = .error fault := by
  constructor
  · intro h
    induction as generalizing env with
    | nil => cases h
    | cons a as ih =>
      rw [runAll] at h
      cases hvalue : a.value.evaluate env with
      | ok v =>
        rw [hvalue] at h
        obtain ⟨front, b, back, rfl, hfront, hb⟩ := ih h
        exact ⟨a :: front, b, back, rfl, .cons hvalue hfront, hb⟩
      | error other =>
        rw [hvalue] at h
        cases h
        exact ⟨[], a, as, rfl, .nil _, hvalue⟩
  · rintro ⟨front, a, back, rfl, hfront, ha⟩
    rw [runAll_append_of_none (runAll_eq_ok_iff.2 hfront), runAll, ha]

/-! ## What the names are bound to -/

/-- Assignments that have been carried out were carried out one part after the other. -/
theorem Leads.exists_of_append {as bs : List Assignment} (h : Leads env (as ++ bs) after) :
    ∃ mid, Leads env as mid ∧ Leads mid bs after := by
  induction as generalizing env with
  | nil => exact ⟨_, .nil _, h⟩
  | cons a as ih =>
    cases h with
    | cons hvalue hrest =>
      obtain ⟨mid, has, hbs⟩ := ih hrest
      exact ⟨mid, .cons hvalue has, hbs⟩

/-- A name that is no target keeps its binding, or stays unbound. -/
theorem Leads.get?_of_ne {as : List Assignment} (h : Leads env as after) {name : String}
    (hname : ∀ a ∈ as, a.target.name ≠ name) : after.get? name = env.get? name := by
  induction h with
  | nil env => rfl
  | @cons env after a v rest _ _ ih =>
    rw [List.forall_mem_cons] at hname
    rw [ih hname.2, Environment.get?_assign_of_ne (Ne.symm hname.1)]

/-- The last assignment to a name binds it. -/
theorem Leads.get?_last {front back : List Assignment} {a : Assignment}
    (h : Leads env (front ++ a :: back) after)
    (hback : ∀ b ∈ back, b.target.name ≠ a.target.name) :
    ∃ mid v, Leads env front mid ∧ a.value.evaluate mid = .ok v ∧
      after.get? a.target.name = some v := by
  obtain ⟨mid, hfront, hrest⟩ := h.exists_of_append
  cases hrest with
  | @cons _ _ _ v _ hvalue hrest =>
    refine ⟨mid, v, hfront, hvalue, ?_⟩
    rw [hrest.get?_of_ne hback, Environment.get?_assign_self]

/-! ## Running statements -/

/-- A statement that goes through goes on with the next one of its block. -/
theorem Stmt.evaluate_compound {s : Stmt} (h : (Tree.stmt s).evaluate env = (.ok none, after))
    (next : Stmt) (span : Span) :
    (Tree.stmt (.compound [s, next] span)).evaluate env = (Tree.stmt next).evaluate after := by
  rw [Tree.evaluate] at h
  rw [Tree.evaluate, Tree.evaluate, execute, executeList]
  rcases hrun : s.execute env with ⟨mid, _ | fault⟩
  · rw [hrun] at h
    cases h
    dsimp only
    rw [executeList]
    rcases next.execute after with ⟨last, _ | fault⟩ <;> rfl
  · rw [hrun] at h
    cases h

/-- **A statement is the run of its assignments from left to right**: it goes through if each
right-hand side has a value in its turn; otherwise it ends with the fault of the first one that has
none, in the environment that the assignments in front of it have left.  Names that none of the
assignments carried out is for keep their bindings, and any other is bound by the last one for it.
So statements with the same assignments are interchangeable, and a statement that goes through may
be put into a block with the next one. -/
theorem execute_left_to_right (s : Stmt) (env : Environment) :
    (∀ after, s.execute env = (after, none) ↔ Leads env s.assignments after) ∧
    (∀ after fault, s.execute env = (after, some fault) ↔
      ∃ front a back, s.assignments = front ++ a :: back ∧ Leads env front after ∧
        a.value.evaluate after = .error fault) ∧
    (∀ executed after, Leads env executed after →
      (∀ name, (∀ a ∈ executed, a.target.name ≠ name) → after.get? name = env.get? name) ∧
      ∀ front a back, executed = front ++ a :: back →
        (∀ b ∈ back, b.target.name ≠ a.target.name) →
        ∃ mid v, Leads env front mid ∧ a.value.evaluate mid = .ok v ∧
          after.get? a.target.name = some v) ∧
    (∀ other : Stmt, other.assignments = s.assignments → other.execute env = s.execute env) ∧
    ∀ after, (Tree.stmt s).evaluate env = (.ok none, after) → ∀ next span,
      (Tree.stmt (.compound [s, next] span)).evaluate env = (Tree.stmt next).evaluate after := by
  refine ⟨?_, ?_, ?_, ?_, ?_⟩
  · intro after
    rw [Stmt.execute_eq_runAll, runAll_eq_ok_iff]
  · intro after fault
    rw [Stmt.execute_eq_runAll, runAll_eq_error_iff]
  · intro executed after h
    refine ⟨fun name hname => h.get?_of_ne hname, ?_⟩
    rintro front a back rfl hback
    exact h.get?_last hback
  · intro other h
    rw [Stmt.execute_eq_runAll, Stmt.execute_eq_runAll, h]
  · intro after h next span
    exact Stmt.evaluate_compound h next span

/-- In `BEGIN x := 1; BEGIN y := z; x := 2 END END` only the first assignment is carried out, and
`x` keeps its value. -/
theorem execute_left_to_right_unbound :
    let one : Value := ⟨1, by decide, by decide⟩
    let s : Stmt := .compound [.assignment ⟨"x", ⟨6, 7⟩⟩ (.number one ⟨11, 12⟩) ⟨6, 12⟩,
      .compound [.assignment ⟨"y", ⟨20, 21⟩⟩ (.var ⟨"z", ⟨25, 26⟩⟩) ⟨20, 26⟩,
        .assignment ⟨"x", ⟨28, 29⟩⟩ (.number ⟨2, by decide, by decide⟩ ⟨33, 34⟩) ⟨28, 34⟩]
        ⟨14, 38⟩] ⟨0, 42⟩
    s.execute .empty =
      (Environment.empty.assign "x" one, some ⟨.undefinedVariable "z", ⟨25, 26⟩⟩) ∧
    (Environment.empty.assign "x" one).get? "x" = some one := by
  intro one s
  have hfirst : Leads .empty [⟨⟨"x", ⟨6, 7⟩⟩, .number one ⟨11, 12⟩⟩]
      (Environment.empty.assign "x" one) := .cons (by decide +kernel) (.nil _)
  constructor
  · exact ((execute_left_to_right s .empty).2.1 _ _).2 ⟨_, _, _, rfl, hfirst, by decide +kernel⟩
  · obtain ⟨mid, v, -, hvalue, hx⟩ :=
      ((execute_left_to_right s .empty).2.2.1 _ _ hfirst).2 [] _ [] rfl (by simp)
    rw [Expr.evaluate_number] at hvalue
    rwa [← Except.ok.inj hvalue] at hx

end MiniPascal
