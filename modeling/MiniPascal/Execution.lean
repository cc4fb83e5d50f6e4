/-
# Running statements

A statement changes the bindings of variables.  A fault ends the run, and the assignments made
before it stay made.
-/
import MiniPascal.Evaluation

namespace MiniPascal

namespace Stmt

mutual

/-- The environment that the statement leaves behind, and the fault that ended its run, if any. -/
def execute (env : Environment) : Stmt → Environment × Option Fault
  | assignment target value _ =>
    match value.evaluate env with
    | .ok v => (env.assign target.name v, none)
    | .error fault => (env, some fault)
  | compound body _ => executeList env body
  | empty _ => (env, none)

/-- Runs statements one after another, up to the first fault. -/
def executeList (env : Environment) : List Stmt → Environment × Option Fault
  | [] => (env, none)
  | s :: rest =>
    match s.execute env with
    | (after, none) => executeList after rest
    | (after, some fault) => (after, some fault)

end

end Stmt

/-- Runs a tree: an expression gives a value and a statement a changed environment. -/
def Tree.evaluate (env : Environment) : Tree → Except Fault (Option Value) × Environment
  | expr e => ((e.evaluate env).map some, env)
  | stmt s =>
    match s.execute env with
    | (after, none) => (.ok none, after)
    | (after, some fault) => (.error fault, after)

end MiniPascal
