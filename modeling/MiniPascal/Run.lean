/-
# Running a source

A source is parsed and then run: a program in an environment without bindings, an expression for its
value.  The result is printed only if the run comes to its end; a fault is reported and nothing is
printed.
-/
import MiniPascal.Execution
import MiniPascal.Output
import MiniPascal.Parser.Basic

namespace MiniPascal

/-! ## Results -/

/-- What a run gives. -/
inductive Outcome where
  /-- The bindings that a program leaves behind. -/
  | environment (env : Environment)
  /-- The value of an expression. -/
  | value (v : Value)
  deriving DecidableEq

namespace Outcome

/-- The result as it is printed: a line for each binding, in order, or one line for a value. -/
def text : Outcome → String
  | environment env =>
    String.join (env.bindings.map fun (name, v) => name ++ " = " ++ v.text ++ "\n")
  | value v => v.text ++ "\n"

/-- The event of the end of the run. -/
def event : Outcome → Event
  | environment env => .programFinished env.size
  | value v => .expressionEvaluated v

end Outcome

/-- The result of running a tree in an environment without bindings: its value, if it has one, and
otherwise the environment that it leaves behind. -/
def Tree.run (tree : Tree) : Except Fault Outcome :=
  match tree.evaluate .empty with
  | (.ok (some v), _) => .ok (.value v)
  | (.ok none, env) => .ok (.environment env)
  | (.error fault, _) => .error fault

/-- The result of running a source. -/
def run (source : String) (mode : Mode) (limit : Nat) : Except Fault Outcome := do
  (← parse source mode limit).run

/-! ## What a run shows -/

/-- The tree of a source together with the events on the way. -/
def parseTelling (source : String) (mode : Mode) (limit : Nat) : Except Fault Tree × List Event :=
  match Parser.ofSource source limit with
  | .error fault => (.error fault, [])
  | .ok parser =>
    let ((result, after), told) := parser.parseTelling mode
    match result with
    | .error fault => (.error fault, told)
    | .ok tree =>
      (.ok tree, told ++ [.parsed mode after.consumed tree.statementCount, .treeKnown tree])

/-- What a run shows, and whether it came to its end. -/
structure Performance where
  /-- Whether no fault was met. -/
  succeeded : Bool
  /-- What is shown. -/
  output : Output
  deriving DecidableEq

/-- A source with what is asked of it. -/
structure Job where
  /-- The text of the source. -/
  source : String
  /-- The file it was read from, if any. -/
  file? : Option String
  /-- The form in which it is read. -/
  mode : Mode
  /-- The number of groups that may be open at once. -/
  limit : Nat
  deriving DecidableEq

namespace Job

/-- The report of a fault of the source. -/
def report (job : Job) (fault : Fault) : Output :=
  .report (fault.diagnostic.report job.source job.file?)

/-- Runs the source and prints its result. -/
def run (job : Job) : Performance :=
  let (parsed, events) := parseTelling job.source job.mode job.limit
  match parsed.bind Tree.run with
  | .ok outcome => ⟨true, .tell events ++ .tell [outcome.event] ++ .print outcome.text⟩
  | .error fault =>
    ⟨false, .tell events ++ .tell [.runFailed fault.cause.faultClass] ++ job.report fault⟩

/-- Prints the tree of the source and does not run it. -/
def showTree (job : Job) : Performance :=
  let (parsed, events) := parseTelling job.source job.mode job.limit
  match parsed with
  | .ok tree => ⟨true, .tell events ++ .print (tree.text ++ "\n")⟩
  | .error fault => ⟨false, .tell events ++ job.report fault⟩

end Job

end MiniPascal
