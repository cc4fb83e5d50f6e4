/-
# Requests

A request is a command line that makes sense: at most one file, no option twice apart from the one
that asks for more detail, and only one of a file, an expression and a session.  Without any of them
it is a session.
-/
import MiniPascal.CommandLine.Argument
import MiniPascal.Parser.Basic

namespace MiniPascal

/-- What is to be run. -/
inductive Task where
  /-- The file at the path, as a program. -/
  | file (path : String)
  /-- The text, as an expression. -/
  | expression (text : String)
  /-- The lines of the standard input. -/
  | session
  deriving DecidableEq

/-- A command line that makes sense. -/
structure Request where
  /-- What is to be run. -/
  task : Task
  /-- Whether the tree is printed instead of the result. -/
  showTree : Bool
  /-- The number of groups that may be open at once. -/
  limit : Nat
  /-- How often more detail was asked for. -/
  verbosity : Nat
  deriving DecidableEq

namespace Argument

/-- The path of a file. -/
def file? : Argument → Option String
  | file path => some path
  | _ => none

/-- The text of an expression. -/
def expression? : Argument → Option String
  | expression text => some text
  | _ => none

/-- The number of a limit. -/
def limit? : Argument → Option Nat
  | limit n => some n
  | _ => none

end Argument

namespace Request

/-- The task that the files and expressions of a command line make up, and whether a session was
asked for. -/
def task? : (files expressions : List String) → (interactive : Bool) → Option Task
  | [], [], _ => some .session
  | [path], [], false => some (.file path)
  | [], [text], false => some (.expression text)
  | _, _, _ => none

/-- The request that the pieces of a command line make up. -/
def ofArguments? (pieces : List Argument) : Option Request :=
  let sessions := pieces.count (.flag .interactive)
  let trees := pieces.count (.flag .showTree)
  let limits := pieces.filterMap Argument.limit?
  if sessions ≤ 1 ∧ trees ≤ 1 ∧ limits.length ≤ 1 then
    (task? (pieces.filterMap Argument.file?) (pieces.filterMap Argument.expression?)
        (sessions = 1)).map fun task =>
      ⟨task, trees = 1, limits.head?.getD Parser.defaultLimit, pieces.count (.flag .verbose)⟩
  else none

/-- The request that the words of a command line make up. -/
def ofWords? (words : List String) : Option Request :=
  (Argument.ofWords? words).bind ofArguments?

end Request

end MiniPascal
