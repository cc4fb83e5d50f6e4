/-
# Events

What happens during a run, told to those who ask for it.  Each event has a degree of detail, and a
listener hears the events up to the detail of its choice.
-/
import MiniPascal.Fault
import MiniPascal.Tree.Text

namespace MiniPascal

/-! ## Detail -/

/-- How fine an event is, from the outlines to the single token. -/
inductive Detail where
  | info
  | debug
  | trace
  deriving DecidableEq

namespace Detail

/-- The detail as the log calls it. -/
def title : Detail → String
  | info => "INFO"
  | debug => "DEBUG"
  | trace => "TRACE"

/-- How often a listener must have asked for more to hear of it. -/
def rank : Detail → Nat
  | info => 1
  | debug => 2
  | trace => 3

end Detail

/-! ## Events -/

/-- Something that happens during a run. -/
inductive Event where
  /-- The source is an argument of the command line. -/
  | argumentStarts
  /-- The source is about to be read from the file. -/
  | fileStarts (path : String)
  /-- The parser has taken the token. -/
  | tokenTaken (token : Token)
  /-- A source has been turned into a tree. -/
  | parsed (mode : Mode) (tokens statements : Nat)
  /-- The tree of a source is known. -/
  | treeKnown (tree : Tree)
  /-- A program has run to its end. -/
  | programFinished (bindings : Nat)
  /-- An expression has been evaluated. -/
  | expressionEvaluated (value : Value)
  /-- A run has ended with a fault. -/
  | runFailed (faultClass : FaultClass)
  /-- A line of a session is about to be run. -/
  | lineStarts (mode : Mode)
  deriving DecidableEq

namespace Event

/-- How fine the event is. -/
def detail : Event → Detail
  | argumentStarts | fileStarts _ => .info
  | tokenTaken _ | treeKnown _ => .trace
  | parsed .. | programFinished _ | expressionEvaluated _ | runFailed _ | lineStarts _ => .debug

/-- The event as the log tells it. -/
def text : Event → String
  | argumentStarts => "evaluating expression from command line"
  | fileStarts path => "running file path=" ++ path
  | tokenTaken t =>
    "token kind=" ++ t.kind.description ++ " lexeme=" ++ t.text ++ " start=" ++ t.span.start.repr
  | parsed mode tokens statements =>
    "parsed source mode=" ++ mode.title ++ " tokens=" ++ tokens.repr ++
      " statements=" ++ statements.repr
  | treeKnown tree => "syntax tree tree=" ++ tree.text
  | programFinished bindings => "program finished bindings=" ++ bindings.repr
  | expressionEvaluated value => "expression evaluated value=" ++ value.text
  | runFailed faultClass => "run failed kind=" ++ faultClass.tag
  | lineStarts mode => "repl line mode=" ++ mode.title

/-- The events that a listener hears who has asked for more `verbosity` times. -/
def heard (verbosity : Nat) (events : List Event) : List Event :=
  events.filter fun event => event.detail.rank ≤ verbosity

end Event

end MiniPascal
