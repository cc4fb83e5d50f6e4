/-
# Interactive sessions

A session reads lines and runs each as a source of its own, in a fresh environment: a line that
starts with `BEGIN` as a program and any other as an expression.  It ends with the input, at a line
that asks for it, or at a line that is no text.  A fault in a line does not end the session.
-/
import MiniPascal.Reader
import MiniPascal.Run

namespace MiniPascal

/-! ## Lines -/

/-- The lines of the input, each with its line feed, behind the bytes of an unfinished line, the
latest first.  The last line may lack a line feed. -/
def splitLines (unfinished : List UInt8) : List UInt8 → List (List UInt8)
  | [] => if unfinished.isEmpty then [] else [unfinished.reverse]
  | byte :: rest =>
    if byte = 10 then (byte :: unfinished).reverse :: splitLines [] rest
    else splitLines (byte :: unfinished) rest

/-- The text without the blanks at both ends. -/
def trim (text : List Char) : List Char :=
  ((text.dropWhile isBlank).reverse.dropWhile isBlank).reverse

/-- What a line is to a session. -/
inductive Line where
  /-- The bytes are no text. -/
  | unreadable
  /-- There is nothing but blanks. -/
  | blank
  /-- The line asks to end the session. -/
  | farewell
  /-- A source, without the blanks around it. -/
  | source (text : String)
  deriving DecidableEq

namespace Line

/-- The line that a text is. -/
def ofText (text : String) : Line :=
  let trimmed := String.ofList (trim text.toList)
  if trimmed.isEmpty then blank
  else if trimmed = "exit" ∨ trimmed = "quit" then farewell
  else source trimmed

/-- The line that the bytes are. -/
def ofBytes (bytes : List UInt8) : Line :=
  match String.fromUTF8? ⟨bytes.toArray⟩ with
  | some text => ofText text
  | none => unreadable

end Line

/-! ## Sessions -/

namespace Session

/-- What is printed at the start. -/
def banner : String := "tinypas v0.1.0\nType 'exit' or press Ctrl+D to quit\n\n"

/-- What is printed before each line is read. -/
def prompt : String := "> "

/-- The output of running one source. -/
def answer (limit : Nat) (text : String) : Output :=
  let mode := Mode.detect text
  .tell [.lineStarts mode] ++ (Job.run ⟨text, none, mode, limit⟩).output

/-- The output that a line brings about, and whether the session goes on behind it. -/
def respond (limit : Nat) : Line → Output × Bool
  | .unreadable => (.complain "Error reading input: stream did not contain valid UTF-8", false)
  | .blank => (.empty, true)
  | .farewell => (.print "Goodbye!\n", false)
  | .source text => (answer limit text, true)

/-- The output of the session from a prompt on, with the lines that are still to be read. -/
def outputFrom (limit : Nat) : List (List UInt8) → Output
  | [] => .print (prompt ++ "\n")
  | line :: rest =>
    match respond limit (.ofBytes line) with
    | (output, true) => .print prompt ++ output ++ outputFrom limit rest
    | (output, false) => .print prompt ++ output

/-- The output of a session on the input. -/
def output (limit : Nat) (input : List UInt8) : Output :=
  .print banner ++ outputFrom limit (splitLines [] input)

end Session

end MiniPascal
