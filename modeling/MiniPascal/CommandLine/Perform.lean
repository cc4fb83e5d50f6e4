/-
# Performing a request

What the program does for a request, given how files are read and what is on the standard input.
-/
import MiniPascal.CommandLine.Request
import MiniPascal.Session

namespace MiniPascal

/-! ## Reading files -/

/-- Why a file cannot be read. -/
inductive FileError where
  | notFound
  | isDirectory
  | notDirectory
  /-- The bytes of the file are no text. -/
  | notText
  /-- The system has a reason of its own. -/
  | other (reason : String)
  deriving DecidableEq

/-- The error in words. -/
def FileError.message : FileError → String
  | notFound => "No such file or directory (os error 2)"
  | isDirectory => "Is a directory (os error 21)"
  | notDirectory => "Not a directory (os error 20)"
  | notText => "stream did not contain valid UTF-8"
  | other reason => reason

/-- The text that the bytes of a file are. -/
def FileError.decode (bytes : List UInt8) : Except FileError String :=
  match String.fromUTF8? ⟨bytes.toArray⟩ with
  | some text => .ok text
  | none => .error .notText

/-! ## Performances -/

namespace Request

/-- Runs a source, or prints its tree, as the request asks. -/
def performJob (request : Request) (job : Job) : Performance :=
  if request.showTree then job.showTree else job.run

/-- Runs the program in the file that has been read, or complains that it cannot be read. -/
def performFile (request : Request) (path : String) (contents : Except FileError String) :
    Performance :=
  match contents with
  | .ok source => request.performJob ⟨source, some path, .program, request.limit⟩
  | .error e => ⟨false, .complain ("Error reading file '" ++ path ++ "': " ++ e.message)⟩

/-- What the program does and shows, with all its events. -/
def perform (request : Request) (read : String → Except FileError (List UInt8))
    (input : List UInt8) : Performance :=
  match request.task with
  | .session => ⟨true, Session.output request.limit input⟩
  | .expression text =>
    let performance := request.performJob ⟨text, none, .expression, request.limit⟩
    ⟨performance.succeeded, .tell [.argumentStarts] ++ performance.output⟩
  | .file path =>
    let performance := request.performFile path ((read path).bind FileError.decode)
    ⟨performance.succeeded, .tell [.fileStarts path] ++ performance.output⟩

end Request

/-- The exit code: a session always ends well, and a run if no fault was met. -/
def Performance.exitCode (performance : Performance) : Nat := if performance.succeeded then 0 else 1

/-- The exit code for a command line that makes no sense. -/
def usageExitCode : Nat := 2

end MiniPascal
