/-
# The command line program

Reads the command line, the file it names and the standard input, and writes what the request brings
about.  A session reads its lines one by one and answers each before it reads the next.
-/
import MiniPascal.CommandLine.Perform

namespace MiniPascal

namespace Main

/-! ## Input -/

/-- The bytes of the next line of the standard input, with its line feed; none at the end. -/
partial def readLine (input : IO.FS.Stream) (line : List UInt8) : IO (List UInt8) := do
  let bytes ← input.read 1
  match bytes.toList with
  | [] => return line.reverse
  | byte :: _ =>
    if byte = 10 then return (byte :: line).reverse else readLine input (byte :: line)

/-- The bytes of the file, or why it cannot be read. -/
def readFile (path : String) : IO (Except FileError (List UInt8)) := do
  try
    let bytes ← IO.FS.readBinFile path
    return .ok bytes.toList
  catch
    | .noFileOrDirectory .. => return .error .notFound
    | .inappropriateType _ code _ =>
      return .error (if code = 21 ∨ code = -21 then .isDirectory else .notDirectory)
    | e => return .error (.other e.toString)

/-! ## Output -/

/-- The lines in which a report is shown. -/
def reportLines (r : Report) : List String :=
  ["Error: " ++ r.headline] ++ (r.location?.map ("  --> " ++ ·)).toList
    ++ (r.note?.map ("  " ++ ·)).toList

/-- Writes an output: the log, what is printed, and then the reports and complaints. -/
def write (verbosity : Nat) (output : Output) : IO Unit := do
  let errors ← IO.getStderr
  let out ← IO.getStdout
  for event in Event.heard verbosity output.events do
    errors.putStrLn (event.detail.title ++ " " ++ event.text)
  out.putStr output.printed
  out.flush
  for r in output.reports do
    for line in reportLines r do errors.putStrLn line
  for line in output.complaints do errors.putStrLn line

/-! ## The program -/

/-- Prompts for lines and answers them, up to the end of the session. -/
partial def converse (limit verbosity : Nat) : IO Unit := do
  write verbosity (.print Session.prompt)
  let line ← readLine (← IO.getStdin) []
  if line.isEmpty then write verbosity (.print "\n")
  else
    let (output, goesOn) := Session.respond limit (.ofBytes line)
    write verbosity output
    if goesOn then converse limit verbosity

/-- Does what the request asks for and gives the exit code. -/
def serve (request : Request) : IO Nat := do
  match request.task with
  | .session =>
    write request.verbosity (.print Session.banner)
    converse request.limit request.verbosity
    return 0
  | .expression _ =>
    let performance := request.perform (fun _ => .error .notFound) []
    write request.verbosity performance.output
    return performance.exitCode
  | .file path =>
    let contents ← readFile path
    let performance := request.perform (fun _ => contents) []
    write request.verbosity performance.output
    return performance.exitCode

end Main

end MiniPascal

/-- The entry of the program. -/
def main (args : List String) : IO UInt32 := do
  match MiniPascal.Request.ofWords? args with
  | some request => return (← MiniPascal.Main.serve request).toUInt32
  | none =>
    (← IO.getStderr).putStrLn
      "Usage: tinypas [-v]... [--ast] [--max-depth N] [FILE | -e EXPR | -i]"
    return MiniPascal.usageExitCode.toUInt32
