/-
# Diagnostics

A diagnostic is a fault in the words in which it is told.  Its report adds where in the source, by
line and column, the culprit is to be found.  A fault at the end of the source, or one beyond it, is
located at the end.  From there on the stretch of the source is marked that the culprit takes up.
-/
import MiniPascal.Fault
import MiniPascal.Text.Place

namespace MiniPascal

/-- A fault in words. -/
structure Diagnostic where
  /-- The step that found the fault. -/
  faultClass : FaultClass
  /-- Where the culprit stands. -/
  span : Span
  /-- What is wrong. -/
  message : String
  /-- How to avoid it. -/
  help? : Option String
  deriving DecidableEq

/-- The fault in words. -/
def Fault.diagnostic (fault : Fault) : Diagnostic :=
  ⟨fault.cause.faultClass, fault.span, fault.cause.message, fault.cause.help?⟩

/-- What is shown of a diagnostic. -/
structure Report where
  /-- The class of the fault and what is wrong. -/
  headline : String
  /-- The file, line and column of the culprit; an empty source has no line to show. -/
  location? : Option String
  /-- How to avoid the fault. -/
  note? : Option String
  deriving DecidableEq

/-- The number, moved between the bounds; there is none if the bounds are the wrong way round. -/
def clamp? (low high n : Nat) : Option Nat :=
  if high < low then none else some (max low (min n high))

namespace Diagnostic

/-- The class of the fault and what is wrong. -/
def headline (d : Diagnostic) : String := d.faultClass.title ++ ": " ++ d.message

/-- Where the culprit starts in the source, which is at the end at the latest. -/
def offset (d : Diagnostic) (source : List Char) : Nat := min d.span.start source.length

/-- The place of the culprit in the source. -/
def place (d : Diagnostic) (source : List Char) : Place := .ofPosition source (d.offset source)

/-- The stretch of the source that is marked: from where the culprit starts up to where it ends, as
far as that is not in front of its start or beyond the source. -/
def marked? (d : Diagnostic) (source : List Char) : Option Span :=
  let start := d.offset source
  (clamp? start (max source.length start) d.span.stop).map fun stop => ⟨start, stop⟩

/-- The name that stands for a source that is in no file. -/
def noFile : String := "<input>"

/-- The report of the diagnostic against its source, which was read from the file, if any. -/
def report (d : Diagnostic) (source : String) (file? : Option String) : Report :=
  let text := source.toList
  if text.isEmpty then ⟨d.headline, none, none⟩
  else
    let place := d.place text
    ⟨d.headline,
      some (file?.getD noFile ++ ":" ++ place.line.repr ++ ":" ++ place.column.repr),
      d.help?.map ("help: " ++ ·)⟩

end Diagnostic

end MiniPascal
