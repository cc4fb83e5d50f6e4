/-
# Output

What a run shows: the text it prints, the reports of faults, other complaints, and the events that
it tells to listeners.  The outputs of two runs, one after the other, are put together part by part.

Events and complaints are written to one channel, which is read line by line.  A file name may hold
line feeds, so a text may make several lines.  The first line of an event is its entry in the log;
its other lines, and those of complaints, are remarks.
-/
import MiniPascal.Diagnostic
import MiniPascal.Event
import MiniPascal.Text.Written

namespace MiniPascal

/-- What a run shows. -/
structure Output where
  /-- The text that is printed. -/
  printed : String
  /-- The reports of faults. -/
  reports : List Report
  /-- Complaints that are about no source. -/
  complaints : List String
  /-- All events, however fine. -/
  events : List Event
  deriving DecidableEq

namespace Output

/-- Nothing is shown. -/
def empty : Output := ⟨"", [], [], []⟩

/-- A text is printed. -/
def print (text : String) : Output := ⟨text, [], [], []⟩

/-- A fault is reported. -/
def report (r : Report) : Output := ⟨"", [r], [], []⟩

/-- A complaint is made. -/
def complain (text : String) : Output := ⟨"", [], [text], []⟩

/-- Events are told. -/
def tell (events : List Event) : Output := ⟨"", [], [], events⟩

/-- The output of one run and then that of another. -/
def append (a b : Output) : Output :=
  ⟨a.printed ++ b.printed, a.reports ++ b.reports, a.complaints ++ b.complaints,
    a.events ++ b.events⟩

instance : Append Output := ⟨append⟩

/-! ## Line by line -/

/-- The log of a listener who has asked for more `verbosity` times: the first line of each event
that is heard, with its detail. -/
def log (output : Output) (verbosity : Nat) : List (Detail × String) :=
  (Event.heard verbosity output.events).map fun event =>
    (event.detail, (writtenLines event.text).headD "")

/-- The other lines: those of the events that are heard, of which only the first one of a run takes
more than one line, and then those of the complaints. -/
def remarks (output : Output) (verbosity : Nat) : List String :=
  ((Event.heard verbosity output.events).flatMap fun event => (writtenLines event.text).tail) ++
    output.complaints.flatMap writtenLines

end Output

end MiniPascal
