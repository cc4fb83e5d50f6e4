/-
# Asking for more detail

How much detail is asked for decides which events a listener hears, and nothing else: the same is
done and printed, the same faults are reported, and the log is the one with all events, from which
the finer ones are left out.  There is one trace of it outside the log.  The path of a file may have
line feeds, and where the log names the file, the lines of the path behind the first one are read as
remarks.  Main statements:

* `Request.ofWords?_replicate` : what asking for more detail changes of a request;
* `Output.log_eq_filter` : a log is a part of the one with all events;
* `Request.remarks_perform` : the remarks at each verbosity;
* `CountsTokens.log` : the entries that tell of tokens are counted by the one for the tree;
* `verbosity_only_observes` : all of this together.
-/
import MiniPascal.Proofs.Text.Lines

namespace MiniPascal

/-! ## Words -/

/-- A flag for more detail in front is one piece in front. -/
theorem readWords?_verbose (words : List String) :
    readWords? none ("-v" :: words) = (readWords? none words).map (.flag .verbose :: ·) := by
  have hword : Word.ofChars "-v".toList = .cluster ['v'] := by decide
  have hcluster : readCluster? ['v'] = some ⟨[.flag .verbose], none⟩ := by decide
  rw [readWords?.eq_def]
  dsimp only
  rw [hword]
  dsimp only
  rw [hcluster]
  show (readWords? none words).bind (fun pieces => some (.flag .verbose :: pieces)) = _
  cases readWords? none words <;> rfl

namespace Request

/-- The request with more detail asked for. -/
def louder (request : Request) (j : Nat) : Request :=
  { request with verbosity := request.verbosity + j }

/-- The pieces with a flag for more detail in front ask for the same and for more detail. -/
theorem ofArguments?_verbose (pieces : List Argument) :
    ofArguments? (.flag .verbose :: pieces) = (ofArguments? pieces).map (louder · 1) := by
  have hinteractive : (Argument.flag .verbose :: pieces).count (.flag .interactive) =
      pieces.count (.flag .interactive) := List.count_cons_of_ne (by decide)
  have htree : (Argument.flag .verbose :: pieces).count (.flag .showTree) =
      pieces.count (.flag .showTree) := List.count_cons_of_ne (by decide)
  have hlimit : (Argument.flag .verbose :: pieces).filterMap Argument.limit? =
      pieces.filterMap Argument.limit? := rfl
  have hfile : (Argument.flag .verbose :: pieces).filterMap Argument.file? =
      pieces.filterMap Argument.file? := rfl
  have hexpression : (Argument.flag .verbose :: pieces).filterMap Argument.expression? =
      pieces.filterMap Argument.expression? := rfl
  unfold ofArguments?
  dsimp only
  rw [hinteractive, htree, hlimit, hfile, hexpression, List.count_cons_self]
  split
  · rw [Option.map_map]
    rfl
  · rfl

/-- **Words for more detail in front ask for the same and for more detail.** -/
theorem ofWords?_replicate (j : Nat) (words : List String) :
    ofWords? (List.replicate j "-v" ++ words) = (ofWords? words).map (louder · j) := by
  induction j with
  | zero => exact Option.map_id'.symm
  | succ j ih =>
    have hcons : ofWords? ("-v" :: (List.replicate j "-v" ++ words)) =
        (ofWords? (List.replicate j "-v" ++ words)).map (louder · 1) := by
      rw [ofWords?, Argument.ofWords?, readWords?_verbose, ofWords?, Argument.ofWords?,
        Option.bind_map, Option.map_bind]
      congr 1
      funext pieces
      exact ofArguments?_verbose pieces
    rw [List.replicate_succ, List.cons_append, hcons, ih, Option.map_map]
    rfl

end Request

/-! ## Logs -/

/-- The details of which a listener hears who has asked for more so often. -/
def Detail.upTo : Nat → List Detail
  | 0 => []
  | 1 => [info]
  | 2 => [info, debug]
  | _ => [info, debug, trace]

theorem Detail.mem_upTo_iff {detail : Detail} {j : Nat} :
    detail ∈ upTo j ↔ detail.rank ≤ j := by
  rcases j with _ | _ | _ | j
  · cases detail <;> decide
  · cases detail <;> decide
  · cases detail <;> decide
  · cases detail <;> simp [upTo, rank]

/-- The entry of the log that tells of the event. -/
def Event.entry (event : Event) : Detail × String :=
  (event.detail, (writtenLines event.text).headD "")

namespace Event

/-- All events are heard by a listener who has asked for more three times. -/
theorem heard_of_three_le {j : Nat} (hj : 3 ≤ j) (events : List Event) :
    heard j events = events := by
  refine List.filter_eq_self.2 fun event _ => decide_eq_true (Nat.le_trans ?_ hj)
  cases event.detail <;> decide

theorem heard_zero (events : List Event) : heard 0 events = [] := by
  refine List.filter_eq_nil_iff.2 fun event _ => ?_
  cases event.detail <;> decide

end Event

namespace Output

theorem log_of_three_le {j : Nat} (hj : 3 ≤ j) (output : Output) :
    output.log j = output.events.map Event.entry := by
  rw [log, Event.heard_of_three_le hj]
  rfl

/-- **A log is a part of the one with all events.** -/
theorem log_eq_filter (output : Output) (j : Nat) :
    output.log j = (output.log 3).filter fun entry => entry.1 ∈ Detail.upTo j := by
  rw [log_of_three_le (Nat.le_refl 3), List.filter_map]
  refine congrArg (List.map Event.entry) (List.filter_congr fun event _ => ?_)
  exact decide_eq_decide.2 Detail.mem_upTo_iff.symm

theorem log_zero (output : Output) : output.log 0 = [] := by
  rw [log, Event.heard_zero]
  rfl

/-! ## Remarks -/

/-- If every event is one line, the remarks are the same at each verbosity. -/
theorem EventsOneLine.remarks_eq {output : Output} (h : output.EventsOneLine) (j : Nat) :
    output.remarks j = output.remarks 0 := by
  have htails : ∀ k, (Event.heard k output.events).flatMap
      (fun event => (writtenLines event.text).tail) = [] := by
    refine fun k => List.flatMap_eq_nil_iff.2 fun event hevent => ?_
    rw [writtenLines_of_oneLine (h event (List.mem_filter.1 hevent).1)]
    rfl
  rw [remarks, remarks, htails, htails]

/-- An event in front adds its lines behind the first one, if it is heard. -/
theorem remarks_tell_append (event : Event) (output : Output) (j : Nat) :
    (tell [event] ++ output).remarks j =
      (if event.detail.rank ≤ j then (writtenLines event.text).tail else []) ++
        output.remarks j := by
  show ((Event.heard j (event :: output.events)).flatMap _) ++ _ = _
  rw [Event.heard, List.filter_cons]
  split
  · next h =>
    rw [if_pos (of_decide_eq_true h), List.flatMap_cons, List.append_assoc]
    rfl
  · next h =>
    rw [if_neg (mt decide_eq_true h)]
    rfl

end Output

/-- The lines of the path behind the first one, which follow the entry of the log that names the
file. -/
def Task.furtherLines : Task → List String
  | file path => (writtenLines path).tail
  | _ => []

theorem Task.furtherLines_of_oneLine {task : Task}
    (h : ∀ path, task = .file path → OneLine path) : task.furtherLines = [] := by
  cases task with
  | file path =>
    rw [furtherLines, writtenLines_of_oneLine (h path rfl)]
    rfl
  | _ => rfl

namespace Request

variable (request : Request) (read : String → Except FileError (List UInt8)) (input : List UInt8)

theorem eventsOneLine_performJob (job : Job) : (request.performJob job).output.EventsOneLine := by
  unfold performJob
  split
  · exact job.eventsOneLine_showTree
  · exact job.eventsOneLine_run

theorem eventsOneLine_performFile (path : String) (contents : Except FileError String) :
    (request.performFile path contents).output.EventsOneLine := by
  cases contents with
  | ok source => exact request.eventsOneLine_performJob _
  | error e => exact Output.eventsOneLine_of_nil rfl

/-- **The remarks at each verbosity**: the entry for the file may add to those of the complaints. -/
theorem remarks_perform (j : Nat) :
    (request.perform read input).output.remarks j =
      (if j = 0 then [] else request.task.furtherLines) ++
        (request.perform read input).output.remarks 0 := by
  unfold perform
  cases request.task with
  | session =>
    dsimp only
    rw [(Session.eventsOneLine_output request.limit input).remarks_eq j]
    split <;> rfl
  | expression text =>
    have hstarts : OneLine Event.argumentStarts.text := by decide
    have hevents := (Output.eventsOneLine_single hstarts).append
      (request.eventsOneLine_performJob ⟨text, none, .expression, request.limit⟩)
    dsimp only
    rw [hevents.remarks_eq j]
    split <;> rfl
  | file path =>
    have hevents := request.eventsOneLine_performFile path ((read path).bind FileError.decode)
    have hlines : (writtenLines (Event.fileStarts path).text).tail = (writtenLines path).tail := by
      have hfront : OneLine "running file path=" := by decide
      unfold Event.text
      dsimp only
      rw [writtenLines_append hfront, List.tail_cons]
    have hrank : (Event.fileStarts path).detail.rank = 1 := rfl
    dsimp only
    -- The entry for the file is heard by all who have asked for more at all.
    rw [Output.remarks_tell_append, Output.remarks_tell_append, hlines, hrank,
      hevents.remarks_eq j]
    by_cases hj : j = 0
    · rw [hj]
      rfl
    · rw [if_pos (Nat.one_le_iff_ne_zero.2 hj), if_neg hj]
      rfl

end Request

/-! ## Tokens in a log -/

/-- The entry of a log starts with the words. -/
def StartsWith (words : String) (entry : Detail × String) : Prop :=
  words.toList <+: entry.2.toList

instance (words : String) (entry : Detail × String) : Decidable (StartsWith words entry) :=
  inferInstanceAs (Decidable (_ <+: _))

namespace Event

/-- What all entries for events of the sort begin with. -/
def opening : Event → String
  | argumentStarts => "evaluating expression from command line"
  | fileStarts _ => "running file path="
  | tokenTaken _ => "token kind="
  | parsed .. => "parsed source mode="
  | treeKnown _ => "syntax tree tree="
  | programFinished _ => "program finished bindings="
  | expressionEvaluated _ => "expression evaluated value="
  | runFailed _ => "run failed kind="
  | lineStarts _ => "repl line mode="

theorem exists_text_eq (event : Event) : ∃ rest, event.text = event.opening ++ rest := by
  unfold text
  cases event with
  | argumentStarts => exact ⟨"", String.append_empty.symm⟩
  | tokenTaken t =>
    dsimp only
    simp only [String.append_assoc]
    exact ⟨_, rfl⟩
  | parsed mode tokens statements =>
    dsimp only
    simp only [String.append_assoc]
    exact ⟨_, rfl⟩
  | _ => exact ⟨_, rfl⟩

/-- Whether an entry starts with few enough words is seen from the sort of its event. -/
theorem startsWith_entry_iff {words : String} (event : Event)
    (h : words.toList.length ≤ event.opening.toList.length) :
    StartsWith words event.entry ↔ words.toList <+: event.opening.toList := by
  obtain ⟨rest, htext⟩ := event.exists_text_eq
  have hopening : OneLine event.opening := by
    cases event <;> simp [opening, OneLine]
  rw [StartsWith, entry, htext, writtenLines_append hopening, List.headD_cons,
    String.toList_append]
  constructor
  · intro hprefix
    exact List.prefix_of_prefix_length_le hprefix (List.prefix_append _ _) h
  · intro hprefix
    exact hprefix.trans (List.prefix_append _ _)

/-- The event tells of a token. -/
def isToken : Event → Bool
  | tokenTaken _ => true
  | _ => false

/-- The event tells that a source has been turned into a tree. -/
def isParsed : Event → Bool
  | parsed .. => true
  | _ => false

theorem startsWith_token_iff (event : Event) : StartsWith "token " event.entry ↔ event.isToken := by
  rw [startsWith_entry_iff]
  · cases event <;> simp [opening, isToken]
  · cases event <;> simp [opening]

theorem startsWith_parsed_iff (event : Event) :
    StartsWith "parsed " event.entry ↔ event.isParsed := by
  rw [startsWith_entry_iff]
  · cases event <;> simp [opening, isParsed]
  · cases event <;> simp [opening]

end Event

/-- Of the events one tells of a tree of the mode, with the number of those that tell of tokens. -/
def CountsTokens (mode : Mode) (events : List Event) : Prop :=
  ∃ statements, events.filter Event.isParsed =
    [.parsed mode (events.filter Event.isToken).length statements]

variable {source : String} {mode : Mode} {limit : Nat} {tree : Tree} {events : List Event}
  {event : Event}

/-- An event of another sort in front plays no part, and neither does one behind. -/
theorem CountsTokens.cons (h : CountsTokens mode events) (htoken : event.isToken = false)
    (hparsed : event.isParsed = false) : CountsTokens mode (event :: events) := by
  simpa [CountsTokens, List.filter_cons, htoken, hparsed] using h

theorem CountsTokens.concat (h : CountsTokens mode events) (htoken : event.isToken = false)
    (hparsed : event.isParsed = false) : CountsTokens mode (events ++ [event]) := by
  simpa [CountsTokens, htoken, hparsed] using h

/-- The events of reading a tree tell of each token that the parser has taken. -/
theorem countsTokens_parseTelling (h : parse source mode limit = .ok tree) :
    CountsTokens mode (parseTelling source mode limit).2 := by
  cases hparser : Parser.ofSource source limit with
  | error fault =>
    rw [parse, hparser] at h
    cases h
  | ok parser =>
    have hresult : (parser.parse mode).1 = .ok tree := by
      rw [parse, hparser] at h
      exact h
    have htokens : ∀ ts : List Token,
        (ts.map Event.tokenTaken).filter Event.isToken = ts.map Event.tokenTaken ∧
          (ts.map Event.tokenTaken).filter Event.isParsed = [] := by
      intro ts
      constructor
      · exact List.filter_eq_self.2 (by simp [Event.isToken])
      · exact List.filter_eq_nil_iff.2 (by simp [Event.isParsed])
    rw [parseTelling_of_ofSource hparser, hresult]
    obtain ⟨htoken, hparsed⟩ := htokens (parser.parse mode).2.taken.reverse
    have hcount : ((parser.parse mode).2.taken.reverse.map Event.tokenTaken ++ []).length =
        (parser.parse mode).2.consumed := by
      rw [List.append_nil, List.length_map, List.length_reverse]
      rfl
    refine ⟨tree.statementCount, ?_⟩
    rw [List.filter_append, List.filter_append, htoken, hparsed]
    show [Event.parsed mode (parser.parse mode).2.consumed _] =
      [Event.parsed mode (_ ++ []).length _]
    rw [hcount]

/-- So do the events of running or showing it. -/
theorem countsTokens_performJob (request : Request) (job : Job)
    (h : parse job.source job.mode job.limit = .ok tree) :
    CountsTokens job.mode (request.performJob job).output.events := by
  have htold := countsTokens_parseTelling h
  unfold Request.performJob
  split
  · unfold Job.showTree
    dsimp only
    split
    · simpa [Output.tell, Output.print] using htold
    · simpa [Output.tell, Output.report, Job.report] using htold
  · unfold Job.run
    dsimp only
    split
    · next outcome _ =>
      have hlast : outcome.event.isToken = false ∧ outcome.event.isParsed = false := by
        cases outcome <;> exact ⟨rfl, rfl⟩
      simpa [Output.tell, Output.print] using htold.concat hlast.1 hlast.2
    · next fault _ =>
      have hfailed : CountsTokens job.mode (_ ++ [.runFailed fault.cause.faultClass]) :=
        htold.concat rfl rfl
      simpa [Output.tell, Output.report, Job.report] using hfailed

/-- **The entries of a log with all events** that tell of tokens are counted by the one that tells
of the tree. -/
theorem CountsTokens.log {output : Output} (h : CountsTokens mode output.events) {j : Nat}
    (hj : 3 ≤ j) :
    ∃ n statements : Nat,
      (output.log j).filter (StartsWith "parsed ") =
        [(.debug, "parsed source mode=" ++ mode.title ++ " tokens=" ++ n.repr ++
          " statements=" ++ statements.repr)] ∧
      ((output.log j).filter (StartsWith "token ")).length = n := by
  obtain ⟨statements, hparsed⟩ := h
  have hparsedEntries : (fun entry => decide (StartsWith "parsed " entry)) ∘ Event.entry =
      Event.isParsed := by
    funext event
    simp [Event.startsWith_parsed_iff]
  have htokenEntries : (fun entry => decide (StartsWith "token " entry)) ∘ Event.entry =
      Event.isToken := by
    funext event
    simp [Event.startsWith_token_iff]
  refine ⟨(output.events.filter Event.isToken).length, statements, ?_, ?_⟩
  · have hline := Event.oneLine_parsed mode (output.events.filter Event.isToken).length statements
    rw [Output.log_of_three_le hj, List.filter_map, hparsedEntries, hparsed, List.map_singleton,
      Event.entry, writtenLines_of_oneLine hline]
    rfl
  · rw [Output.log_of_three_le hj, List.filter_map, htokenEntries, List.length_map]

/-! ## What is seen from outside -/

/-- What the program lets see from outside. -/
structure Display where
  /-- The exit code. -/
  exitCode : Nat
  /-- The text that is printed. -/
  printed : String
  /-- The reports of faults. -/
  reports : List Report
  /-- The other lines on the channel of reports that are not in the log. -/
  remarks : List String
  /-- The log. -/
  log : List (Detail × String)
  deriving DecidableEq

namespace Request

/-- What is seen from outside when the request is performed. -/
def display (request : Request) (read : String → Except FileError (List UInt8))
    (input : List UInt8) : Display :=
  let performance := request.perform read input
  let output := performance.output
  ⟨performance.exitCode, output.printed, output.reports, output.remarks request.verbosity,
    output.log request.verbosity⟩

/-- The source that the request is for, with the mode in which it is read, if it can be read. -/
def source? (request : Request) (read : String → Except FileError (List UInt8)) :
    Option (Mode × String) :=
  match request.task with
  | .session => none
  | .expression text => some (.expression, text)
  | .file path =>
    match (read path).bind FileError.decode with
    | .ok source => some (.program, source)
    | .error _ => none

end Request

/-- What is seen from outside for the words of a command line, if it makes sense. -/
def display? (words : List String) (read : String → Except FileError (List UInt8))
    (input : List UInt8) : Option Display :=
  (Request.ofWords? words).map fun request => request.display read input

theorem Request.countsTokens_perform {request : Request}
    {read : String → Except FileError (List UInt8)} (input : List UInt8)
    (hsource : request.source? read = some (mode, source))
    (htree : parse source mode request.limit = .ok tree) :
    CountsTokens mode (request.perform read input).output.events := by
  unfold source? at hsource
  unfold perform
  cases htask : request.task with
  | session =>
    rw [htask] at hsource
    cases hsource
  | expression text =>
    rw [htask] at hsource
    cases hsource
    exact (countsTokens_performJob request ⟨source, none, .expression, request.limit⟩ htree).cons
      rfl rfl
  | file path =>
    rw [htask] at hsource
    dsimp only at hsource ⊢
    cases hread : (read path).bind FileError.decode with
    | error e =>
      rw [hread] at hsource
      cases hsource
    | ok text =>
      rw [hread] at hsource
      cases hsource
      exact (countsTokens_performJob request ⟨source, some path, .program, request.limit⟩
        htree).cons rfl rfl

/-- The path of a file that is not there has a line feed.  When the log names the file, the second
line of the path is a remark, which it is not without the log. -/
theorem remarks_of_broken_path :
    ∃ quiet loud : Display,
      (Request.ofWords? ["a\nb"]).map Request.verbosity = some 0 ∧
      display? ["a\nb"] (fun _ => .error .notFound) [] = some quiet ∧
      display? (List.replicate 1 "-v" ++ ["a\nb"]) (fun _ => .error .notFound) [] = some loud ∧
      quiet.remarks =
        ["Error reading file 'a", "b': No such file or directory (os error 2)"] ∧
      loud.remarks =
        ["b", "Error reading file 'a", "b': No such file or directory (os error 2)"] ∧
      loud.remarks ≠ quiet.remarks := by
  refine ⟨⟨1, "", [], ["Error reading file 'a", "b': No such file or directory (os error 2)"], []⟩,
    ⟨1, "", [], ["b", "Error reading file 'a", "b': No such file or directory (os error 2)"],
      [(.info, "running file path=a")]⟩, ?_, ?_, ?_, rfl, rfl, ?_⟩
  all_goals decide +kernel

/-- **Asking for more detail only adds to the log**, and where the path of a file has line feeds, to
the remarks. -/
theorem verbosity_only_observes {words : List String} {request : Request}
    (hwords : Request.ofWords? words = some request) (hquiet : request.verbosity = 0)
    (read : String → Except FileError (List UInt8)) (input : List UInt8) :
    ∃ quiet loudest : Display,
      display? words read input = some quiet ∧
      display? (List.replicate 3 "-v" ++ words) read input = some loudest ∧
      quiet.log = [] ∧
      (∀ j, display? (List.replicate j "-v" ++ words) read input = some
        { quiet with
          remarks := (if j = 0 then [] else request.task.furtherLines) ++ quiet.remarks
          log := loudest.log.filter fun entry => entry.1 ∈ Detail.upTo j }) ∧
      ((∀ path, request.task = .file path → OneLine path) → request.task.furtherLines = []) ∧
      ∀ j loud mode source tree, 3 ≤ j →
        display? (List.replicate j "-v" ++ words) read input = some loud →
        request.source? read = some (mode, source) →
        parse source mode request.limit = .ok tree →
        ∃ n statements : Nat,
          loud.log.filter (StartsWith "parsed ") =
            [(.debug, "parsed source mode=" ++ mode.title ++ " tokens=" ++ n.repr ++
              " statements=" ++ statements.repr)] ∧
          (loud.log.filter (StartsWith "token ")).length = n := by
  have hlouder : ∀ j, display? (List.replicate j "-v" ++ words) read input =
      some ((request.louder j).display read input) := by
    intro j
    rw [display?, Request.ofWords?_replicate, hwords]
    rfl
  have hverbosity : ∀ j, (request.louder j).verbosity = j := by
    intro j
    rw [Request.louder, hquiet, Nat.zero_add]
  have hdisplay : ∀ j, (request.louder j).display read input =
      let performance := request.perform read input
      ⟨performance.exitCode, performance.output.printed, performance.output.reports,
        performance.output.remarks j, performance.output.log j⟩ := by
    intro j
    rw [Request.display, hverbosity]
    rfl
  -- All these requests are performed in the same way, and only what is heard of it differs.
  refine ⟨(request.louder 0).display read input, (request.louder 3).display read input,
    hlouder 0, hlouder 3, ?_, ?_, Task.furtherLines_of_oneLine, ?_⟩
  · rw [hdisplay]
    exact Output.log_zero _
  · intro j
    rw [hlouder, hdisplay, hdisplay, hdisplay]
    dsimp only
    rw [← Output.log_eq_filter, request.remarks_perform read input j]
  · intro j loud mode source tree hj hloud hsource htree
    rw [hlouder, hdisplay, Option.some.injEq] at hloud
    subst hloud
    exact (Request.countsTokens_perform input hsource htree).log hj

/-- The path above, and the expression `1+2`, whose log counts its tokens. -/
theorem verbosity_only_observes_broken_path :
    (∃ quiet loudest : Display,
      display? ["a\nb"] (fun _ => .error .notFound) [] = some quiet ∧
      ∀ j, display? (List.replicate j "-v" ++ ["a\nb"]) (fun _ => .error .notFound) [] = some
        { quiet with
          remarks := (if j = 0 then [] else ["b"]) ++ quiet.remarks
          log := loudest.log.filter fun entry => entry.1 ∈ Detail.upTo j }) ∧
    ∃ loud : Display,
      display? ["-v", "-v", "-v", "-e", "1+2"] (fun _ => .error .notFound) [] = some loud ∧
      ∃ n statements : Nat,
        loud.log.filter (StartsWith "parsed ") =
          [(.debug, "parsed source mode=" ++ Mode.expression.title ++ " tokens=" ++ n.repr ++
            " statements=" ++ statements.repr)] ∧
        (loud.log.filter (StartsWith "token ")).length = n := by
  constructor
  · have hwords : Request.ofWords? ["a\nb"] =
        some ⟨.file "a\nb", false, Parser.defaultLimit, 0⟩ := by decide +kernel
    obtain ⟨quiet, loudest, hdisplay, -, -, hall, -, -⟩ :=
      verbosity_only_observes hwords rfl (fun _ => .error .notFound) []
    exact ⟨quiet, loudest, hdisplay, hall⟩
  · have hwords : Request.ofWords? ["-e", "1+2"] =
        some ⟨.expression "1+2", false, Parser.defaultLimit, 0⟩ := by decide +kernel
    have hparse : parse "1+2" .expression Parser.defaultLimit =
        .ok (.expr (.binary .add (.number ⟨1, by decide, by decide⟩ ⟨0, 1⟩)
          (.number ⟨2, by decide, by decide⟩ ⟨2, 3⟩) ⟨0, 3⟩)) := by decide +kernel
    obtain ⟨-, loudest, -, hdisplay, -, -, -, htokens⟩ :=
      verbosity_only_observes hwords rfl (fun _ => .error .notFound) []
    exact ⟨loudest, hdisplay, htokens 3 loudest _ _ _ (Nat.le_refl 3) hdisplay rfl hparse⟩

end MiniPascal
