/-
# The transcript of a session

A session serves one line after another, each as if it were the only one: what it shows is put
together from what the runs of the lines show by themselves, with a prompt in front of each, up to
the line that ends the session.  A line more adds what it shows by itself and changes nothing else,
and nothing behind the line that ends the session plays a part.  Main statements:

* `splitLines_eq_iff` : the lines of an input;
* `Session.outputFrom_eq` : what is shown for lines that are served;
* `Session.output_insert`, `Session.output_stopped` : a line more, and lines behind the end;
* `Session.session_of_runs` : all of this together.
-/
import MiniPascal.Proofs.Lexical.Trimming

namespace MiniPascal

/-! ## Outputs one after another -/

namespace Output

theorem append_assoc (a b c : Output) : a ++ b ++ c = a ++ (b ++ c) := by
  show append (append a b) c = append a (append b c)
  simp only [append, String.append_assoc, List.append_assoc]

theorem empty_append (a : Output) : empty ++ a = a := by
  show append empty a = a
  simp only [append, empty, String.empty_append, List.nil_append]

theorem append_empty (a : Output) : a ++ empty = a := by
  show append a empty = a
  simp only [append, empty, String.append_empty, List.append_nil]

@[simp] theorem printed_append (a b : Output) : (a ++ b).printed = a.printed ++ b.printed := rfl

@[simp] theorem reports_append (a b : Output) : (a ++ b).reports = a.reports ++ b.reports := rfl

@[simp] theorem complaints_append (a b : Output) :
    (a ++ b).complaints = a.complaints ++ b.complaints := rfl

/-- The outputs one after another. -/
def concat (outputs : List Output) : Output := outputs.foldr (· ++ ·) empty

@[simp] theorem concat_nil : concat [] = empty := rfl

@[simp] theorem concat_cons (a : Output) (outputs : List Output) :
    concat (a :: outputs) = a ++ concat outputs := rfl

theorem concat_append (front back : List Output) :
    concat (front ++ back) = concat front ++ concat back := by
  induction front with
  | nil => exact (empty_append _).symm
  | cons a front ih => rw [List.cons_append, concat_cons, concat_cons, ih, append_assoc]

theorem printed_concat (outputs : List Output) :
    (concat outputs).printed = String.join (outputs.map printed) := by
  induction outputs with
  | nil => rfl
  | cons a outputs ih => rw [concat_cons, printed_append, ih, List.map_cons, String.join_cons]

theorem reports_concat (outputs : List Output) :
    (concat outputs).reports = outputs.flatMap reports := by
  induction outputs with
  | nil => rfl
  | cons a outputs ih => rw [concat_cons, reports_append, ih, List.flatMap_cons]

theorem complaints_concat (outputs : List Output) :
    (concat outputs).complaints = outputs.flatMap complaints := by
  induction outputs with
  | nil => rfl
  | cons a outputs ih => rw [concat_cons, complaints_append, ih, List.flatMap_cons]

end Output

/-! ## Lines -/

/-- The lines of an input.  Each one ends with its only line feed, which the last one may lack. -/
inductive Lines : List UInt8 → List (List UInt8) → Prop
  | nil : Lines [] []
  | last {body : List UInt8} : body ≠ [] → 10 ∉ body → Lines body [body]
  | cons {body rest : List UInt8} {lines : List (List UInt8)} :
    10 ∉ body → Lines rest lines → Lines (body ++ 10 :: rest) ((body ++ [10]) :: lines)

variable {body front back input : List UInt8} {lines : List (List UInt8)}

/-- Bytes without a line feed are added to the unfinished line. -/
theorem splitLines_append (h : 10 ∉ body) (unfinished rest : List UInt8) :
    splitLines unfinished (body ++ rest) = splitLines (body.reverse ++ unfinished) rest := by
  induction body generalizing unfinished with
  | nil => rfl
  | cons byte body ih =>
    obtain ⟨hbyte, hbody⟩ := not_or.1 (mt List.mem_cons.2 h)
    rw [List.cons_append, splitLines, if_neg (Ne.symm hbyte), ih hbody, List.reverse_cons,
      List.append_assoc]
    rfl

theorem splitLines_of_lines (h : Lines input lines) : splitLines [] input = lines := by
  induction h with
  | nil => rfl
  | @last body hne hbody =>
    have hsplit := splitLines_append hbody [] []
    rw [List.append_nil, List.append_nil] at hsplit
    rw [hsplit, splitLines, if_neg, List.reverse_reverse]
    simpa using hne
  | @cons body rest lines hbody _ ih =>
    rw [splitLines_append hbody, splitLines, if_pos rfl, ih]
    simp

theorem lines_splitLines (input : List UInt8) : Lines input (splitLines [] input) := by
  -- A line is taken off at once, so the input shrinks by more than a byte.
  induction hn : input.length using Nat.strongRecOn generalizing input with
  | ind n ih =>
    by_cases hfeed : 10 ∈ input
    · obtain ⟨body, rest, rfl, hbody⟩ := List.eq_append_cons_of_mem hfeed
      have hlength : rest.length < n := by
        rw [← hn, List.length_append, List.length_cons]
        omega
      have hlines := Lines.cons hbody (ih _ hlength rest rfl)
      rwa [← splitLines_of_lines hlines] at hlines
    · rcases eq_or_ne input [] with rfl | hne
      · exact .nil
      · have hlines := Lines.last hne hfeed
        rwa [← splitLines_of_lines hlines] at hlines

/-- **The lines of an input.** -/
theorem splitLines_eq_iff : splitLines [] input = lines ↔ Lines input lines := by
  constructor
  · rintro rfl
    exact lines_splitLines input
  · exact splitLines_of_lines

/-- Behind a line feed, or at the start, there are new lines. -/
theorem Lines.append {others : List (List UInt8)} (h : Lines front lines)
    (hfeed : ∀ byte ∈ front.getLast?, byte = 10) (hback : Lines back others) :
    Lines (front ++ back) (lines ++ others) := by
  induction h with
  | nil => exact hback
  | @last body hne hbody =>
    -- A line that lacks its line feed would go on behind the end of the input.
    have hlast := hfeed _ (List.getLast?_eq_some_getLast hne)
    exact absurd (hlast ▸ List.getLast_mem hne) hbody
  | @cons body rest lines hbody _ ih =>
    rw [List.append_assoc, List.cons_append, List.cons_append]
    refine .cons hbody (ih fun byte hbyte => hfeed byte ?_)
    rw [List.getLast?_append, List.getLast?_cons, Option.mem_def.1 hbyte]
    rfl

namespace Session

/-! ## Lines that are served -/

/-- Why a session ends. -/
inductive Ending where
  /-- The input is over. -/
  | inputOver
  /-- A line asks for it. -/
  | farewell
  /-- A line is no text. -/
  | unreadable
  deriving DecidableEq

/-- What is shown at the end, behind the last prompt. -/
def Ending.output : Ending → Output
  | inputOver => .print "\n"
  | farewell => .print "Goodbye!\n"
  | unreadable => .complain "Error reading input: stream did not contain valid UTF-8"

/-- The text that the bytes are in UTF-8, if they are one. -/
def decode? (line : List UInt8) : Option String := String.fromUTF8? ⟨line.toArray⟩

/-- The line asks to end the session. -/
def AsksToEnd (text : String) : Prop := Line.trimmed text = "exit" ∨ Line.trimmed text = "quit"

instance (text : String) : Decidable (AsksToEnd text) := inferInstanceAs (Decidable (_ ∨ _))

/-- Of the lines, those with the texts are served, and then the session ends. -/
inductive Serves : List (List UInt8) → List String → Ending → Prop
  | inputOver : Serves [] [] .inputOver
  | unreadable {line : List UInt8} {rest : List (List UInt8)} :
    decode? line = none → Serves (line :: rest) [] .unreadable
  | farewell {line : List UInt8} {rest : List (List UInt8)} {text : String} :
    decode? line = some text → AsksToEnd text → Serves (line :: rest) [] .farewell
  | line {line : List UInt8} {rest : List (List UInt8)} {text : String} {texts : List String}
    {ending : Ending} :
    decode? line = some text → ¬AsksToEnd text → Serves rest texts ending →
    Serves (line :: rest) (text :: texts) ending

/-- What the line shows by itself: what the run of the trimmed line shows, in the mode that it asks
for, and nothing if it is blank. -/
def alone (limit : Nat) (text : String) : Output :=
  if Line.trimmed text = "" then .empty
  else (Job.run ⟨Line.trimmed text, none, Mode.detect (Line.trimmed text), limit⟩).output

/-- A prompt, and what comes of the line behind it; that a line starts is an event of its own. -/
def exchange (limit : Nat) (text : String) : Output :=
  .print prompt ++
    (if Line.trimmed text = "" then .empty
      else .tell [.lineStarts (Mode.detect (Line.trimmed text))]) ++ alone limit text

variable {limit : Nat} {texts others : List String} {ending : Ending} {text : String}

theorem exists_serves (lines : List (List UInt8)) : ∃ texts ending, Serves lines texts ending := by
  induction lines with
  | nil => exact ⟨[], _, .inputOver⟩
  | cons line rest ih =>
    cases hdecode : decode? line with
    | none => exact ⟨[], _, .unreadable hdecode⟩
    | some text =>
      by_cases hasks : AsksToEnd text
      · exact ⟨[], _, .farewell hdecode hasks⟩
      · obtain ⟨texts, ending, hrest⟩ := ih
        exact ⟨text :: texts, ending, .line hdecode hasks hrest⟩

/-- Behind lines that do not end the session the next ones are served. -/
theorem Serves.append {others : List (List UInt8)} {texts' : List String}
    (h : Serves lines texts .inputOver) (hothers : Serves others texts' ending) :
    Serves (lines ++ others) (texts ++ texts') ending := by
  generalize hfirst : Ending.inputOver = first at h
  induction h with
  | inputOver => exact hothers
  | unreadable hdecode => cases hfirst
  | farewell hdecode hasks => cases hfirst
  | line hdecode hasks _ ih => exact .line hdecode hasks (ih hfirst)

/-- Behind a line that ends the session no line is served. -/
theorem Serves.append_of_ne (h : Serves lines texts ending) (hending : ending ≠ .inputOver)
    (others : List (List UInt8)) : Serves (lines ++ others) texts ending := by
  induction h with
  | inputOver => exact absurd rfl hending
  | unreadable hdecode => exact .unreadable hdecode
  | farewell hdecode hasks => exact .farewell hdecode hasks
  | line hdecode hasks _ ih => exact .line hdecode hasks (ih hending)

/-! ## What is shown -/

/-- What a line is, said of the trimmed line. -/
theorem ofText_eq (text : String) :
    Line.ofText text =
      if Line.trimmed text = "" then .blank
      else if AsksToEnd text then .farewell else .source (Line.trimmed text) := by
  unfold Line.ofText
  simp only [String.isEmpty_iff]
  rfl

theorem ofBytes_of_decode? {line : List UInt8} (h : decode? line = some text) :
    Line.ofBytes line = .ofText text := by
  rw [decode?] at h
  rw [Line.ofBytes, h]

theorem respond_of_unreadable {line : List UInt8} (h : decode? line = none) :
    respond limit (.ofBytes line) = (Ending.unreadable.output, false) := by
  rw [decode?] at h
  rw [Line.ofBytes, h]
  rfl

theorem respond_of_asksToEnd {line : List UInt8} (h : decode? line = some text)
    (hasks : AsksToEnd text) :
    respond limit (.ofBytes line) = (Ending.farewell.output, false) := by
  -- A blank line asks for nothing.
  have hne : Line.trimmed text ≠ "" := by
    intro hempty
    rw [AsksToEnd, hempty] at hasks
    revert hasks
    decide
  rw [ofBytes_of_decode? h, ofText_eq, if_neg hne, if_pos hasks]
  rfl

/-- A line that does not end the session is an exchange, and the session goes on. -/
theorem respond_of_not_asksToEnd (limit : Nat) {line : List UInt8} (h : decode? line = some text)
    (hasks : ¬AsksToEnd text) :
    ∃ output, respond limit (.ofBytes line) = (output, true) ∧
      .print prompt ++ output = exchange limit text := by
  rw [ofBytes_of_decode? h, ofText_eq]
  by_cases hblank : Line.trimmed text = ""
  · refine ⟨.empty, by rw [if_pos hblank]; rfl, ?_⟩
    rw [exchange, alone, if_pos hblank, if_pos hblank, Output.append_empty, Output.append_empty]
  · refine ⟨answer limit (Line.trimmed text), by rw [if_neg hblank, if_neg hasks]; rfl, ?_⟩
    rw [exchange, alone, if_neg hblank, if_neg hblank, Output.append_assoc]
    rfl

/-- **What is shown for lines that are served**, from a prompt on. -/
theorem outputFrom_eq (h : Serves lines texts ending) :
    outputFrom limit lines =
      .concat (texts.map (exchange limit)) ++ (.print prompt ++ ending.output) := by
  induction h with
  | inputOver => rfl
  | unreadable hdecode =>
    rw [outputFrom, respond_of_unreadable hdecode, List.map_nil, Output.concat_nil,
      Output.empty_append]
  | farewell hdecode hasks =>
    rw [outputFrom, respond_of_asksToEnd hdecode hasks, List.map_nil, Output.concat_nil,
      Output.empty_append]
  | line hdecode hasks _ ih =>
    obtain ⟨output, hrespond, hexchange⟩ := respond_of_not_asksToEnd limit hdecode hasks
    rw [outputFrom, hrespond, List.map_cons, Output.concat_cons, Output.append_assoc, ← hexchange,
      ← ih]

/-- What is shown for an input. -/
theorem output_eq (hlines : Lines input lines) (h : Serves lines texts ending) :
    output limit input = .print banner ++
      (.concat (texts.map (exchange limit)) ++ (.print prompt ++ ending.output)) := by
  rw [output, splitLines_eq_iff.2 hlines, outputFrom_eq h]

/-! ## Lines more and lines less -/

/-- **A line more adds what comes of it**, if the session gets there. -/
theorem output_insert (hfeed : ∀ byte ∈ front.getLast?, byte = 10) (hlines : Lines front lines)
    (h : Serves lines texts .inputOver) {line : List UInt8} (hline : Lines line [line])
    (hlast : back ≠ [] → ∀ byte ∈ line.getLast?, byte = 10) (hdecode : decode? line = some text)
    (hasks : ¬AsksToEnd text) :
    ∃ after, output limit (front ++ back) =
        .print banner ++ (.concat (texts.map (exchange limit)) ++ after) ∧
      output limit (front ++ (line ++ back)) =
        .print banner ++
          (.concat (texts.map (exchange limit)) ++ (exchange limit text ++ after)) := by
  obtain ⟨others, ending, hothers⟩ := exists_serves (splitLines [] back)
  have hback := lines_splitLines back
  have hmore : Lines (line ++ back) (line :: splitLines [] back) := by
    rcases eq_or_ne back [] with rfl | hne
    · rwa [List.append_nil]
    · exact hline.append (hlast hne) hback
  refine ⟨.concat (others.map (exchange limit)) ++ (.print prompt ++ ending.output), ?_, ?_⟩
  · rw [output_eq (hlines.append hfeed hback) (h.append hothers), List.map_append,
      Output.concat_append, Output.append_assoc]
  · rw [output_eq (hlines.append hfeed hmore) (h.append (.line hdecode hasks hothers)),
      List.map_append, Output.concat_append, List.map_cons, Output.concat_cons,
      Output.append_assoc, Output.append_assoc]

/-- **Nothing behind the line that ends the session plays a part.** -/
theorem output_stopped (hfeed : ∀ byte ∈ front.getLast?, byte = 10) (hlines : Lines front lines)
    (h : Serves lines texts ending) (hending : ending ≠ .inputOver) (back : List UInt8) :
    output limit (front ++ back) = output limit front := by
  rw [output_eq (hlines.append hfeed (lines_splitLines back)) (h.append_of_ne hending _),
    output_eq hlines h]

/-! ## Whole sessions -/

/-- A run makes no complaint. -/
theorem complaints_run (job : Job) : job.run.output.complaints = [] := by
  rw [Job.run]
  dsimp only
  split <;> rfl

theorem printed_exchange (limit : Nat) (text : String) :
    (exchange limit text).printed = prompt ++ (alone limit text).printed := by
  unfold exchange
  split <;> simp [Output.empty, Output.tell, Output.print]

theorem reports_exchange (limit : Nat) (text : String) :
    (exchange limit text).reports = (alone limit text).reports := by
  unfold exchange
  split <;> simp [Output.empty, Output.tell, Output.print]

theorem complaints_exchange (limit : Nat) (text : String) :
    (exchange limit text).complaints = [] := by
  unfold exchange alone
  split <;> simp [Output.empty, Output.tell, Output.print, complaints_run]

/-- **A session is the concatenation of independent runs.**  The lines of the input are served in
order, up to one that is no text or that asks to end the session.  What is printed is, behind the
banner, a prompt for each of them and what the run of the trimmed line prints by itself, whether the
run fails or not, and then a prompt and what is said at the end; the reports are those of the runs,
in order.  So a line more that does not end the session adds what comes of it, if the session gets
there, and nothing else changes; and nothing behind the line that ends the session plays a part. -/
theorem session_of_runs (limit : Nat) :
    (∀ input, ∃ lines texts ending, Lines input lines ∧ Serves lines texts ending ∧
      (output limit input).printed =
        banner ++ String.join (texts.map fun text => prompt ++ (alone limit text).printed) ++
          prompt ++ ending.output.printed ∧
      (output limit input).reports = texts.flatMap (fun text => (alone limit text).reports) ∧
      (output limit input).complaints = ending.output.complaints) ∧
    ∀ front lines texts ending, (∀ byte ∈ front.getLast?, byte = 10) → Lines front lines →
      Serves lines texts ending →
      (ending = .inputOver → ∀ line back text, Lines line [line] →
        (back ≠ [] → ∀ byte ∈ line.getLast?, byte = 10) → decode? line = some text →
        ¬AsksToEnd text → ∃ after,
          output limit (front ++ back) =
            .print banner ++ (.concat (texts.map (exchange limit)) ++ after) ∧
          output limit (front ++ (line ++ back)) =
            .print banner ++
              (.concat (texts.map (exchange limit)) ++ (exchange limit text ++ after))) ∧
      (ending ≠ .inputOver → ∀ back, output limit (front ++ back) = output limit front) := by
  constructor
  · intro input
    have hlines := lines_splitLines input
    obtain ⟨texts, ending, hserves⟩ := exists_serves (splitLines [] input)
    refine ⟨_, texts, ending, hlines, hserves, ?_⟩
    have hending : ending.output.reports = [] := by
      cases ending <;> rfl
    have hexchanges : (texts.map (exchange limit)).flatMap Output.complaints = [] := by
      simp [complaints_exchange]
    rw [output_eq hlines hserves]
    refine ⟨?_, ?_, ?_⟩
    · simp only [Output.printed_append, Output.printed_concat, List.map_map, Function.comp_def,
        printed_exchange, String.append_assoc]
      rfl
    · simp only [Output.reports_append, Output.reports_concat, List.flatMap_map, reports_exchange,
        hending]
      exact List.append_nil _
    · simp only [Output.complaints_append, Output.complaints_concat, hexchanges]
      rfl
  · intro front lines texts ending hfeed hlines hserves
    constructor
    · rintro rfl line back text hline hlast hdecode hasks
      exact output_insert hfeed hlines hserves hline hlast hdecode hasks
    · intro hending back
      exact output_stopped hfeed hlines hserves hending back

/-- The line `?` fails and adds its report between two other lines, and behind `quit` there is
nothing to be added. -/
theorem session_of_runs_failing_line :
    (∃ after, output 9 ([49, 10] ++ [50]) =
        .print banner ++ (.concat [exchange 9 "1\n"] ++ after) ∧
      output 9 ([49, 10] ++ ([63, 10] ++ [50])) =
        .print banner ++ (.concat [exchange 9 "1\n"] ++ (exchange 9 "?\n" ++ after))) ∧
    (exchange 9 "?\n").reports =
      [⟨"Lexical Error: Unexpected character: '?'", some "<input>:1:1", none⟩] ∧
    output 9 ([113, 117, 105, 116, 10] ++ [49]) = output 9 [113, 117, 105, 116, 10] := by
  have hline : ∀ body : List UInt8, 10 ∉ body → Lines (body ++ [10]) [body ++ [10]] :=
    fun body hbody => .cons hbody .nil
  have hone : Lines [49, 10] [[49, 10]] := hline [49] (by decide)
  have hfailing : Lines [63, 10] [[63, 10]] := hline [63] (by decide)
  have hquit : Lines [113, 117, 105, 116, 10] [[113, 117, 105, 116, 10]] :=
    hline [113, 117, 105, 116] (by decide)
  have hserves : Serves [[49, 10]] ["1\n"] .inputOver :=
    .line (by decide +kernel) (by decide +kernel) .inputOver
  have hdecode : decode? [113, 117, 105, 116, 10] = some "quit\n" := by decide +kernel
  have hends : Serves [[113, 117, 105, 116, 10]] [] .farewell :=
    .farewell hdecode (by decide +kernel)
  have hfeed : ∀ body : List UInt8, ∀ byte ∈ (body ++ [10]).getLast?, byte = 10 := by
    intro body byte hbyte
    rw [List.getLast?_concat] at hbyte
    exact (Option.some.inj hbyte).symm
  refine ⟨?_, by decide +kernel, ?_⟩
  · obtain ⟨hinsert, -⟩ := (session_of_runs 9).2 _ _ _ _ (hfeed [49]) hone hserves
    exact hinsert rfl _ [50] "?\n" hfailing (fun _ => hfeed [63]) (by decide +kernel)
      (by decide +kernel)
  · obtain ⟨-, hstopped⟩ := (session_of_runs 9).2 _ _ _ _ (hfeed [113, 117, 105, 116]) hquit hends
    exact hstopped (by decide) [49]

end Session

end MiniPascal
