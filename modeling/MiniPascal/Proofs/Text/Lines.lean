/-
# Lines of the log

A text is one line where it is written, unless it has a line feed.  No token has one, so neither has
the name of a variable nor the text of a tree, and everything that happens while a source is run is
told in one line.  The only event that may take more lines names the file, and it comes before the
source is read.  Main statements:

* `writtenLines_append` : the lines of a text behind one that is a line;
* `Token.StandsIn.oneLine`, `Tree.oneLine_text` : tokens and trees;
* `Job.eventsOneLine_run`, `Session.eventsOneLine_output` : the events of runs and sessions.
-/
import MiniPascal.CommandLine.Perform
import MiniPascal.Proofs.Grammar.Names
import MiniPascal.Proofs.Parser.Conservation
import MiniPascal.Proofs.Places.Culprits
import MiniPascal.Proofs.Text.Decimals
import MiniPascal.Proofs.Text.Trees

namespace MiniPascal

/-! ## Written lines -/

/-- The lines of a text begin with the unfinished line, and the others are not changed by it. -/
theorem writtenLinesFrom_eq (unfinished text : List Char) :
    writtenLinesFrom unfinished text =
      (String.ofList unfinished.reverse ++ (writtenLinesFrom [] text).headD "") ::
        (writtenLinesFrom [] text).tail := by
  induction text generalizing unfinished with
  | nil => simp [writtenLinesFrom]
  | cons c rest ih =>
    by_cases hc : c = '\n'
    · simp [writtenLinesFrom, hc]
    · -- On the right, the unfinished line starts with `c` alone.
      rw [writtenLinesFrom, if_neg hc, writtenLinesFrom, if_neg hc, ih (c :: unfinished), ih [c]]
      rw [List.headD_cons, List.tail_cons, ← String.append_assoc, ← String.ofList_append,
        List.reverse_cons, List.reverse_singleton]

/-- Characters without a line feed are added to the unfinished line. -/
theorem writtenLinesFrom_append {front : List Char} (h : '\n' ∉ front)
    (unfinished back : List Char) :
    writtenLinesFrom unfinished (front ++ back) =
      writtenLinesFrom (front.reverse ++ unfinished) back := by
  induction front generalizing unfinished with
  | nil => rfl
  | cons c front ih =>
    obtain ⟨hc, hfront⟩ := not_or.1 (mt List.mem_cons.2 h)
    rw [List.cons_append, writtenLinesFrom, if_neg (Ne.symm hc), ih hfront, List.reverse_cons,
      List.append_assoc]
    rfl

/-- The text has no line feed, so it is written as one line. -/
def OneLine (text : String) : Prop := '\n' ∉ text.toList

instance (text : String) : Decidable (OneLine text) := inferInstanceAs (Decidable (_ ∉ _))

@[simp] theorem oneLine_append {a b : String} : OneLine (a ++ b) ↔ OneLine a ∧ OneLine b := by
  simp [OneLine]

/-- **The lines of a text behind one that is a line.** -/
theorem writtenLines_append {front : String} (h : OneLine front) (back : String) :
    writtenLines (front ++ back) =
      (front ++ (writtenLines back).headD "") :: (writtenLines back).tail := by
  rw [writtenLines, String.toList_append, writtenLinesFrom_append h, writtenLinesFrom_eq,
    List.append_nil, List.reverse_reverse, String.ofList_toList, writtenLines]

theorem writtenLines_of_oneLine {text : String} (h : OneLine text) :
    writtenLines text = [text] := by
  have hlines := writtenLines_append h ""
  rw [String.append_empty] at hlines
  rw [hlines]
  show [text ++ ""] = [text]
  rw [String.append_empty]

/-! ## Numbers, words and signs -/

theorem oneLine_of_isDigits {text : String} (h : ∀ c ∈ text.toList, c.isDigit = true) :
    OneLine text :=
  fun hfeed => absurd (h _ hfeed) (by decide)

theorem oneLine_natRepr (n : Nat) : OneLine n.repr :=
  oneLine_of_isDigits fun c hc => (isDigits_toDigits n).2 c (Nat.toList_repr ▸ hc)

theorem Value.oneLine_text (v : Value) : OneLine v.text := by
  intro hfeed
  rcases char_of_mem_text hfeed with hminus | hdigit
  · cases hminus
  · cases hdigit

theorem oneLine_of_isWord {text : String} (h : IsWord text.toList) : OneLine text := by
  intro hfeed
  have hblank : isBlank '\n' = true := by decide
  obtain ⟨c, tail, htext, hc, htail⟩ := h
  rw [htext] at hfeed
  rcases List.mem_cons.1 hfeed with rfl | hfeed
  · rw [isLetter_of_isBlank hblank] at hc
    cases hc
  · have hpart := htail _ hfeed
    rw [isWordPart_of_isBlank hblank] at hpart
    cases hpart

theorem Symbol.oneLine_text (s : Symbol) : OneLine s.text := by
  cases s <;> decide

theorem Kind.oneLine_description (kind : Kind) : OneLine kind.description := by
  cases kind with
  | symbol s =>
    have hsymbol := s.oneLine_text
    rw [description, oneLine_append, oneLine_append]
    exact ⟨⟨by decide, hsymbol⟩, by decide⟩
  | keyword k => cases k <;> decide
  | identifier => decide
  | integer value => exact (by decide : OneLine "integer")
  | real bits => exact (by decide : OneLine "real number")

/-! ## Tokens and trees -/

/-- **A token is one line.** -/
theorem Token.StandsIn.oneLine {t : Token} {text : List Char} (h : t.StandsIn text) :
    OneLine t.text := by
  have hwritten := h.written
  cases hkind : t.kind with
  | symbol s =>
    rw [hkind] at hwritten
    rw [String.toList_inj.1 hwritten.1]
    exact s.oneLine_text
  | keyword k =>
    rw [hkind] at hwritten
    exact oneLine_of_isWord hwritten.1
  | identifier =>
    rw [hkind] at hwritten
    exact oneLine_of_isWord hwritten.1
  | integer value =>
    rw [hkind] at hwritten
    exact oneLine_of_isDigits hwritten.1.2
  | real bits =>
    rw [hkind] at hwritten
    obtain ⟨whole, fraction, htext, hwhole, hfraction, -, -⟩ := hwritten
    rw [OneLine, htext]
    intro hfeed
    rcases List.mem_append.1 hfeed with hfeed | hfeed
    · exact absurd (hwhole.2 _ hfeed) (by decide)
    · rcases List.mem_cons.1 hfeed with hdot | hfeed
      · cases hdot
      · exact absurd (hfraction.2 _ hfeed) (by decide)

variable {source : String} {mode : Mode} {limit : Nat} {tree : Tree}

theorem oneLine_of_mem_items {t : Token} (h : .token t ∈ (Cursor.ofSource source).items) :
    OneLine t.text :=
  (standsIn_of_mem_items h).1.oneLine

/-- The names of a parsed tree are lines. -/
theorem oneLine_of_mem_names (h : parse source mode limit = .ok tree) {name : String}
    (hname : name ∈ tree.names) : OneLine name :=
  oneLine_of_isWord (isWord_of_mem_names h hname)

theorem Expr.oneLine_shown (e : Expr) (h : ∀ name ∈ e.names, OneLine name) : OneLine e.shown := by
  induction e with
  | number value span =>
    have hvalue := value.oneLine_text
    simp only [shown_number, oneLine_append]
    exact ⟨⟨by decide, hvalue⟩, by decide⟩
  | var v =>
    have hname := h v.name (List.mem_singleton_self _)
    simp only [shown_var, oneLine_append]
    exact ⟨⟨by decide, hname⟩, by decide⟩
  | unary sign operand span ih =>
    have hoperand := ih h
    have hsign : OneLine sign.text := by cases sign <;> decide
    simp only [shown_unary, oneLine_append]
    exact ⟨⟨⟨⟨by decide, hsign⟩, by decide⟩, hoperand⟩, by decide⟩
  | binary op left right span ihleft ihright =>
    have hnames : (binary op left right span).names = left.names ++ right.names := List.map_append
    rw [hnames] at h
    have hleft := ihleft fun name hname => h name (List.mem_append_left _ hname)
    have hright := ihright fun name hname => h name (List.mem_append_right _ hname)
    have hop : OneLine op.text := by cases op <;> decide
    simp only [shown_binary, oneLine_append]
    exact ⟨⟨⟨⟨⟨⟨by decide, hop⟩, by decide⟩, hleft⟩, by decide⟩, hright⟩, by decide⟩

namespace Stmt

mutual

theorem oneLine_shown :
    ∀ s : Stmt, (∀ name ∈ s.assignments.flatMap Assignment.names, OneLine name) → OneLine s.shown
  | assignment target value span => by
    intro h
    rw [assignments, List.flatMap_singleton] at h
    have htarget := h target.name List.mem_cons_self
    have hvalue := value.oneLine_shown fun name hname => h name (List.mem_cons_of_mem _ hname)
    simp only [shown_assignment, oneLine_append]
    exact ⟨⟨⟨⟨by decide, htarget⟩, by decide⟩, hvalue⟩, by decide⟩
  | compound body span => by
    intro h
    have hbody := oneLine_shownList "" body (by decide) h
    simp only [shown_compound, oneLine_append]
    exact ⟨⟨by decide, hbody⟩, by decide⟩
  | empty span => fun _ => by
    rw [shown_empty]
    decide

theorem oneLine_shownList (separator : String) :
    ∀ body : List Stmt, OneLine separator →
      (∀ name ∈ (assignmentsList body).flatMap Assignment.names, OneLine name) →
      OneLine (shownList separator body)
  | [] => fun _ _ => by
    rw [shownList_nil]
    decide
  | s :: rest => by
    intro hseparator h
    rw [assignmentsList, List.flatMap_append] at h
    have hs := oneLine_shown s fun name hname => h name (List.mem_append_left _ hname)
    have hrest := oneLine_shownList ", " rest (by decide) fun name hname =>
      h name (List.mem_append_right _ hname)
    simp only [shownList_cons, oneLine_append]
    exact ⟨⟨hseparator, hs⟩, hrest⟩

end

end Stmt

/-- **The text of a tree is one line if its names are.** -/
theorem Tree.oneLine_text (h : ∀ name ∈ tree.names, OneLine name) : OneLine tree.text := by
  rw [text_eq]
  cases tree with
  | expr e => exact e.oneLine_shown h
  | stmt s => exact s.oneLine_shown h

/-! ## Events -/

namespace Event

theorem oneLine_tokenTaken {t : Token} (h : OneLine t.text) : OneLine (tokenTaken t).text := by
  have hkind := t.kind.oneLine_description
  have hstart := oneLine_natRepr t.span.start
  unfold text
  simp only [oneLine_append]
  exact ⟨⟨⟨⟨⟨by decide, hkind⟩, by decide⟩, h⟩, by decide⟩, hstart⟩

theorem oneLine_parsed (mode : Mode) (tokens statements : Nat) :
    OneLine (parsed mode tokens statements).text := by
  have hmode : OneLine mode.title := by cases mode <;> decide
  have htokens := oneLine_natRepr tokens
  have hstatements := oneLine_natRepr statements
  unfold text
  simp only [oneLine_append]
  exact ⟨⟨⟨⟨⟨by decide, hmode⟩, by decide⟩, htokens⟩, by decide⟩, hstatements⟩

theorem oneLine_lineStarts (mode : Mode) : OneLine (lineStarts mode).text := by
  cases mode <;> decide

theorem oneLine_runFailed (faultClass : FaultClass) : OneLine (runFailed faultClass).text := by
  cases faultClass <;> decide

theorem oneLine_outcome (outcome : Outcome) : OneLine outcome.event.text := by
  cases outcome with
  | environment env => exact oneLine_append.2 ⟨by decide, oneLine_natRepr _⟩
  | value v => exact oneLine_append.2 ⟨by decide, v.oneLine_text⟩

end Event

/-- What a parser takes are tokens of its source. -/
theorem mem_items_of_taken {parser : Parser} (h : Parser.ofSource source limit = .ok parser)
    {t : Token} (ht : t ∈ (parser.parse mode).2.taken) :
    .token t ∈ (Cursor.ofSource source).items := by
  have hconserves := (parser.steps_of_parse mode).conserves (Parser.conserves_ofSource h).1
  have hreadable : t ∈ readable source := by
    rw [← hconserves]
    exact List.mem_append_left _ (List.mem_reverse.2 ht)
  rw [readable_eq, List.mem_filterMap] at hreadable
  obtain ⟨item, hitem, htoken⟩ := hreadable
  cases item with
  | token u =>
    obtain rfl := Option.some.inj htoken
    exact hitem
  | fault fault => cases htoken

/-- The events of reading a tree are lines. -/
theorem oneLine_parseTelling (source : String) (mode : Mode) (limit : Nat) :
    ∀ event ∈ (parseTelling source mode limit).2, OneLine event.text := by
  cases hparser : Parser.ofSource source limit with
  | error fault =>
    unfold parseTelling
    rw [hparser]
    intro event hevent
    cases hevent
  | ok parser =>
    have htaken : ∀ event ∈ (parser.parse mode).2.taken.reverse.map Event.tokenTaken,
        OneLine event.text := by
      intro event hevent
      obtain ⟨t, ht, rfl⟩ := List.mem_map.1 hevent
      have hitem := mem_items_of_taken hparser (List.mem_reverse.1 ht)
      exact Event.oneLine_tokenTaken (oneLine_of_mem_items hitem)
    rw [parseTelling_of_ofSource hparser]
    dsimp only
    cases htree : (parser.parse mode).1 with
    | error fault =>
      rw [List.append_nil]
      exact htaken
    | ok tree =>
      have hparse : parse source mode limit = .ok tree := by
        rw [parse, hparser]
        exact htree
      intro event hevent
      rcases List.mem_append.1 hevent with hevent | hevent
      · exact htaken event hevent
      · simp only [List.mem_cons, List.not_mem_nil, or_false] at hevent
        rcases hevent with rfl | rfl
        · exact Event.oneLine_parsed _ _ _
        · have htext := Tree.oneLine_text fun name => oneLine_of_mem_names hparse
          exact oneLine_append.2 ⟨by decide, htext⟩

namespace Output

@[simp] theorem events_append (a b : Output) : (a ++ b).events = a.events ++ b.events := rfl

/-- Each event of the output is one line. -/
def EventsOneLine (output : Output) : Prop := ∀ event ∈ output.events, OneLine event.text

theorem EventsOneLine.append {a b : Output} (ha : a.EventsOneLine) (hb : b.EventsOneLine) :
    (a ++ b).EventsOneLine := by
  intro event hevent
  rcases List.mem_append.1 hevent with hevent | hevent
  · exact ha event hevent
  · exact hb event hevent

theorem eventsOneLine_of_nil {output : Output} (h : output.events = []) :
    output.EventsOneLine := by
  intro event hevent
  rw [h] at hevent
  cases hevent

theorem eventsOneLine_single {event : Event} (h : OneLine event.text) :
    (tell [event]).EventsOneLine := by
  intro other hother
  obtain rfl := List.mem_singleton.1 hother
  exact h

end Output

namespace Job

/-- **The events of a run are lines.** -/
theorem eventsOneLine_run (job : Job) : job.run.output.EventsOneLine := by
  have htold : (Output.tell (parseTelling job.source job.mode job.limit).2).EventsOneLine :=
    oneLine_parseTelling job.source job.mode job.limit
  unfold run
  dsimp only
  split
  · next outcome _ =>
    exact (htold.append (Output.eventsOneLine_single (Event.oneLine_outcome outcome))).append
      (Output.eventsOneLine_of_nil rfl)
  · next fault _ =>
    exact (htold.append (Output.eventsOneLine_single (Event.oneLine_runFailed _))).append
      (Output.eventsOneLine_of_nil rfl)

theorem eventsOneLine_showTree (job : Job) : job.showTree.output.EventsOneLine := by
  have htold : (Output.tell (parseTelling job.source job.mode job.limit).2).EventsOneLine :=
    oneLine_parseTelling job.source job.mode job.limit
  unfold showTree
  dsimp only
  split
  · exact htold.append (Output.eventsOneLine_of_nil rfl)
  · exact htold.append (Output.eventsOneLine_of_nil rfl)

end Job

namespace Session

variable {limit : Nat}

theorem eventsOneLine_respond (limit : Nat) (line : Line) :
    (respond limit line).1.EventsOneLine := by
  cases line with
  | source text =>
    exact (Output.eventsOneLine_single (Event.oneLine_lineStarts _)).append
      (Job.eventsOneLine_run _)
  | _ => exact Output.eventsOneLine_of_nil rfl

theorem eventsOneLine_outputFrom (limit : Nat) (lines : List (List UInt8)) :
    (outputFrom limit lines).EventsOneLine := by
  induction lines with
  | nil => exact Output.eventsOneLine_of_nil rfl
  | cons line rest ih =>
    have hprompt : (Output.print prompt).EventsOneLine := Output.eventsOneLine_of_nil rfl
    have hrespond := eventsOneLine_respond limit (.ofBytes line)
    rw [outputFrom]
    split
    · next output hoff =>
      rw [hoff] at hrespond
      exact (hprompt.append hrespond).append ih
    · next output hoff =>
      rw [hoff] at hrespond
      exact hprompt.append hrespond

/-- **The events of a session are lines.** -/
theorem eventsOneLine_output (limit : Nat) (input : List UInt8) :
    (output limit input).EventsOneLine :=
  .append (Output.eventsOneLine_of_nil rfl) (eventsOneLine_outputFrom limit _)

end Session

end MiniPascal
