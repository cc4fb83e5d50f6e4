/-
# Blanks around a line

A line without the blanks at both ends has the same items, moved by the number of blanks that were
in front.  Blanks behind a lexeme end it no sooner and no later than the end of the text does, with
one exception: a comment that nothing closes goes on over them.  So offsets are moved down by the
blanks in front and then, where they are beyond the end of what is left, down to that end.  Main
statements:

* `Lexeme.Fits.append` : a lexeme stays what it is with more behind it;
* `Cursor.items_between_blanks` : what is read between blanks;
* `Line.items_trimmed` : a trimmed line has the same items, up to their places.
-/
import MiniPascal.Proofs.Lexical.Trivia
import MiniPascal.Proofs.Places.Parsing
import MiniPascal.Session

namespace MiniPascal

variable {text rest behind : List Char}

/-! ## Lexemes with more behind them -/

theorem Stops.append {p : Char → Bool} (h : Stops p rest) (hbehind : Stops p behind) :
    Stops p (rest ++ behind) := by
  cases rest with
  | nil => exact hbehind
  | cons c rest => exact h

theorem Cut.not_fractionAhead_append (hbehind : Cut behind) (h : ¬FractionAhead rest) :
    ¬FractionAhead (rest ++ behind) := by
  rintro ⟨d, tail, htext, hd⟩
  rcases rest with _ | ⟨c, _ | ⟨e, rest⟩⟩
  · exact hbehind.not_fractionAhead ⟨d, tail, htext, hd⟩
  · obtain ⟨-, rfl⟩ := List.cons.inj htext
    rw [hbehind.stops_digit d rfl] at hd
    cases hd
  · obtain ⟨rfl, htail⟩ := List.cons.inj htext
    obtain ⟨rfl, -⟩ := List.cons.inj htail
    exact h ⟨e, rest, rfl, hd⟩

/-- A token stays what it is with more behind it. -/
theorem Kind.Written.append {kind : Kind} (h : kind.Written text rest) (hbehind : Cut behind) :
    kind.Written text (rest ++ behind) := by
  cases kind with
  | symbol s =>
    obtain ⟨htext, hrest⟩ := h
    refine ⟨htext, fun hcolon hhead => ?_⟩
    cases rest with
    | nil => exact (hbehind '=' hhead).2.2.1 rfl
    | cons c rest => exact hrest hcolon hhead
  | keyword k =>
    obtain ⟨hword, hrest, htext⟩ := h
    exact ⟨hword, hrest.append hbehind.stops_wordPart, htext⟩
  | identifier =>
    obtain ⟨hword, hrest, htext⟩ := h
    exact ⟨hword, hrest.append hbehind.stops_wordPart, htext⟩
  | integer value =>
    obtain ⟨hdigits, hrest, hfraction, hvalue⟩ := h
    exact ⟨hdigits, hrest.append hbehind.stops_digit, hbehind.not_fractionAhead_append hfraction,
      hvalue⟩
  | real bits =>
    obtain ⟨whole, fraction, htext, hwhole, hfraction, hrest, hbits⟩ := h
    exact ⟨whole, fraction, htext, hwhole, hfraction, hrest.append hbehind.stops_digit, hbits⟩

/-- **A lexeme stays what it is with more behind it**, unless it is a comment that nothing closes,
which goes on over it. -/
theorem Lexeme.Fits.append {l : Lexeme} (h : l.Fits) (hbehind : Cut behind)
    (hclosing : '}' ∉ behind) :
    Fits ⟨l.reading, l.text, l.rest ++ behind⟩ ∨
      l.reading = .error .unterminatedComment ∧ l.rest = [] ∧
        Fits ⟨.error .unterminatedComment, l.text ++ behind, []⟩ := by
  cases h with
  | token h => exact Or.inl (.token (h.append hbehind))
  | @fault cause text rest h =>
    cases cause with
    | unexpectedCharacter c => exact Or.inl (.fault h)
    | unterminatedComment =>
      obtain ⟨body, rfl, hbody, rfl⟩ := h
      refine Or.inr ⟨rfl, rfl, .fault ⟨body ++ behind, rfl, ?_, rfl⟩⟩
      intro hmem
      rcases List.mem_append.1 hmem with hmem | hmem
      · exact hbody hmem
      · exact hclosing hmem
    | integerOutOfRange digits =>
      obtain ⟨hdigits, hrest, hfraction, hlarge, htext⟩ := h
      exact Or.inl (.fault ⟨hdigits, hrest.append hbehind.stops_digit,
        hbehind.not_fractionAhead_append hfraction, hlarge, htext⟩)
    | _ => exact h.elim

/-! ## Blanks -/

/-- There are only blanks. -/
def Blank (text : List Char) : Prop := ∀ c ∈ text, isBlank c = true

theorem Blank.trivia (h : Blank text) : Trivia text := by
  induction text with
  | nil => exact .nil
  | cons c text ih =>
    obtain ⟨hc, htext⟩ := List.forall_mem_cons.1 h
    exact .blank hc (ih htext)

theorem Blank.parted (h : Blank text) : Parted text := by
  intro c hc
  rw [parts, h c (List.mem_of_mem_head? hc), Bool.true_or]

theorem Blank.not_mem_closing (h : Blank text) : '}' ∉ text := by
  intro hmem
  exact absurd (h '}' hmem) (by decide)

/-! ## Items between blanks -/

/-- Where an offset is moved if `front` characters are taken off and the text then ends at
`stop`. -/
def trimOffset (front stop offset : Nat) : Nat := min (offset - front) stop

theorem monotone_trimOffset (front stop : Nat) : Monotone (trimOffset front stop) := by
  intro x y hxy
  unfold trimOffset
  omega

/-- Characters taken off are characters moved past. -/
theorem trimOffset_add (front stop offset : Nat) :
    trimOffset front stop (front + offset) = trimOffset 0 stop offset := by
  unfold trimOffset
  omega

/-- The end is moved to the end of what is left. -/
theorem single_relocate (front stop rest : Nat) :
    (Span.single (front + stop + rest)).relocate (trimOffset front stop) =
      (Span.single stop).relocate (trimOffset 0 stop) := by
  have hstart : trimOffset front stop (front + stop + rest) = trimOffset 0 stop stop := by
    unfold trimOffset
    omega
  have hstop : trimOffset front stop (front + stop + rest + 1) = trimOffset 0 stop (stop + 1) := by
    unfold trimOffset
    omega
  rw [Span.single, Span.relocate, hstart, hstop]
  rfl

/-- A lexeme is the same item with characters taken off in front of it, up to its place. -/
theorem itemAt_relocate (front stop offset : Nat) (reading : Except Cause Kind)
    (text rest rest' : List Char) :
    (Cursor.itemAt (front + offset) ⟨reading, text, rest⟩).relocate (trimOffset front stop) =
      (Cursor.itemAt offset ⟨reading, text, rest'⟩).relocate (trimOffset 0 stop) := by
  have hspan : (Span.mk (front + offset) (front + offset + text.length)).relocate
        (trimOffset front stop) =
      (Span.mk offset (offset + text.length)).relocate (trimOffset 0 stop) := by
    rw [Nat.add_assoc, Span.relocate, trimOffset_add, trimOffset_add]
    rfl
  cases reading with
  | error cause => exact congrArg (fun span => Item.fault ⟨cause, span⟩) hspan
  | ok kind => exact congrArg (fun span => Item.token ⟨kind, String.ofList text, span⟩) hspan

/-- **What is read between blanks** is what is read without the blanks, up to the places. -/
theorem Cursor.items_between_blanks (hbehind : Blank behind) (front offset : Nat)
    (text : List Char) :
    (items ⟨front + offset, text ++ behind⟩).map
        (Item.relocate (trimOffset front (offset + text.length))) =
      (items ⟨offset, text⟩).map (Item.relocate (trimOffset 0 (offset + text.length))) := by
  generalize hstop : offset + text.length = stop
  -- A gap and the lexeme behind it are read at once, so the text shrinks by more than a character.
  induction hn : text.length using Nat.strongRecOn generalizing text offset with
  | ind n ih =>
    obtain ⟨gap, rest, rfl, hgap, hclear⟩ := exists_trivia text
    rw [List.append_assoc, items_trivia hgap, items_trivia hgap, Nat.add_assoc front]
    rw [List.length_append] at hn hstop
    generalize hstart : offset + gap.length = start
    rcases hclear.exists_fits with rfl | ⟨⟨reading, word, rest⟩, hfits, rfl⟩
    · have hblank := items_trivia hbehind.trivia (front + start) []
      rw [List.append_nil] at hblank
      rw [List.nil_append, hblank, items_nil, items_nil]
      rfl
    · have hnonempty : 0 < word.length := by
        obtain ⟨c, tail, rfl, -⟩ := hfits.isFirst
        exact Nat.succ_pos _
      have hitems := items_lexeme hfits start
      dsimp only at hitems hn hstop ⊢
      rw [List.length_append] at hn hstop
      rw [hitems, List.map_cons]
      rcases hfits.append hbehind.parted.cut hbehind.not_mem_closing with hfits' | ⟨rfl, rfl, hfits'⟩
      · have hitems' := items_lexeme hfits' (front + start)
        dsimp only at hitems'
        rw [List.append_assoc, hitems', List.map_cons, Nat.add_assoc front]
        refine congrArg₂ List.cons (itemAt_relocate front stop start _ _ _ _) ?_
        exact ih rest.length (by omega) _ rest (by omega) rfl
      · -- The comment ends where the text does, with the blanks or without them.
        have hitems' := items_lexeme hfits' (front + start)
        dsimp only at hitems'
        rw [List.append_nil, items_nil] at hitems'
        rw [List.append_nil, hitems', items_nil]
        have hspan : (Span.mk (front + start) (front + start + (word ++ behind).length)).relocate
              (trimOffset front stop) =
            (Span.mk start (start + word.length)).relocate (trimOffset 0 stop) := by
          have hstop' : trimOffset front stop (front + start + (word ++ behind).length) =
              trimOffset 0 stop (start + word.length) := by
            rw [List.length_nil] at hstop
            rw [List.length_append]
            unfold trimOffset
            omega
          rw [Span.relocate, trimOffset_add, hstop']
          rfl
        exact congrArg (fun span => [Item.fault ⟨.unterminatedComment, span⟩]) hspan

/-! ## Trimmed lines -/

/-- A text is what is trimmed from it and what is left. -/
theorem trim_append (text : List Char) :
    ∃ behind, Blank behind ∧ text = text.takeWhile isBlank ++ trim text ++ behind := by
  generalize htail : text.dropWhile isBlank = tail
  refine ⟨(tail.reverse.takeWhile isBlank).reverse, ?_, ?_⟩
  · intro c hc
    exact of_mem_takeWhile (List.mem_reverse.1 hc)
  · have hsplit : tail = trim text ++ (tail.reverse.takeWhile isBlank).reverse := by
      rw [trim, htail, ← List.reverse_append, List.takeWhile_append_dropWhile, List.reverse_reverse]
    calc text = text.takeWhile isBlank ++ tail := by
          rw [← htail, List.takeWhile_append_dropWhile]
      _ = text.takeWhile isBlank ++ (trim text ++ (tail.reverse.takeWhile isBlank).reverse) := by
          rw [← hsplit]
      _ = _ := (List.append_assoc _ _ _).symm

namespace Line

/-- The line without the blanks at both ends. -/
def trimmed (line : String) : String := String.ofList (trim line.toList)

/-- The number of blanks in front of a line. -/
def indent (line : String) : Nat := (line.toList.takeWhile isBlank).length

/-- What a session runs is a trimmed line. -/
theorem eq_trimmed_of_source {line text : String} (h : ofText line = .source text) :
    text = trimmed line := by
  unfold ofText at h
  dsimp only at h
  split at h
  · cases h
  · split at h
    · cases h
    · exact (Line.source.inj h).symm

/-- **A trimmed line has the same items**, up to their places. -/
theorem items_trimmed (line : String) :
    (Cursor.ofSource line).items.map
        (Item.relocate (trimOffset (indent line) (trimmed line).length)) =
      (Cursor.ofSource (trimmed line)).items.map
        (Item.relocate (trimOffset 0 (trimmed line).length)) := by
  obtain ⟨behind, hbehind, hline⟩ := trim_append line.toList
  have hfront : Blank (line.toList.takeWhile isBlank) := fun c hc => of_mem_takeWhile hc
  have hitems : (Cursor.ofSource line).items =
      Cursor.items ⟨indent line + 0, trim line.toList ++ behind⟩ := by
    have hskip := Cursor.items_trivia hfront.trivia 0 (trim line.toList ++ behind)
    rw [← List.append_assoc, ← hline, Nat.zero_add] at hskip
    exact hskip
  have hbetween := Cursor.items_between_blanks hbehind (indent line) 0 (trim line.toList)
  rw [Nat.zero_add] at hbetween
  rw [hitems, trimmed, String.length_ofList, hbetween, Cursor.ofSource, String.toList_ofList]

/-- The end of a line is moved to the end of the trimmed one. -/
theorem stop_trimmed (line : String) :
    (Span.single line.length).relocate (trimOffset (indent line) (trimmed line).length) =
      (Span.single (trimmed line).length).relocate (trimOffset 0 (trimmed line).length) := by
  obtain ⟨behind, -, hline⟩ := trim_append line.toList
  have hlength : line.length = indent line + (trimmed line).length + behind.length := by
    rw [← String.length_toList, trimmed, String.length_ofList, indent, ← List.length_append,
      ← List.length_append, ← hline]
  rw [hlength]
  exact single_relocate _ _ _

end Line

end MiniPascal
