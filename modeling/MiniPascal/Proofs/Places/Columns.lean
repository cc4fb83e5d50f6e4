/-
# Lines and columns of a source

A text is cut into lines behind its line ends.  A line end is one of seven characters, but a
carriage return and a line feed behind it are a single one; it belongs to the line that it ends, and
the text behind the last one is a line only if it is not empty.  A place in the text says in which of
these lines it is, and how many characters of the line are in front of it.  Main statements:

* `exists_ruled` : every text is cut into lines;
* `locates_walk` : walking into a text leads to the place of the position;
* `Locates.unique` : no two positions have the same place;
* `locations_exact` : where the reports about a source say that the culprits are.
-/
import MiniPascal.Proofs.Text.Decoding

namespace MiniPascal

/-! ## Lines -/

/-- The characters that end a line. -/
def lineEnds : List Char := ['\n', '\r', '\x0b', '\x0c', '\u0085', '\u2028', '\u2029']

/-- No line ends within the text. -/
def Unended (text : List Char) : Prop := ∀ c ∈ text, c ∉ lineEnds

/-- The characters end a line in front of the rest of the text. -/
inductive LineEnd : List Char → List Char → Prop
  /-- A carriage return and the line feed behind it end the line together. -/
  | pair {rest : List Char} : LineEnd ['\r', '\n'] rest
  /-- Any other line end does so alone. -/
  | alone {c : Char} {rest : List Char} :
      c ∈ lineEnds → (c = '\r' → rest.head? ≠ some '\n') → LineEnd [c] rest

/-- The text is cut into the lines. -/
inductive Ruled : List Char → List (List Char) → Prop
  /-- There is no line behind the last line end. -/
  | nil : Ruled [] []
  /-- The last line may do without a line end. -/
  | unended {body : List Char} : body ≠ [] → Unended body → Ruled body [body]
  /-- A line goes up to its end, and that belongs to it. -/
  | cons {body ending rest : List Char} {lines : List (List Char)} :
      Unended body → LineEnd ending rest → Ruled rest lines →
      Ruled (body ++ ending ++ rest) ((body ++ ending) :: lines)

variable {text body ending rest : List Char} {lines : List (List Char)}

theorem isLineEnd_iff {c : Char} : isLineEnd c = true ↔ c ∈ lineEnds := by
  simp [isLineEnd, lineEnds, or_assoc]

theorem LineEnd.ne_nil (h : LineEnd ending rest) : ending ≠ [] := by
  cases h <;> exact List.cons_ne_nil _ _

theorem Ruled.eq_nil (h : Ruled text lines) (htext : text = []) : lines = [] := by
  cases h with
  | nil => rfl
  | unended hne _ => exact absurd htext hne
  | cons _ hending _ =>
    rw [List.append_eq_nil_iff, List.append_eq_nil_iff] at htext
    exact absurd htext.1.2 hending.ne_nil

/-- The lines make up the text. -/
theorem Ruled.flatten_eq (h : Ruled text lines) : lines.flatten = text := by
  induction h with
  | nil => rfl
  | unended _ _ => simp
  | cons _ _ _ ih => rw [List.flatten_cons, ih]

/-- **Every text is cut into lines.** -/
theorem exists_ruled (text : List Char) : ∃ lines, Ruled text lines := by
  induction hn : text.length using Nat.strongRecOn generalizing text with
  | ind n ih =>
    -- The first line goes up to the first character that ends a line.
    let inside : Char → Bool := fun c => !decide (c ∈ lineEnds)
    have hunended : Unended (text.takeWhile inside) := by
      intro c hc
      simpa [inside] using of_mem_takeWhile hc
    have hsplit : text.takeWhile inside ++ text.dropWhile inside = text :=
      text.takeWhile_append_dropWhile
    rcases hback : text.dropWhile inside with _ | ⟨c, rest⟩
    · rw [hback, List.append_nil] at hsplit
      rw [hsplit] at hunended
      rcases text with _ | ⟨c, rest⟩
      · exact ⟨[], .nil⟩
      · exact ⟨_, .unended (List.cons_ne_nil c rest) hunended⟩
    · have hc : c ∈ lineEnds := by
        have hstops := stops_dropWhile inside text c (by rw [hback]; rfl)
        simpa [inside] using hstops
      rw [hback] at hsplit
      have hlength := congrArg List.length hsplit
      rw [List.length_append, List.length_cons, hn] at hlength
      by_cases hpair : c = '\r' ∧ rest.head? = some '\n'
      · obtain ⟨rfl, hhead⟩ := hpair
        obtain ⟨behind, rfl⟩ := List.head?_eq_some_iff.1 hhead
        rw [List.length_cons] at hlength
        obtain ⟨lines, hlines⟩ := ih behind.length (by omega) behind rfl
        rw [← hsplit]
        have hruled := Ruled.cons hunended .pair hlines
        rw [List.append_assoc] at hruled
        exact ⟨_, hruled⟩
      · obtain ⟨lines, hlines⟩ := ih rest.length (by omega) rest rfl
        have halone : c = '\r' → rest.head? ≠ some '\n' := fun hreturn hhead =>
          hpair ⟨hreturn, hhead⟩
        rw [← hsplit]
        have hruled := Ruled.cons hunended (.alone hc halone) hlines
        rw [List.append_assoc] at hruled
        exact ⟨_, hruled⟩

/-! ## Walking -/

namespace Place

variable (place : Place)

theorem walk_zero (text : List Char) : walk place text 0 = place := by
  cases text <;> rfl

/-- Where no line ends, the column counts the characters. -/
theorem walk_body (h : Unended body) (rest : List Char) (n : Nat) :
    walk place (body ++ rest) (body.length + n) =
      walk ⟨place.line, place.column + body.length⟩ rest n := by
  induction body generalizing place with
  | nil =>
    rw [List.length_nil, Nat.zero_add]
    rfl
  | cons c body ih =>
    have hc : isLineEnd c = false := by
      rw [← Bool.not_eq_true, isLineEnd_iff]
      exact h c List.mem_cons_self
    have hbreak : breaksBefore c (body ++ rest) = false := by simp [breaksBefore, hc]
    rw [List.length_cons, Nat.add_right_comm, List.cons_append, walk, hbreak,
      if_neg Bool.false_ne_true, ih _ fun d hd => h d (List.mem_cons_of_mem _ hd)]
    dsimp only
    rw [Nat.add_assoc place.column, Nat.add_comm 1]

theorem walk_inside (h : Unended body) (rest : List Char) {n : Nat} (hn : n ≤ body.length) :
    walk place (body ++ rest) n = ⟨place.line, place.column + n⟩ := by
  have hfront : Unended (body.take n) := fun c hc => h c (List.mem_of_mem_take hc)
  have hwalk := walk_body place hfront (body.drop n ++ rest) 0
  rw [← List.append_assoc, List.take_append_drop, List.length_take, Nat.min_eq_left hn,
    walk_zero] at hwalk
  exact hwalk

/-- Up to the last character of a line the column counts the characters. -/
theorem walk_line_of_lt (hbody : Unended body) (hending : LineEnd ending rest) {n : Nat}
    (hn : n < (body ++ ending).length) :
    walk place (body ++ ending ++ rest) n = ⟨place.line, place.column + n⟩ := by
  rw [List.append_assoc]
  by_cases hinside : n ≤ body.length
  · exact walk_inside place hbody _ hinside
  · cases hending with
    | pair =>
      have hn' : n = body.length + 1 := by
        rw [List.length_append] at hn
        have : ['\r', '\n'].length = 2 := rfl
        omega
      rw [hn', walk_body place hbody]
      rfl
    | alone _ _ =>
      rw [List.length_append, List.length_singleton] at hn
      omega

/-- Behind the end of a line the next one starts. -/
theorem walk_line (hbody : Unended body) (hending : LineEnd ending rest) (hrest : rest ≠ [])
    (n : Nat) :
    walk place (body ++ ending ++ rest) ((body ++ ending).length + n) =
      walk ⟨place.line + 1, 1⟩ rest n := by
  rw [List.append_assoc, List.length_append, Nat.add_assoc, walk_body place hbody]
  obtain ⟨d, behind, rfl⟩ := List.exists_cons_of_ne_nil hrest
  cases hending with
  | pair =>
    rw [show ['\r', '\n'].length + n = n + 1 + 1 by rw [Nat.add_comm]; rfl]
    rfl
  | @alone c _ hc halone =>
    have hbreak : breaksBefore c (d :: behind) = true := by
      simp only [breaksBefore, isLineEnd_iff.2 hc, List.isEmpty_cons, Bool.not_false, Bool.and_true,
        Bool.true_and, Bool.not_eq_true', Bool.and_eq_false_iff, decide_eq_false_iff_not]
      by_cases hreturn : c = '\r'
      · exact Or.inr (halone hreturn)
      · exact Or.inl hreturn
    rw [List.length_singleton, Nat.add_comm 1, List.singleton_append, walk, hbreak, if_pos rfl]

/-- Behind the end of the last line no line starts. -/
theorem walk_line_end (hbody : Unended body) (hending : LineEnd ending []) :
    walk place (body ++ ending) (body ++ ending).length =
      ⟨place.line, place.column + (body ++ ending).length⟩ := by
  rw [List.length_append, walk_body place hbody]
  cases hending with
  | pair => rfl
  | @alone c _ hc _ =>
    have hbreak : breaksBefore c [] = false := by simp [breaksBefore]
    rw [List.length_singleton, walk, hbreak, if_neg Bool.false_ne_true, walk_zero]
    rfl

end Place

/-! ## Places -/

/-- The place is in one of the lines, of which the first one has the given number, and behind as
many characters of the lines as the position says.  It is in front of a character of its line, or at
the end of the last one. -/
def Locates (first : Nat) (lines : List (List Char)) (position : Nat) (place : Place) : Prop :=
  ∃ before line after column, lines = before ++ line :: after ∧
    place = ⟨first + before.length, column + 1⟩ ∧ before.flatten.length + column = position ∧
    (column < line.length ∨ after = [] ∧ column = line.length)

/-- In a text with one line more in front, the place is one line further down. -/
theorem Locates.cons {first position : Nat} {place : Place}
    (h : Locates (first + 1) lines position place) (line : List Char) :
    Locates first (line :: lines) (line.length + position) place := by
  obtain ⟨before, found, after, column, rfl, rfl, rfl, hcolumn⟩ := h
  refine ⟨line :: before, found, after, column, rfl, ?_, ?_, hcolumn⟩
  · rw [List.length_cons, Nat.add_comm before.length, Nat.add_assoc]
  · rw [List.flatten_cons, List.length_append, Nat.add_assoc]

/-- **Walking into a text leads to the place of the position.** -/
theorem locates_walk (h : Ruled text lines) (hne : text ≠ []) {position : Nat}
    (hposition : position ≤ text.length) (first : Nat) :
    Locates first lines position (.walk ⟨first, 1⟩ text position) := by
  induction h generalizing position first with
  | nil => exact absurd rfl hne
  | @unended body _ hbody =>
    have hwalk := Place.walk_inside ⟨first, 1⟩ hbody [] hposition
    rw [List.append_nil] at hwalk
    rw [hwalk, Nat.add_comm 1]
    refine ⟨[], body, [], position, rfl, rfl, Nat.zero_add _, ?_⟩
    exact (Nat.lt_or_eq_of_le hposition).imp id fun heq => ⟨rfl, heq⟩
  | @cons body ending rest lines hbody hending hlines ih =>
    rcases Nat.lt_or_ge position (body ++ ending).length with hlt | hge
    · rw [Place.walk_line_of_lt _ hbody hending hlt, Nat.add_comm 1]
      exact ⟨[], _, lines, position, rfl, rfl, Nat.zero_add _, Or.inl hlt⟩
    · obtain ⟨n, rfl⟩ := Nat.exists_eq_add_of_le hge
      have htotal : (body ++ ending ++ rest).length = (body ++ ending).length + rest.length :=
        List.length_append
      rw [htotal, Nat.add_le_add_iff_left] at hposition
      by_cases hrest : rest = []
      · subst hrest
        obtain rfl : n = 0 := Nat.le_zero.1 hposition
        obtain rfl := hlines.eq_nil rfl
        rw [List.append_nil, Nat.add_zero, Place.walk_line_end _ hbody hending, Nat.add_comm 1]
        exact ⟨[], _, [], _, rfl, rfl, Nat.zero_add _, Or.inr ⟨rfl, rfl⟩⟩
      · rw [Place.walk_line _ hbody hending hrest]
        exact (ih hrest hposition (first + 1)).cons _

/-- **No two positions have the same place.** -/
theorem Locates.unique {first position other : Nat} {place : Place}
    (h : Locates first lines position place) (h' : Locates first lines other place) :
    position = other := by
  obtain ⟨before, line, after, column, hlines, hplace, rfl, -⟩ := h
  obtain ⟨before', line', after', column', hlines', hplace', rfl, -⟩ := h'
  obtain ⟨hline, hcolumn⟩ := Place.mk.inj (hplace.symm.trans hplace')
  obtain ⟨rfl, -⟩ := List.append_inj (hlines.symm.trans hlines') (by omega)
  omega

/-! ## Reports -/

/-- Numbers with a colon between them are read apart. -/
theorem repr_colon_repr_inj {k l m n : Nat}
    (h : k.repr ++ ":" ++ l.repr = m.repr ++ ":" ++ n.repr) : k = m ∧ l = n := by
  have hdigits : ∀ i : Nat, ∀ c ∈ i.repr.toList, c.isDigit = true := by
    intro i c hc
    rw [Nat.toList_repr] at hc
    exact (isDigits_toDigits i).2 c hc
  have hinjective : ∀ {i j : Nat}, i.repr.toList = j.repr.toList → i = j := by
    intro i j hij
    rw [Nat.toList_repr, Nat.toList_repr] at hij
    exact toDigits_injective hij
  have hstops : ∀ i : Nat, Stops Char.isDigit (':' :: i.repr.toList) := by
    rintro i c hc
    obtain rfl := Option.some.inj hc
    rfl
  have hlist := congrArg String.toList h
  simp only [String.toList_append, List.append_assoc] at hlist
  obtain ⟨hfront, hback⟩ := run_append_inj (hdigits k) (hdigits m) (hstops l) (hstops n) hlist
  exact ⟨hinjective hfront, hinjective (List.cons.inj hback).2⟩

namespace Diagnostic

variable (d : Diagnostic) {source : String} (file? : Option String)

/-- The location names the line and the column of the place. -/
theorem location?_report (h : source ≠ "") :
    (d.report source file?).location? = some (file?.getD noFile ++ ":" ++
      ((d.place source.toList).line.repr ++ ":" ++ (d.place source.toList).column.repr)) := by
  have hne : source.toList.isEmpty = false := by
    rwa [List.isEmpty_eq_false_iff, ne_eq, String.toList_eq_nil_iff]
  unfold report
  simp only [hne, Bool.false_eq_true, if_false, String.append_assoc]

/-- The place of the culprit is that of its position, which is in the source or at its end. -/
theorem locates_place (h : source ≠ "") (hlines : Ruled source.toList lines) :
    Locates 1 lines (min d.span.start source.length) (d.place source.toList) := by
  have hposition : min d.span.start source.length ≤ source.toList.length := by
    rw [String.length_toList]
    exact Nat.min_le_right _ _
  have hne : source.toList ≠ [] := mt String.toList_eq_nil_iff.1 h
  have hwalk := locates_walk hlines hne hposition 1
  rwa [← String.length_toList] at hwalk ⊢

/-- **What is marked starts at the culprit, ends with it, and stays in the source.** -/
theorem exists_marked (text : List Char) :
    ∃ marked, d.marked? text = some marked ∧ marked.start = min d.span.start text.length ∧
      marked.stop = max marked.start (min d.span.stop text.length) ∧
      marked.start ≤ marked.stop ∧ marked.stop ≤ text.length := by
  have hstart : d.offset text ≤ text.length := Nat.min_le_right _ _
  refine ⟨⟨d.offset text, max (d.offset text) (min d.span.stop text.length)⟩, ?_, rfl, rfl,
    Nat.le_max_left _ _, ?_⟩
  · rw [marked?, Nat.max_eq_left hstart, clamp?, if_neg (Nat.not_lt.2 hstart)]
    rfl
  · exact Nat.max_le.2 ⟨hstart, Nat.min_le_right _ _⟩

end Diagnostic

/-- **Where the reports about a source say that the culprits are.**  The stretch that is marked is
that of the culprit, moved into the source: there always is one, whatever the span of the culprit,
and it ends where the culprit does, as far as that is in the source and not in front of its start.
The line that is told is a line of the source, and the characters of the lines in front of it,
together with those in front of the column, are as many as are in front of the culprit, or in the
whole source if that is where it starts or if it starts beyond.  The column is that of a character
of the line, but for the end of the source, which is told to be in the last line.  So no two
positions are told to be at the same location. -/
theorem locations_exact (source : String) :
    (∃ lines, Ruled source.toList lines) ∧
    (∀ d : Diagnostic, ∃ marked, d.marked? source.toList = some marked ∧
      d.place source.toList = .ofPosition source.toList marked.start ∧
      marked.start = min d.span.start source.length ∧
      marked.stop = max marked.start (min d.span.stop source.length) ∧
      marked.start ≤ marked.stop ∧ marked.stop ≤ source.length) ∧
    (source ≠ "" → ∀ lines, Ruled source.toList lines → ∀ (d : Diagnostic) file?,
      ∃ before line after column, lines = before ++ line :: after ∧
        (d.report source file?).location? = some (file?.getD Diagnostic.noFile ++ ":" ++
          ((before.length + 1).repr ++ ":" ++ (column + 1).repr)) ∧
        before.flatten.length + column = min d.span.start source.length ∧
        (min d.span.start source.length < source.length → column < line.length) ∧
        (min d.span.start source.length = source.length → after = [])) ∧
    (source ≠ "" → ∀ (d d' : Diagnostic) file?,
      (d.report source file?).location? = (d'.report source file?).location? →
      min d.span.start source.length = min d'.span.start source.length) := by
  refine ⟨exists_ruled _, ?_, ?_, ?_⟩
  · intro d
    obtain ⟨marked, hmarked, hstart, hstop, hforward, hinside⟩ := d.exists_marked source.toList
    refine ⟨marked, hmarked, ?_, ?_, ?_, hforward, ?_⟩
    · rw [hstart]
      rfl
    · rwa [String.length_toList] at hstart
    · rwa [String.length_toList] at hstop
    · rwa [String.length_toList] at hinside
  · intro hne lines hlines d file?
    obtain ⟨before, line, after, column, rfl, hplace, hposition, hcolumn⟩ :=
      d.locates_place hne hlines
    have hlength := congrArg List.length hlines.flatten_eq
    rw [List.flatten_append, List.length_append, List.flatten_cons, List.length_append,
      String.length_toList] at hlength
    refine ⟨before, line, after, column, rfl, ?_, hposition, ?_, ?_⟩
    · rw [d.location?_report file? hne, hplace, Nat.add_comm 1]
    · intro hlt
      rcases hcolumn with hcolumn | ⟨rfl, rfl⟩
      · exact hcolumn
      · rw [List.flatten_nil, List.length_nil] at hlength
        omega
    · intro heq
      rcases hcolumn with hcolumn | ⟨hafter, -⟩
      · omega
      · exact hafter
  · intro hne d d' file? hsame
    obtain ⟨lines, hlines⟩ := exists_ruled source.toList
    rw [d.location?_report file? hne, d'.location?_report file? hne, Option.some.injEq,
      String.append_right_inj] at hsame
    obtain ⟨hline, hcolumn⟩ := repr_colon_repr_inj hsame
    have hplace : d.place source.toList = d'.place source.toList := by
      cases hd : d.place source.toList
      cases hd' : d'.place source.toList
      rw [hd, hd'] at hline hcolumn
      dsimp only at hline hcolumn
      rw [hline, hcolumn]
    have hlocates := d.locates_place hne hlines
    rw [hplace] at hlocates
    exact hlocates.unique (d'.locates_place hne hlines)

/-- In a source of two lines, of which a carriage return and a line feed end the first one together,
the culprit is the only character of the second line. -/
theorem locations_exact_second_line :
    let source := "a\r\nb"
    let lines := [['a', '\r', '\n'], ['b']]
    let d : Diagnostic := ⟨.syntactic, ⟨3, 4⟩, "Unexpected identifier after end of expression", none⟩
    source ≠ "" ∧ Ruled source.toList lines ∧
      (∃ marked, d.marked? source.toList = some marked ∧ marked.start = 3 ∧ marked.stop = 4) ∧
      ∃ before line after column, lines = before ++ line :: after ∧
        (d.report source none).location? = some ("<input>:" ++
          ((before.length + 1).repr ++ ":" ++ (column + 1).repr)) ∧
        before.flatten.length + column = 3 ∧ column < line.length := by
  intro source lines d
  have hne : source ≠ "" := by decide
  have htext : source.toList = ['a'] ++ ['\r', '\n'] ++ ['b'] := by decide
  have hlength : source.length = 4 := by decide
  have hculprit : min d.span.start 4 = 3 := rfl
  have hfirst : Unended ['a'] := by simp [Unended, lineEnds]
  have hsecond : Unended ['b'] := by simp [Unended, lineEnds]
  have hlast : Ruled ['b'] [['b']] := .unended (List.cons_ne_nil _ _) hsecond
  have hlines : Ruled source.toList lines := by
    rw [htext]
    exact .cons hfirst .pair hlast
  obtain ⟨-, hmarked, hlocation, -⟩ := locations_exact source
  obtain ⟨marked, hsome, -, hstart, hstop, -, -⟩ := hmarked d
  obtain ⟨before, line, after, column, hsplit, hreport, hposition, hcolumn, -⟩ :=
    hlocation hne lines hlines d none
  rw [hlength, hculprit] at hstart hposition
  rw [hlength, hstart] at hstop
  exact ⟨hne, hlines, ⟨marked, hsome, hstart, hstop⟩, before, line, after, column, hsplit, hreport,
    hposition, hcolumn (by decide)⟩

end MiniPascal
