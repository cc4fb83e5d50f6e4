/-
# How lexemes are written

The lexical grammar, told without reference to reading: how the tokens of each kind are written and
what may not stand behind them, and which characters make up no token.  A token is the longest one
at its place, so what may not stand behind it is what would prolong it.  Main statements:

* `Lexeme.IsFirst.fits` : the first lexeme of a text is as the lexical grammar says;
* `Lexeme.Fits.isFirst` : and what the lexical grammar says determines the first lexeme;
* `Kind.Written.of_cut` : a token stays what it is in front of what cannot be a part of it.
-/
import MiniPascal.Proofs.Lexical.Classes

namespace MiniPascal

/-! ## Runs of characters -/

/-- The text does not go on with a character of the class. -/
def Stops (p : Char → Bool) (text : List Char) : Prop := ∀ c ∈ text.head?, p c = false

/-- One or more decimal digits. -/
def IsDigits (text : List Char) : Prop := text ≠ [] ∧ ∀ c ∈ text, c.isDigit = true

/-- A letter, and behind it letters, digits and numbers of any script. -/
def IsWord (text : List Char) : Prop :=
  ∃ c tail, text = c :: tail ∧ isLetter c = true ∧ ∀ d ∈ tail, isWordPart d = true

/-- The text goes on with a dot and a digit. -/
def FractionAhead (text : List Char) : Prop :=
  ∃ d tail, text = '.' :: d :: tail ∧ d.isDigit = true

variable {p : Char → Bool} {run rest text : List Char}

theorem takeWhile_append_of_stops (hrun : ∀ c ∈ run, p c = true) (hrest : Stops p rest) :
    (run ++ rest).takeWhile p = run := by
  rw [List.takeWhile_append_of_pos hrun]
  cases rest with
  | nil => simp
  | cons c rest => simp [hrest c rfl]

theorem dropWhile_append_of_stops (hrun : ∀ c ∈ run, p c = true) (hrest : Stops p rest) :
    (run ++ rest).dropWhile p = rest := by
  rw [List.dropWhile_append_of_pos hrun]
  cases rest with
  | nil => simp
  | cons c rest => simp [hrest c rfl]

/-- A text does not go on with a character that has been dropped from its start. -/
theorem stops_dropWhile (p : Char → Bool) (text : List Char) : Stops p (text.dropWhile p) := by
  intro c hc
  have hnot := List.head?_dropWhile_not p text
  rw [Option.mem_def.1 hc] at hnot
  exact hnot

theorem of_mem_takeWhile {c : Char} (h : c ∈ text.takeWhile p) : p c = true :=
  List.all_eq_true.1 List.all_takeWhile c h

theorem isDigits_cons_takeWhile {c : Char} (hc : c.isDigit = true) (rest : List Char) :
    IsDigits (c :: rest.takeWhile Char.isDigit) := by
  refine ⟨by simp, fun d hd => ?_⟩
  rcases List.mem_cons.1 hd with rfl | hd
  · exact hc
  · exact of_mem_takeWhile hd

/-! ## The lexical grammar -/

/-- How a token of the kind is written, with the rest of the source behind it. -/
def Kind.Written (text rest : List Char) : Kind → Prop
  | symbol s => text = s.text.toList ∧ (s = .colon → rest.head? ≠ some '=')
  | keyword k => IsWord text ∧ Stops isWordPart rest ∧ String.ofList text = k.text
  | identifier =>
    IsWord text ∧ Stops isWordPart rest ∧ ∀ k : Keyword, String.ofList text ≠ k.text
  | integer value =>
    IsDigits text ∧ Stops Char.isDigit rest ∧ ¬FractionAhead rest ∧
      value.toInt = Nat.ofDigitChars 10 text 0
  | real bits =>
    ∃ whole fraction, text = whole ++ '.' :: fraction ∧ IsDigits whole ∧ IsDigits fraction ∧
      Stops Char.isDigit rest ∧
      bits =
        Binary64.ofRatio (Nat.ofDigitChars 10 (whole ++ fraction) 0) (Nat.pow 10 fraction.length)

/-- Which characters make up no token for the cause, with the rest of the source behind them. -/
def Cause.Spoils (text rest : List Char) : Cause → Prop
  | unexpectedCharacter c =>
    text = [c] ∧ isBlank c = false ∧ isLetter c = false ∧ c.isDigit = false ∧ c ≠ '{' ∧
      ∀ s : Symbol, s.text ≠ String.ofList [c]
  | unterminatedComment => ∃ body, text = '{' :: body ∧ '}' ∉ body ∧ rest = []
  | integerOutOfRange digits =>
    IsDigits text ∧ Stops Char.isDigit rest ∧ ¬FractionAhead rest ∧
      9223372036854775808 ≤ Nat.ofDigitChars 10 text 0 ∧ digits = String.ofList text
  | _ => False

/-- Neither a blank nor a closed comment starts here. -/
def Clear : List Char → Prop
  | [] => True
  | c :: rest => isBlank c = false ∧ (c = '{' → '}' ∉ rest)

namespace Lexeme

/-- The lexeme is as the lexical grammar says. -/
inductive Fits : Lexeme → Prop
  | token {kind : Kind} {text rest : List Char} :
    kind.Written text rest → Fits ⟨.ok kind, text, rest⟩
  | fault {cause : Cause} {text rest : List Char} :
    cause.Spoils text rest → Fits ⟨.error cause, text, rest⟩

/-- The lexeme is the first one of its text and the rest. -/
def IsFirst (l : Lexeme) : Prop := ∃ c tail, l.text = c :: tail ∧ first c (tail ++ l.rest) = l

/-- The first lexeme of a text is the first one of the characters read and the rest. -/
theorem isFirst_first (c : Char) (rest : List Char) : (first c rest).IsFirst := by
  obtain ⟨tail, htext⟩ := text_eq_cons c rest
  have happend := text_append_rest c rest
  rw [htext, List.cons_append] at happend
  exact ⟨c, tail, htext, by rw [(List.cons.inj happend).2]⟩

/-! ## Readings of numbers and words -/

/-- The values that digits are read as. -/
theorem readInteger_eq_ok_iff {digits : List Char} {kind : Kind} :
    readInteger digits = .ok kind ↔
      ∃ value, kind = .integer value ∧ value.toInt = Nat.ofDigitChars 10 digits 0 := by
  rw [readInteger]
  cases hvalue : Value.ofInt? (Nat.ofDigitChars 10 digits 0) with
  | none =>
    constructor
    · intro h
      cases h
    · rintro ⟨value, -, h⟩
      rw [← Value.ofInt?_eq_some_iff, hvalue] at h
      cases h
  | some found =>
    rw [Value.ofInt?_eq_some_iff] at hvalue
    constructor
    · intro h
      exact ⟨found, (Except.ok.inj h).symm, hvalue⟩
    · rintro ⟨value, rfl, h⟩
      rw [readValue, Value.ext (hvalue.trans h.symm)]

/-- Digits are read as no value if they are beyond the greatest one. -/
theorem readInteger_eq_error_iff {digits : List Char} {cause : Cause} :
    readInteger digits = .error cause ↔
      9223372036854775808 ≤ Nat.ofDigitChars 10 digits 0 ∧
        cause = .integerOutOfRange (String.ofList digits) := by
  rw [readInteger]
  cases hvalue : Value.ofInt? (Nat.ofDigitChars 10 digits 0) with
  | none =>
    have hlarge : 9223372036854775808 ≤ Nat.ofDigitChars 10 digits 0 := by
      rw [Value.ofInt?_eq_none_iff] at hvalue
      omega
    constructor
    · intro h
      exact ⟨hlarge, (Except.error.inj h).symm⟩
    · rintro ⟨-, rfl⟩
      rfl
  | some found =>
    have hupper := found.upper
    rw [Value.ofInt?_eq_some_iff] at hvalue
    constructor
    · intro h
      cases h
    · rintro ⟨h, -⟩
      omega

/-- A word is read as the keyword that it is. -/
theorem readWord_eq_keyword_iff {letters : List Char} {k : Keyword} :
    readWord letters = .keyword k ↔ String.ofList letters = k.text := by
  rw [readWord, eq_comm (a := String.ofList letters), ← Keyword.ofText?_eq_some_iff]
  cases Keyword.ofText? (String.ofList letters) <;> simp

/-- A word is read as an identifier if it is no keyword. -/
theorem readWord_eq_identifier_iff {letters : List Char} :
    readWord letters = .identifier ↔ ∀ k : Keyword, String.ofList letters ≠ k.text := by
  have hkeyword : ∀ k : Keyword,
      String.ofList letters ≠ k.text ↔ Keyword.ofText? (String.ofList letters) ≠ some k := by
    intro k
    rw [ne_eq, ne_eq, Keyword.ofText?_eq_some_iff, eq_comm]
  simp only [hkeyword]
  rw [readWord]
  cases Keyword.ofText? (String.ofList letters) <;> simp

/-! ## From the grammar to the first lexeme -/

theorem isFirst_symbol {s : Symbol} (h : s = .colon → rest.head? ≠ some '=') :
    IsFirst ⟨.ok (.symbol s), s.text.toList, rest⟩ := by
  cases s with
  | colon =>
    refine ⟨':', [], rfl, ?_⟩
    change symbol .colon ':' rest = _
    unfold symbol
    split
    · exact absurd rfl (h rfl)
    · rfl
  | _ => exact ⟨_, _, rfl, rfl⟩

theorem isFirst_word (htext : IsWord text) (hrest : Stops isWordPart rest) :
    IsFirst ⟨.ok (readWord text), text, rest⟩ := by
  obtain ⟨c, tail, rfl, hc, htail⟩ := htext
  refine ⟨c, tail, rfl, ?_⟩
  rw [first, Symbol.ofChar?_of_isLetter hc]
  simp only [isDigit_of_isLetter hc, hc, if_true, Bool.false_eq_true, if_false]
  rw [word, takeWhile_append_of_stops htail hrest, dropWhile_append_of_stops htail hrest]

theorem first_of_isDigit {c : Char} (h : c.isDigit = true) (rest : List Char) :
    first c rest = number c rest := by
  rw [first, Symbol.ofChar?_of_isDigit h]
  exact if_pos h

theorem isFirst_integer (htext : IsDigits text) (hrest : Stops Char.isDigit rest)
    (hfraction : ¬FractionAhead rest) : IsFirst ⟨readInteger text, text, rest⟩ := by
  obtain ⟨hne, hdigits⟩ := htext
  obtain ⟨c, tail, rfl⟩ := List.exists_cons_of_ne_nil hne
  obtain ⟨hc, htail⟩ := List.forall_mem_cons.1 hdigits
  refine ⟨c, tail, rfl, ?_⟩
  rw [first_of_isDigit hc, number, takeWhile_append_of_stops htail hrest,
    dropWhile_append_of_stops htail hrest]
  dsimp only
  split
  · next d after =>
    rw [if_neg fun hd => hfraction ⟨d, after, rfl, hd⟩]
  · rfl

theorem isFirst_real {whole fraction : List Char} (hwhole : IsDigits whole)
    (hfraction : IsDigits fraction) (hrest : Stops Char.isDigit rest) :
    IsFirst ⟨.ok (readReal whole fraction), whole ++ '.' :: fraction, rest⟩ := by
  obtain ⟨hne, hwhole⟩ := hwhole
  obtain ⟨c, tail, rfl⟩ := List.exists_cons_of_ne_nil hne
  obtain ⟨hc, htail⟩ := List.forall_mem_cons.1 hwhole
  obtain ⟨hne, hfraction⟩ := hfraction
  obtain ⟨d, digits, rfl⟩ := List.exists_cons_of_ne_nil hne
  obtain ⟨hd, hdigits⟩ := List.forall_mem_cons.1 hfraction
  -- The whole part ends at the dot, which belongs to the number because of the digit behind it.
  have hdot : Stops Char.isDigit ('.' :: d :: (digits ++ rest)) := by
    intro e he
    cases he
    rfl
  refine ⟨c, tail ++ '.' :: d :: digits, rfl, ?_⟩
  rw [first_of_isDigit hc, List.append_assoc, List.cons_append, List.cons_append, number,
    takeWhile_append_of_stops htail hdot, dropWhile_append_of_stops htail hdot]
  simp only [hd, if_true, takeWhile_append_of_stops hdigits hrest,
    dropWhile_append_of_stops hdigits hrest]

theorem isFirst_of_written {kind : Kind} (h : kind.Written text rest) :
    IsFirst ⟨.ok kind, text, rest⟩ := by
  cases kind with
  | symbol s =>
    obtain ⟨rfl, hrest⟩ := h
    exact isFirst_symbol hrest
  | keyword k =>
    obtain ⟨hword, hrest, htext⟩ := h
    rw [← readWord_eq_keyword_iff.2 htext]
    exact isFirst_word hword hrest
  | identifier =>
    obtain ⟨hword, hrest, htext⟩ := h
    rw [← readWord_eq_identifier_iff.2 htext]
    exact isFirst_word hword hrest
  | integer value =>
    obtain ⟨hdigits, hrest, hfraction, hvalue⟩ := h
    rw [← readInteger_eq_ok_iff.2 ⟨value, rfl, hvalue⟩]
    exact isFirst_integer hdigits hrest hfraction
  | real bits =>
    obtain ⟨whole, fraction, rfl, hwhole, hfraction, hrest, rfl⟩ := h
    exact isFirst_real hwhole hfraction hrest

theorem isFirst_of_spoils {cause : Cause} (h : cause.Spoils text rest) :
    IsFirst ⟨.error cause, text, rest⟩ := by
  cases cause with
  | unexpectedCharacter c =>
    obtain ⟨rfl, -, hletter, hdigit, hbrace, hsymbol⟩ := h
    have hnone : Symbol.ofChar? c = none := by
      rw [Option.eq_none_iff_forall_ne_some]
      exact fun s hs => hsymbol s (Symbol.text_of_ofChar? hs)
    refine ⟨c, [], rfl, ?_⟩
    simp only [first, List.nil_append, hnone, hdigit, hletter, hbrace, Bool.false_eq_true,
      if_false]
  | unterminatedComment =>
    obtain ⟨body, rfl, -, rfl⟩ := h
    refine ⟨'{', body, rfl, ?_⟩
    rw [List.append_nil, first, show Symbol.ofChar? '{' = none from rfl]
    simp only [show '{'.isDigit = false from rfl, show isLetter '{' = false by decide +kernel,
      Bool.false_eq_true, if_false, if_true]
  | integerOutOfRange digits =>
    obtain ⟨hdigits, hrest, hfraction, hlarge, rfl⟩ := h
    rw [← readInteger_eq_error_iff.2 ⟨hlarge, rfl⟩]
    exact isFirst_integer hdigits hrest hfraction
  | _ => exact h.elim

/-- **What the lexical grammar says determines the first lexeme.** -/
theorem Fits.isFirst {l : Lexeme} (h : l.Fits) : l.IsFirst := by
  cases h with
  | token h => exact isFirst_of_written h
  | fault h => exact isFirst_of_spoils h

/-! ## From the first lexeme to the grammar -/

theorem fits_symbol {s : Symbol} {c : Char} (h : Symbol.ofChar? c = some s) (rest : List Char) :
    (symbol s c rest).Fits := by
  have htext : [c] = s.text.toList := by rw [Symbol.text_of_ofChar? h, String.toList_ofList]
  unfold symbol
  split
  · exact .token ⟨by rw [(List.cons.inj htext).1]; rfl, fun hcolon => by cases hcolon⟩
  · next hnot =>
    refine .token ⟨htext, ?_⟩
    rintro rfl hhead
    obtain ⟨tail, rfl⟩ := List.head?_eq_some_iff.1 hhead
    exact hnot tail rfl rfl

theorem fits_integer (htext : IsDigits text) (hrest : Stops Char.isDigit rest)
    (hfraction : ¬FractionAhead rest) : Fits ⟨readInteger text, text, rest⟩ := by
  rcases hreading : readInteger text with cause | kind
  · obtain ⟨hlarge, rfl⟩ := readInteger_eq_error_iff.1 hreading
    exact .fault ⟨htext, hrest, hfraction, hlarge, rfl⟩
  · obtain ⟨value, rfl, hvalue⟩ := readInteger_eq_ok_iff.1 hreading
    exact .token ⟨htext, hrest, hfraction, hvalue⟩

theorem fits_number {c : Char} (hc : c.isDigit = true) (rest : List Char) :
    (number c rest).Fits := by
  have hwhole := isDigits_cons_takeWhile hc rest
  have hstops := stops_dropWhile Char.isDigit rest
  unfold number
  dsimp only
  split
  · next d tail hdrop =>
    split
    · next hd =>
      exact .token ⟨_, _, rfl, hwhole, isDigits_cons_takeWhile hd tail, stops_dropWhile _ _, rfl⟩
    · next hd =>
      rw [hdrop] at hstops
      have hfraction : ¬FractionAhead ('.' :: d :: tail) := by
        rintro ⟨e, after, heq, he⟩
        cases heq
        exact hd he
      exact fits_integer hwhole hstops hfraction
  · next hnot =>
    have hfraction : ¬FractionAhead (rest.dropWhile Char.isDigit) := by
      rintro ⟨e, after, heq, -⟩
      exact hnot e after heq
    exact fits_integer hwhole hstops hfraction

theorem fits_word {c : Char} (hc : isLetter c = true) (rest : List Char) : (word c rest).Fits := by
  have hword : IsWord (c :: rest.takeWhile isWordPart) :=
    ⟨c, _, rfl, hc, fun d hd => of_mem_takeWhile hd⟩
  have hstops := stops_dropWhile isWordPart rest
  refine .token ?_
  cases hkeyword : Keyword.ofText? (String.ofList (c :: rest.takeWhile isWordPart)) with
  | some k =>
    have htext := (Keyword.ofText?_eq_some_iff.1 hkeyword).symm
    rw [readWord_eq_keyword_iff.2 htext]
    exact ⟨hword, hstops, htext⟩
  | none =>
    have htext : ∀ k : Keyword, String.ofList (c :: rest.takeWhile isWordPart) ≠ k.text := by
      intro k hk
      rw [Keyword.ofText?_eq_some_iff.2 hk.symm] at hkeyword
      cases hkeyword
    rw [readWord_eq_identifier_iff.2 htext]
    exact ⟨hword, hstops, htext⟩

/-- **The first lexeme of a text is as the lexical grammar says**, if neither a blank nor a closed
comment starts there. -/
theorem IsFirst.fits {l : Lexeme} (h : l.IsFirst) (hclear : Clear (l.text ++ l.rest)) :
    l.Fits := by
  obtain ⟨c, tail, htext, hfirst⟩ := h
  rw [htext, List.cons_append] at hclear
  obtain ⟨hblank, hcomment⟩ := hclear
  rw [← hfirst]
  generalize tail ++ l.rest = rest at hcomment
  unfold first
  split
  · next s hs => exact fits_symbol hs rest
  · next hnone =>
    split
    · next hdigit => exact fits_number hdigit rest
    · next hdigit =>
      split
      · next hletter => exact fits_word hletter rest
      · next hletter =>
        split
        · next hbrace =>
          subst hbrace
          exact .fault ⟨rest, rfl, hcomment rfl, rfl⟩
        · next hbrace =>
          refine .fault ⟨rfl, hblank, Bool.eq_false_iff.2 hletter, Bool.eq_false_iff.2 hdigit,
            hbrace, ?_⟩
          intro s hs
          rw [Symbol.ofChar?_eq_some_iff.2 hs] at hnone
          cases hnone

/-! ## Where lexemes start -/

theorem clear_of_isLetter {c : Char} (h : isLetter c = true) (rest : List Char) :
    Clear (c :: rest) := by
  refine ⟨eq_false_comm isLetter_of_isBlank h, ?_⟩
  rintro rfl
  exact absurd h (by decide +kernel)

theorem clear_of_isDigits (h : IsDigits text) (rest : List Char) : Clear (text ++ rest) := by
  obtain ⟨hne, hdigits⟩ := h
  obtain ⟨c, tail, rfl⟩ := List.exists_cons_of_ne_nil hne
  have hc := hdigits c List.mem_cons_self
  refine ⟨eq_false_comm isDigit_of_isBlank hc, ?_⟩
  rintro rfl
  cases hc

theorem clear_of_written {kind : Kind} (h : kind.Written text rest) : Clear (text ++ rest) := by
  cases kind with
  | symbol s =>
    obtain ⟨rfl, -⟩ := h
    cases s <;> exact ⟨by decide, fun hbrace => absurd hbrace (by decide)⟩
  | keyword k =>
    obtain ⟨⟨c, tail, rfl, hc, -⟩, -⟩ := h
    exact clear_of_isLetter hc _
  | identifier =>
    obtain ⟨⟨c, tail, rfl, hc, -⟩, -⟩ := h
    exact clear_of_isLetter hc _
  | integer value => exact clear_of_isDigits h.1 rest
  | real bits =>
    obtain ⟨whole, fraction, rfl, hwhole, -⟩ := h
    rw [List.append_assoc]
    exact clear_of_isDigits hwhole _

/-- **A lexeme starts neither with a blank nor with a closed comment.** -/
theorem Fits.clear {l : Lexeme} (h : l.Fits) : Clear (l.text ++ l.rest) := by
  cases h with
  | token h => exact clear_of_written h
  | @fault cause text rest h =>
    cases cause with
    | unexpectedCharacter c =>
      obtain ⟨rfl, hblank, -, -, hbrace, -⟩ := h
      exact ⟨hblank, fun h => absurd h hbrace⟩
    | unterminatedComment =>
      obtain ⟨body, rfl, hbody, rfl⟩ := h
      rw [List.append_nil]
      exact ⟨by decide, fun _ => hbody⟩
    | integerOutOfRange digits => exact clear_of_isDigits h.1 rest
    | _ => exact h.elim

end Lexeme

/-! ## Tokens that end where the next text starts -/

/-- The text ends here, or it goes on with what parts two tokens. -/
def Parted (text : List Char) : Prop := ∀ c ∈ text.head?, parts c = true

/-- The text ends here, or it goes on with a character that no token has behind its first one. -/
def Cut (text : List Char) : Prop :=
  ∀ c ∈ text.head?, isWordPart c = false ∧ c.isDigit = false ∧ c ≠ '=' ∧ c ≠ '.'

theorem cut_nil : Cut [] := nofun

/-- What parts two tokens is a part of neither. -/
theorem Parted.cut (h : Parted rest) : Cut rest := fun c hc => classes_of_parts (h c hc)

theorem Cut.stops_digit (h : Cut rest) : Stops Char.isDigit rest := fun c hc => (h c hc).2.1

theorem Cut.stops_wordPart (h : Cut rest) : Stops isWordPart rest := fun c hc => (h c hc).1

theorem Cut.not_fractionAhead (h : Cut rest) : ¬FractionAhead rest := by
  rintro ⟨d, tail, rfl, -⟩
  exact (h '.' rfl).2.2.2 rfl

/-- **A token stays what it is in front of what cannot be a part of it.** -/
theorem Kind.Written.of_cut {kind : Kind} {after : List Char} (h : kind.Written text rest)
    (hafter : Cut after) : kind.Written text after := by
  cases kind with
  | symbol s =>
    refine ⟨h.1, fun _ hhead => ?_⟩
    exact (hafter '=' hhead).2.2.1 rfl
  | keyword k => exact ⟨h.1, hafter.stops_wordPart, h.2.2⟩
  | identifier => exact ⟨h.1, hafter.stops_wordPart, h.2.2⟩
  | integer value => exact ⟨h.1, hafter.stops_digit, hafter.not_fractionAhead, h.2.2.2⟩
  | real bits =>
    obtain ⟨whole, fraction, htext, hwhole, hfraction, -, hbits⟩ := h
    exact ⟨whole, fraction, htext, hwhole, hfraction, hafter.stops_digit, hbits⟩

end MiniPascal
