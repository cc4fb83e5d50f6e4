/-
# Lexemes

What stands at the start of a text that does not start with a blank or a closed comment: the longest
token that the text starts with, or the characters that make up no token.  The reading depends on
the characters alone and not on where they stand in the source.  Main statements:

* `text_append_rest` : the characters read and the text after them are the whole text;
* `text_eq_cons` : at least one character is read.
-/
import MiniPascal.Binary64
import MiniPascal.Fault
import MiniPascal.Text.Alphabetic
import MiniPascal.Text.Numeric

namespace MiniPascal

/-- Whether the character may stand in a word after its first letter. -/
def isWordPart (c : Char) : Bool := isLetter c || isNumeric c

/-- The first characters of a text, read as a token or as a lexical fault. -/
structure Lexeme where
  /-- The kind of the token, or why the characters make up none. -/
  reading : Except Cause Kind
  /-- The characters that are read. -/
  text : List Char
  /-- The text after them. -/
  rest : List Char

namespace Lexeme

/-! ## Numbers -/

/-- The reading of a run of digits with the value, of which there is none beyond the limits. -/
def readValue (digits : List Char) : Option Value → Except Cause Kind
  | some value => .ok (.integer value)
  | none => .error (.integerOutOfRange (String.ofList digits))

/-- The reading of a run of digits: its decimal value, unless it is beyond the greatest value. -/
def readInteger (digits : List Char) : Except Cause Kind :=
  readValue digits (Value.ofInt? (Nat.ofDigitChars 10 digits 0))

/-- The reading of two runs of digits with a dot between them. -/
def readReal (whole fraction : List Char) : Kind :=
  .real
    (Binary64.ofRatio (Nat.ofDigitChars 10 (whole ++ fraction) 0) (Nat.pow 10 fraction.length))

/-- The number that starts with the digit `c`.  A dot starts a fraction only if a digit follows. -/
def number (c : Char) (rest : List Char) : Lexeme :=
  let whole := c :: rest.takeWhile Char.isDigit
  match rest.dropWhile Char.isDigit with
  | '.' :: d :: tail =>
    if d.isDigit then
      let fraction := d :: tail.takeWhile Char.isDigit
      ⟨.ok (readReal whole fraction), whole ++ '.' :: fraction, tail.dropWhile Char.isDigit⟩
    else ⟨readInteger whole, whole, '.' :: d :: tail⟩
  | after => ⟨readInteger whole, whole, after⟩

/-! ## Words -/

/-- The reading of a word: a keyword if it is one, and otherwise an identifier. -/
def readWord (word : List Char) : Kind :=
  match Keyword.ofText? (String.ofList word) with
  | some keyword => .keyword keyword
  | none => .identifier

/-- The word that starts with the letter `c`. -/
def word (c : Char) (rest : List Char) : Lexeme :=
  let letters := c :: rest.takeWhile isWordPart
  ⟨.ok (readWord letters), letters, rest.dropWhile isWordPart⟩

/-! ## Symbols -/

/-- The symbol that starts with `c`, which alone is the symbol `s`. -/
def symbol (s : Symbol) (c : Char) (rest : List Char) : Lexeme :=
  match s, rest with
  | .colon, '=' :: tail => ⟨.ok (.symbol .assign), [c, '='], tail⟩
  | _, _ => ⟨.ok (.symbol s), [c], rest⟩

/-! ## The first lexeme -/

/-- The first lexeme of the text `c :: rest`.  A brace at its start opens a comment that nothing
closes, and the whole text is read as that comment. -/
def first (c : Char) (rest : List Char) : Lexeme :=
  match Symbol.ofChar? c with
  | some s => symbol s c rest
  | none =>
    if c.isDigit then number c rest
    else if isLetter c then word c rest
    else if c = '{' then ⟨.error .unterminatedComment, c :: rest, []⟩
    else ⟨.error (.unexpectedCharacter c), [c], rest⟩

theorem number_append (c : Char) (rest : List Char) :
    (number c rest).text ++ (number c rest).rest = c :: rest := by
  have hsplit := rest.takeWhile_append_dropWhile (p := Char.isDigit)
  unfold number
  split
  · next d tail h =>
    split <;> simp [← h, hsplit]
  · simp [hsplit]

theorem word_append (c : Char) (rest : List Char) :
    (word c rest).text ++ (word c rest).rest = c :: rest := by
  simp [word]

theorem symbol_append (s : Symbol) (c : Char) (rest : List Char) :
    (symbol s c rest).text ++ (symbol s c rest).rest = c :: rest := by
  unfold symbol
  split <;> simp

/-- The characters read and the text after them are the whole text. -/
theorem text_append_rest (c : Char) (rest : List Char) :
    (first c rest).text ++ (first c rest).rest = c :: rest := by
  unfold first
  split
  · exact symbol_append ..
  · split
    · exact number_append ..
    · split
      · exact word_append ..
      · split <;> simp

/-- At least one character is read, and it is the first of the text. -/
theorem text_eq_cons (c : Char) (rest : List Char) :
    ∃ tail, (first c rest).text = c :: tail := by
  unfold first
  split
  · unfold symbol
    split <;> simp
  · split
    · unfold number
      dsimp only
      split
      · split <;> simp
      · simp
    · split
      · simp [word]
      · split <;> simp

/-- The text after the first lexeme is shorter than the whole. -/
theorem length_rest_lt (c : Char) (rest : List Char) :
    (first c rest).rest.length < (c :: rest).length := by
  obtain ⟨tail, h⟩ := text_eq_cons c rest
  have happend := congrArg List.length (text_append_rest c rest)
  rw [h] at happend
  simp only [List.length_append, List.length_cons] at happend ⊢
  omega

end Lexeme

end MiniPascal
