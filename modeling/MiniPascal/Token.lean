/-
# Tokens

The words and signs that a source is made of: symbols, keywords, identifiers and literals.  The end
of the source is no token; where it takes the place of one, it is the absence of a token.
-/
import MiniPascal.Span
import MiniPascal.Value

namespace MiniPascal

/-! ## Symbols -/

/-- A sign of one or two characters. -/
inductive Symbol where
  | plus
  | minus
  | star
  | slash
  | leftParen
  | rightParen
  | dot
  | semicolon
  | comma
  | colon
  /-- The sign of assignment, a colon followed by an equals sign. -/
  | assign
  deriving DecidableEq

namespace Symbol

/-- The symbol as it is written. -/
def text : Symbol → String
  | plus => "+"
  | minus => "-"
  | star => "*"
  | slash => "/"
  | leftParen => "("
  | rightParen => ")"
  | dot => "."
  | semicolon => ";"
  | comma => ","
  | colon => ":"
  | assign => ":="

/-- The symbol that is the one character. -/
def ofChar? : Char → Option Symbol
  | '+' => some plus
  | '-' => some minus
  | '*' => some star
  | '/' => some slash
  | '(' => some leftParen
  | ')' => some rightParen
  | '.' => some dot
  | ';' => some semicolon
  | ',' => some comma
  | ':' => some colon
  | _ => none

/-- A symbol is found at the one character that it is written with. -/
theorem text_of_ofChar? {c : Char} {s : Symbol} (h : ofChar? c = some s) :
    s.text = String.ofList [c] := by
  unfold ofChar? at h
  split at h <;> cases h <;> rfl

end Symbol

/-! ## Keywords -/

/-- A word that no variable may have as its name. -/
inductive Keyword where
  /-- `BEGIN`, which opens a block. -/
  | blockBegin
  /-- `END`, which closes a block. -/
  | blockEnd
  /-- `PROGRAM`, which no program uses yet. -/
  | program
  /-- `VAR`, which no program uses yet. -/
  | var
  /-- `INTEGER`, which no program uses yet. -/
  | integerType
  /-- `REAL`, which no program uses yet. -/
  | realType
  deriving DecidableEq

namespace Keyword

/-- The keyword as it is written. -/
def text : Keyword → String
  | blockBegin => "BEGIN"
  | blockEnd => "END"
  | program => "PROGRAM"
  | var => "VAR"
  | integerType => "INTEGER"
  | realType => "REAL"

/-- All keywords. -/
def all : List Keyword := [blockBegin, blockEnd, program, var, integerType, realType]

/-- The keyword that is the word; only capital letters make a keyword. -/
def ofText? (word : String) : Option Keyword := all.find? fun k => k.text = word

/-- A keyword is found at the word that it is written with, and nowhere else. -/
theorem ofText?_eq_some_iff {word : String} {k : Keyword} :
    ofText? word = some k ↔ k.text = word := by
  constructor
  · intro h
    simpa using List.find?_some h
  · rintro rfl
    cases k <;> decide

end Keyword

/-! ## Tokens -/

/-- What a token is, with the number that a literal stands for. -/
inductive Kind where
  | symbol (symbol : Symbol)
  | keyword (keyword : Keyword)
  | identifier
  | integer (value : Value)
  /-- A literal with a fraction, given by the bit pattern of the nearest double. -/
  | real (bits : UInt64)
  deriving DecidableEq

namespace Kind

/-- The kind as messages call it. -/
def description : Kind → String
  | symbol s => "'" ++ s.text ++ "'"
  | keyword k => "'" ++ k.text ++ "'"
  | identifier => "identifier"
  | integer _ => "integer"
  | real _ => "real number"

/-- What messages call the kind of the next token, of which there is none at the end. -/
def describe? : Option Kind → String
  | some kind => kind.description
  | none => "end of input"

end Kind

/-- A token with the text it was read from and where it stands. -/
structure Token where
  /-- What the token is. -/
  kind : Kind
  /-- The characters of the token. -/
  text : String
  /-- Where the token stands. -/
  span : Span
  deriving DecidableEq

end MiniPascal
