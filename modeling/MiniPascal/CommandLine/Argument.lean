/-
# Command line arguments

The words of a command line are read from left to right.  A word that starts with two hyphens names
an option in full; one that starts with a single hyphen is a cluster of one-letter options; a word
that is just two hyphens makes all words behind it files; any other word is the value of the option
before it, if that one waits for a value, and otherwise a file.

The options that call for help, `-h` and `--help`, are left out: the help text and its success are
no part of what is described here, and words that name these options are read like those of any
unknown option.
-/

namespace MiniPascal

/-! ## Options -/

/-- An option that stands alone. -/
inductive Flag where
  | interactive
  | showTree
  | verbose
  deriving DecidableEq

/-- An option that takes a value. -/
inductive Setting where
  | expression
  | limit
  deriving DecidableEq

/-- What a command line asks for, piece by piece. -/
inductive Argument where
  /-- The file is to be run. -/
  | file (path : String)
  /-- The text is to be evaluated. -/
  | expression (text : String)
  /-- So many groups may be open at once. -/
  | limit (n : Nat)
  /-- A flag is set. -/
  | flag (flag : Flag)
  deriving DecidableEq

/-- An option of either sort. -/
inductive Switch where
  | flag (flag : Flag)
  | setting (setting : Setting)
  deriving DecidableEq

namespace Switch

/-- The option of the one letter. -/
def ofLetter? : Char → Option Switch
  | 'e' => some (setting .expression)
  | 'i' => some (flag .interactive)
  | 'v' => some (flag .verbose)
  | _ => none

/-- The option of the name. -/
def ofName? (name : String) : Option Switch :=
  if name = "expr" then some (setting .expression)
  else if name = "interactive" then some (flag .interactive)
  else if name = "ast" then some (flag .showTree)
  else if name = "max-depth" then some (setting .limit)
  else if name = "verbose" then some (flag .verbose)
  else none

end Switch

/-! ## Values -/

/-- The number that the digits write, with or without a plus sign, if it is below `2 ^ 64`. -/
def readLimit? (text : List Char) : Option Nat :=
  let digits := match text with
    | '+' :: rest => rest
    | digits => digits
  let n := Nat.ofDigitChars 10 digits 0
  if !digits.isEmpty && digits.all Char.isDigit && n < 18446744073709551616 then some n else none

/-- The option with its value, if the value is one of its values. -/
def Setting.read? (setting : Setting) (value : List Char) : Option Argument :=
  match setting with
  | expression => some (.expression (String.ofList value))
  | limit => (readLimit? value).map .limit

/-! ## Words -/

/-- What has been read of a command line: pieces, and the option that still waits for its value. -/
structure Reading where
  /-- The pieces so far. -/
  pieces : List Argument
  /-- The option whose value is the next word. -/
  waiting : Option Setting
  deriving DecidableEq

/-- The options of a cluster.  What follows an option with a value is the value; an equals sign in
front of it does not belong to it. -/
def readCluster? : List Char → Option Reading
  | [] => some ⟨[], none⟩
  | letter :: rest =>
    match Switch.ofLetter? letter with
    | none => none
    | some (.flag f) => (readCluster? rest).map fun r => ⟨.flag f :: r.pieces, r.waiting⟩
    | some (.setting s) =>
      match rest with
      | [] => some ⟨[], some s⟩
      | '=' :: value => (s.read? value).map fun piece => ⟨[piece], none⟩
      | value => (s.read? value).map fun piece => ⟨[piece], none⟩

/-- The option that is named in full, with its value behind an equals sign, if there is one. -/
def readNamed? (text : List Char) : Option Reading :=
  let name := String.ofList (text.takeWhile (· ≠ '='))
  match Switch.ofName? name, text.dropWhile (· ≠ '=') with
  | none, _ => none
  | some (.flag f), [] => some ⟨[.flag f], none⟩
  | some (.flag _), _ :: _ => none
  | some (.setting s), [] => some ⟨[], some s⟩
  | some (.setting s), _ :: value => (s.read? value).map fun piece => ⟨[piece], none⟩

/-- What a word is. -/
inductive Word where
  /-- The two hyphens that end the options. -/
  | divider
  /-- An option named in full. -/
  | named (text : List Char)
  /-- A cluster of one-letter options. -/
  | cluster (letters : List Char)
  /-- A value or a file. -/
  | plain (text : List Char)
  deriving DecidableEq

/-- The word that the characters are.  A single hyphen is an option in neither form. -/
def Word.ofChars : List Char → Word
  | ['-'] => plain ['-']
  | ['-', '-'] => divider
  | '-' :: '-' :: name => named name
  | '-' :: letters => cluster letters
  | text => plain text

/-- The pieces of the words, of which the first is the value of the waiting option, if any. -/
def readWords? (waiting : Option Setting) : List String → Option (List Argument)
  | [] => if waiting.isNone then some [] else none
  | word :: rest =>
    match waiting, Word.ofChars word.toList with
    | some s, .plain text => do
      let piece ← s.read? text
      return piece :: (← readWords? none rest)
    | some _, _ => none
    | none, .plain text => do return .file (String.ofList text) :: (← readWords? none rest)
    | none, .divider => some (rest.map .file)
    | none, .named text => do
      let reading ← readNamed? text
      return reading.pieces ++ (← readWords? reading.waiting rest)
    | none, .cluster letters => do
      let reading ← readCluster? letters
      return reading.pieces ++ (← readWords? reading.waiting rest)

/-- What the words of a command line ask for, piece by piece. -/
def Argument.ofWords? (words : List String) : Option (List Argument) := readWords? none words

end MiniPascal
