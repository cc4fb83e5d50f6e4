/-
# Parsers

A parser turns the items of a source into a tree, one token at a time, with the next token in view.
It fetches the token behind the one in view before it takes the latter, so a lexical fault there
comes before any complaint about what the token in view leads to.  A parser can be asked for several
trees in a row, also after a fault: it goes on where it stopped, and the groups that were open at a
fault count as open from then on.  It tells of each token when it takes it.
-/
import MiniPascal.Parser.Config
import MiniPascal.Cursor
import MiniPascal.Event

namespace MiniPascal

/-! ## What is ahead -/

/-- What is ahead of a parser. -/
inductive Ahead where
  /-- The source has ended. -/
  | finish
  /-- The token in view and the items behind it. -/
  | token (current : Token) (rest : List Item)
  deriving DecidableEq

/-- What is ahead at the start of the items, unless they start with a fault. -/
def Ahead.ofItems : List Item → Except Fault Ahead
  | [] => .ok .finish
  | .token current :: rest => .ok (.token current rest)
  | .fault fault :: _ => .error fault

/-! ## Reading one tree -/

/-- The outcome of reading one tree. -/
structure Parse where
  /-- The tree, or the fault that ended the reading. -/
  result : Except Fault Tree
  /-- The number of groups that were left open. -/
  groups : Nat
  /-- What is ahead now. -/
  ahead : Ahead
  /-- The tokens that have been taken, the latest one first. -/
  taken : List Token

/-- The fixed surroundings of a reading. -/
structure Bounds where
  /-- The number of characters of the source. -/
  stop : Nat
  /-- The greatest number of groups that may be open at once. -/
  limit : Nat
  /-- The number of groups that were open before. -/
  depth : Nat
  deriving DecidableEq

/-- Whether a move opens a group beyond the limit. -/
def Bounds.exceededBy (bounds : Bounds) : Move → Bool
  | .shift _ => false
  | .enter next => bounds.limit < bounds.depth + next.groups

namespace Parse

/-- The outcome at the end of the source. -/
def atEnd (bounds : Bounds) (taken : List Token) (config : Config) : Parse :=
  match config.tree? with
  | some tree => ⟨.ok tree, config.groups, .finish, taken⟩
  | none => ⟨.error ⟨config.complaint none, .single bounds.stop⟩, config.groups, .finish, taken⟩

/-- The outcome at a token that the grammar does not allow. -/
def refused (taken : List Token) (config : Config) (current : Token) (rest : List Item) : Parse :=
  ⟨.error ⟨config.complaint (some current), current.span⟩, config.groups, .token current rest, taken⟩

/-- The outcome at a token that opens a group beyond the limit; `ahead` is behind it. -/
def tooDeep (bounds : Bounds) (taken : List Token) (next : Config) (current : Token)
    (ahead : Ahead) : Parse :=
  ⟨.error ⟨.nestingTooDeep bounds.limit, current.span⟩, next.groups, ahead, current :: taken⟩

/-- Reads on from a configuration, with `current` in view and the items behind it.  Each token that
is taken is told of, behind what has been told, of which the latest comes first. -/
def runTelling (bounds : Bounds) (told : List Event) (taken : List Token) (config : Config)
    (current : Token) : List Item → Parse × List Event
  | [] =>
    match config.move? current with
    | none => (refused taken config current [], told)
    | some move =>
      if bounds.exceededBy move then
        (tooDeep bounds taken move.next current .finish, .tokenTaken current :: told)
      else (atEnd bounds (current :: taken) move.next, .tokenTaken current :: told)
  | .fault fault :: rest =>
    match config.move? current with
    | none => (refused taken config current (.fault fault :: rest), told)
    | some _ => (⟨.error fault, config.groups, .token current rest, taken⟩, told)
  | .token next :: rest =>
    match config.move? current with
    | none => (refused taken config current (.token next :: rest), told)
    | some move =>
      if bounds.exceededBy move then
        (tooDeep bounds taken move.next current (.token next rest), .tokenTaken current :: told)
      else
        runTelling bounds (.tokenTaken current :: told) (current :: taken) move.next next rest

/-- Reads a tree from what is ahead, and tells of the tokens that are taken. -/
def ofAheadTelling (bounds : Bounds) (told : List Event) (taken : List Token) (config : Config) :
    Ahead → Parse × List Event
  | .finish => (atEnd bounds taken config, told)
  | .token current rest => runTelling bounds told taken config current rest

/-- Reads on from a configuration, with no one listening. -/
def run (bounds : Bounds) (taken : List Token) (config : Config) (current : Token)
    (items : List Item) : Parse :=
  (runTelling bounds [] taken config current items).1

/-- Reads a tree from what is ahead, with no one listening. -/
def ofAhead (bounds : Bounds) (taken : List Token) (config : Config) : Ahead → Parse
  | .finish => atEnd bounds taken config
  | .token current rest => run bounds taken config current rest

end Parse

/-! ## Parsers -/

/-- A parser between two readings. -/
structure Parser where
  /-- The source's length, the limit, and the number of groups that count as open. -/
  bounds : Bounds
  /-- What is ahead. -/
  ahead : Ahead
  /-- The tokens that have been taken so far, the latest one first. -/
  taken : List Token

namespace Parser

/-- The number of groups that may be open at once unless another limit is given. -/
def defaultLimit : Nat := 256

/-- The parser at the start of a source, unless the source starts with a lexical fault. -/
def ofSource (source : String) (limit : Nat) : Except Fault Parser :=
  let cursor := Cursor.ofSource source
  (Ahead.ofItems cursor.items).map fun ahead => ⟨⟨cursor.stop, limit, 0⟩, ahead, []⟩

/-- The parser behind a reading with the outcome. -/
def behind (bounds : Bounds) (outcome : Parse) : Parser :=
  ⟨⟨bounds.stop, bounds.limit, bounds.depth + outcome.groups⟩, outcome.ahead, outcome.taken⟩

/-- Reads a tree of the mode and stands ready for the next one; the events tell of the tokens that
are taken, in order. -/
def parseTelling (parser : Parser) (mode : Mode) : (Except Fault Tree × Parser) × List Event :=
  let (outcome, told) :=
    Parse.ofAheadTelling parser.bounds [] parser.taken (Config.start mode) parser.ahead
  ((outcome.result, behind parser.bounds outcome), told.reverse)

/-- Reads a tree of the mode and stands ready for the next one, with no one listening. -/
def parse (parser : Parser) (mode : Mode) : Except Fault Tree × Parser :=
  let outcome := Parse.ofAhead parser.bounds parser.taken (Config.start mode) parser.ahead
  (outcome.result, behind parser.bounds outcome)

/-- The number of tokens that have been taken so far. -/
def consumed (parser : Parser) : Nat := parser.taken.length

end Parser

/-- The tree of a source, or its first fault. -/
def parse (source : String) (mode : Mode) (limit : Nat) : Except Fault Tree := do
  let parser ← Parser.ofSource source limit
  (parser.parse mode).1

end MiniPascal
