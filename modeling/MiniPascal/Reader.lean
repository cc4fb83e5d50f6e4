/-
# Readers

A reader hands out the items of a source in three ways, all of which move the one cursor: item by
item without end (`read`), item by item up to the end or the first fault (`pull?`), and all tokens
at once (`drain`).
-/
import MiniPascal.Cursor
import MiniPascal.Mode

namespace MiniPascal

/-- A cursor together with the memory whether pulling has come to its end. -/
structure Reader where
  /-- Where the reader stands in the source. -/
  cursor : Cursor
  /-- Whether a pull has met the end of the source or a fault. -/
  closed : Bool
  deriving DecidableEq

namespace Reader

/-- The reader at the start of the source. -/
def ofSource (source : String) : Reader := ⟨Cursor.ofSource source, false⟩

/-! ## One item at a time -/

/-- Reads the next item; none, again and again, at the end of the source, where the reader then
stands. -/
def read (reader : Reader) : Option Item × Reader :=
  match reader.cursor.next? with
  | none => (none, ⟨reader.cursor.skip, reader.closed⟩)
  | some (item, after) => (some item, ⟨after, reader.closed⟩)

/-- Whether pulling goes on behind what was read. -/
def goesOn : Option Item → Bool
  | some (.token _) => true
  | some (.fault _) => false
  | none => false

/-- Pulls what is read next, up to and including the end of the source or the first fault. -/
def pull? (reader : Reader) : Option (Option Item × Reader) :=
  if reader.closed then none
  else some (reader.read.1, ⟨reader.read.2.cursor, !goesOn reader.read.1⟩)

/-- The number of pulls that are left is at most this. -/
def pullBound (reader : Reader) : Nat :=
  if reader.closed then 0 else reader.cursor.rest.length + 1

/-- Each pull lowers the bound. -/
theorem pullBound_lt_of_pull? {reader after : Reader} {item : Option Item}
    (h : reader.pull? = some (item, after)) : after.pullBound < reader.pullBound := by
  unfold pull? at h
  split at h
  · cases h
  · next hopen =>
    cases h
    cases hnext : reader.cursor.next? with
    | none => simp [pullBound, hopen, read, hnext, goesOn]
    | some found =>
      have := Cursor.length_rest_lt_of_next? hnext
      simp only [pullBound, hopen, read, hnext]
      split
      · simp
      · simp only [Bool.false_eq_true, if_false]
        omega

/-- Pulls until pulling has come to its end, behind what was pulled already, the latest first. -/
def pullAllFrom (seen : List (Option Item)) (reader : Reader) : List (Option Item) × Reader :=
  match _h : reader.pull? with
  | none => (seen.reverse, reader)
  | some (item, after) => pullAllFrom (item :: seen) after
termination_by reader.pullBound
decreasing_by exact pullBound_lt_of_pull? _h

/-- Pulls until pulling has come to its end. -/
def pullAll (reader : Reader) : List (Option Item) × Reader := pullAllFrom [] reader

/-! ## All tokens at once -/

/-- Reads tokens up to the end of the source or the first fault, behind those already read, the
latest first. -/
def drainFrom (seen : List Token) (cursor : Cursor) : Except Fault (List Token) × Cursor :=
  match _h : cursor.next? with
  | none => (.ok seen.reverse, cursor.skip)
  | some (.token token, after) => drainFrom (token :: seen) after
  | some (.fault fault, after) => (.error fault, after)
termination_by cursor.rest.length
decreasing_by exact Cursor.length_rest_lt_of_next? _h

/-- Reads all tokens that are left, unless a fault comes before the end of the source. -/
def drain (reader : Reader) : Except Fault (List Token) × Reader :=
  let (tokens, cursor) := drainFrom [] reader.cursor
  (tokens, ⟨cursor, reader.closed⟩)

end Reader

/-! ## Whole sources -/

/-- The tokens of a source, or its first lexical fault. -/
def tokens (source : String) : Except Fault (List Token) := (Reader.ofSource source).drain.1

/-- The mode that a source asks for: one whose first token is `BEGIN` is a program, and any other an
expression. -/
def Mode.detect (source : String) : Mode :=
  match (Cursor.ofSource source).next? with
  | some (.token token, _) => if token.kind = .keyword .blockBegin then program else expression
  | _ => expression

end MiniPascal
