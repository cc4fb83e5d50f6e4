/-
# Reading a source

A cursor stands in a source: it knows its offset and the text ahead of it.  From there the source is
read as a sequence of items, each a token or a lexical fault, with blanks and comments passed over.
Reading goes on behind a fault.  Main statements:

* `length_rest_lt_of_next?` : each item takes at least one character;
* `items_eq` : the items are the next one, followed by those from the cursor behind it.
-/
import MiniPascal.Lexeme
import MiniPascal.Text.Blank

namespace MiniPascal

/-- A token, or characters that make up none. -/
inductive Item where
  | token (token : Token)
  | fault (fault : Fault)
  deriving DecidableEq

/-- The end of a source as it is met. -/
structure Finish where
  /-- The text that stands there. -/
  text : String
  /-- The place that it is given. -/
  span : Span
  deriving DecidableEq

/-- A position in a source together with the text from there on. -/
structure Cursor where
  /-- The number of characters behind the cursor. -/
  offset : Nat
  /-- The text ahead of the cursor. -/
  rest : List Char
  deriving DecidableEq

namespace Cursor

/-- The cursor at the start of the source. -/
def ofSource (source : String) : Cursor := ⟨0, source.toList⟩

/-- The number of characters of the source. -/
def stop (cursor : Cursor) : Nat := cursor.offset + cursor.rest.length

/-- The end of the source as a cursor meets it that stands there: nothing, at the place of one more
character. -/
def finish (cursor : Cursor) : Finish := ⟨"", .single cursor.offset⟩

/-! ## Blanks and comments -/

/-- Passes over blanks and closed comments.  Inside a comment, `opened` stands at its opening brace:
the first closing brace ends the comment, and if there is none the cursor goes back there. -/
def skipFrom (opened : Option Cursor) (offset : Nat) : List Char → Cursor
  | [] => opened.getD ⟨offset, []⟩
  | c :: rest =>
    match opened with
    | some brace => skipFrom (if c = '}' then none else some brace) (offset + 1) rest
    | none =>
      if isBlank c then skipFrom none (offset + 1) rest
      else if c = '{' then skipFrom (some ⟨offset, c :: rest⟩) (offset + 1) rest
      else ⟨offset, c :: rest⟩

/-- The cursor behind the blanks and the closed comments ahead. -/
def skip (cursor : Cursor) : Cursor := skipFrom none cursor.offset cursor.rest

theorem length_rest_skipFrom_le (opened : Option Cursor) (offset bound : Nat) (text : List Char)
    (hopened : ∀ brace ∈ opened, brace.rest.length ≤ bound) (htext : text.length ≤ bound) :
    (skipFrom opened offset text).rest.length ≤ bound := by
  induction text generalizing opened offset with
  | nil =>
    cases opened with
    | none => exact htext
    | some brace => exact hopened brace rfl
  | cons c rest ih =>
    have hrest : rest.length ≤ bound := by
      simp only [List.length_cons] at htext
      omega
    unfold skipFrom
    split
    · next brace =>
      refine ih _ _ ?_ hrest
      split
      · simp
      · exact hopened
    · split
      · exact ih none _ (by simp) hrest
      · split
        · exact ih _ _ (by simpa using htext) hrest
        · exact htext

/-- Passing over blanks and comments does not lengthen the text ahead. -/
theorem length_rest_skip_le (cursor : Cursor) : cursor.skip.rest.length ≤ cursor.rest.length :=
  length_rest_skipFrom_le none _ _ _ (by simp) (Nat.le_refl _)

/-! ## Items -/

/-- The item that a lexeme at the offset is. -/
def itemAt (offset : Nat) (lexeme : Lexeme) : Item :=
  let span : Span := ⟨offset, offset + lexeme.text.length⟩
  match lexeme.reading with
  | .ok kind => .token ⟨kind, String.ofList lexeme.text, span⟩
  | .error cause => .fault ⟨cause, span⟩

/-- The next item and the cursor behind it; none if only blanks and comments are ahead. -/
def next? (cursor : Cursor) : Option (Item × Cursor) :=
  match cursor.skip with
  | ⟨_, []⟩ => none
  | ⟨offset, c :: rest⟩ =>
    let lexeme := Lexeme.first c rest
    some (itemAt offset lexeme, ⟨offset + lexeme.text.length, lexeme.rest⟩)

/-- Each item takes at least one character. -/
theorem length_rest_lt_of_next? {cursor after : Cursor} {item : Item}
    (h : cursor.next? = some (item, after)) : after.rest.length < cursor.rest.length := by
  have hskip := length_rest_skip_le cursor
  unfold next? at h
  split at h
  · cases h
  · next offset c rest heq =>
    cases h
    rw [heq] at hskip
    exact Nat.lt_of_lt_of_le (Lexeme.length_rest_lt c rest) hskip

/-- Nothing comes behind the blanks and comments at the end of a source. -/
theorem next?_skip {cursor : Cursor} (h : cursor.next? = none) : cursor.skip.next? = none := by
  unfold next? at h
  split at h
  · next offset heq =>
    rw [heq]
    rfl
  · cases h

/-- The items ahead, behind those already seen, of which the latest comes first. -/
def itemsFrom (seen : List Item) (cursor : Cursor) : List Item :=
  match _h : cursor.next? with
  | none => seen.reverse
  | some (item, after) => itemsFrom (item :: seen) after
termination_by cursor.rest.length
decreasing_by exact length_rest_lt_of_next? _h

/-- The items ahead, up to the end of the source. -/
def items (cursor : Cursor) : List Item := itemsFrom [] cursor

theorem itemsFrom_eq (seen : List Item) (cursor : Cursor) :
    itemsFrom seen cursor = seen.reverse ++ cursor.items := by
  induction hn : cursor.rest.length using Nat.strongRecOn generalizing seen cursor with
  | ind n ih =>
    unfold items itemsFrom
    split
    · simp
    · next item after h =>
      have hlt := hn ▸ length_rest_lt_of_next? h
      rw [ih _ hlt _ _ rfl, ih _ hlt [item] _ rfl]
      simp

/-- The items are the next one, followed by those from the cursor behind it. -/
theorem items_eq (cursor : Cursor) :
    cursor.items = match cursor.next? with
      | none => []
      | some (item, after) => item :: after.items := by
  rw [items, itemsFrom]
  split
  · next h => simp [h]
  · next item after h => simp [h, itemsFrom_eq]

end Cursor

end MiniPascal
