/-
# Blanks and comments

Between the lexemes of a source stand blanks and closed comments.  A comment ends at the first
closing brace, so it cannot hold one, while opening braces in it are like other characters.  Any
text is such a gap and something else behind it, and a cursor reads what stands behind the gap, with
the gap counted in its offset only.  Main statements:

* `exists_trivia` : every text is a gap and a text in which something else comes first;
* `Cursor.items_trivia` : the items behind a gap are those of the text behind it;
* `Cursor.items_lexeme` : the item at a lexeme, and then those behind it.
-/
import MiniPascal.Cursor
import MiniPascal.Proofs.Lexical.Lexemes

namespace MiniPascal

/-- Blanks and closed comments, in any number and order. -/
inductive Trivia : List Char → Prop
  | nil : Trivia []
  | blank {c : Char} {rest : List Char} : isBlank c = true → Trivia rest → Trivia (c :: rest)
  | comment {body rest : List Char} :
    '}' ∉ body → Trivia rest → Trivia ('{' :: (body ++ '}' :: rest))

variable {gap rest text : List Char}

/-- What is in a gap parts the tokens on its two sides. -/
theorem Trivia.parted (h : Trivia gap) (hne : gap ≠ []) (rest : List Char) :
    Parted (gap ++ rest) := by
  intro c hc
  cases h with
  | nil => exact absurd rfl hne
  | blank hblank _ =>
    cases hc
    rw [parts, hblank, Bool.true_or]
  | comment _ _ =>
    cases hc
    rfl

/-- **Every text is a gap and a text in which something else comes first.** -/
theorem exists_trivia (text : List Char) :
    ∃ gap rest, text = gap ++ rest ∧ Trivia gap ∧ Clear rest := by
  -- A comment is passed over at once, so the text shrinks by more than a character.
  induction hn : text.length using Nat.strongRecOn generalizing text with
  | ind n ih =>
    cases text with
    | nil => exact ⟨[], [], rfl, .nil, trivial⟩
    | cons c text =>
      rw [List.length_cons] at hn
      by_cases hblank : isBlank c = true
      · obtain ⟨gap, rest, rfl, hgap, hrest⟩ := ih _ (by omega) text rfl
        exact ⟨c :: gap, rest, rfl, .blank hblank hgap, hrest⟩
      · by_cases hcomment : c = '{' ∧ '}' ∈ text
        · obtain ⟨rfl, hclosed⟩ := hcomment
          obtain ⟨body, behind, rfl, hbody⟩ := List.eq_append_cons_of_mem hclosed
          rw [List.length_append, List.length_cons] at hn
          obtain ⟨gap, rest, rfl, hgap, hrest⟩ := ih _ (by omega) behind rfl
          exact ⟨'{' :: (body ++ '}' :: gap), rest, by simp, .comment hbody hgap, hrest⟩
        · exact ⟨[], c :: text, rfl, .nil, Bool.eq_false_iff.2 hblank,
            fun hbrace hclosed => hcomment ⟨hbrace, hclosed⟩⟩

/-- Where neither a blank nor a closed comment starts, there is the end or a lexeme. -/
theorem Clear.exists_fits (h : Clear text) :
    text = [] ∨ ∃ l : Lexeme, l.Fits ∧ text = l.text ++ l.rest := by
  cases text with
  | nil => exact Or.inl rfl
  | cons c rest =>
    rw [← Lexeme.text_append_rest] at h
    exact Or.inr ⟨_, (Lexeme.isFirst_first c rest).fits h, (Lexeme.text_append_rest c rest).symm⟩

namespace Cursor

/-! ## Passing over gaps -/

/-- A comment ends at its first closing brace. -/
theorem skipFrom_comment {body : List Char} (h : '}' ∉ body) (brace : Cursor) (offset : Nat)
    (rest : List Char) :
    skipFrom (some brace) offset (body ++ '}' :: rest) =
      skipFrom none (offset + body.length + 1) rest := by
  induction body generalizing offset with
  | nil => rfl
  | cons c body ih =>
    obtain ⟨hc, hbody⟩ := not_or.1 (mt List.mem_cons.2 h)
    rw [List.cons_append, skipFrom]
    simp only [if_neg (Ne.symm hc)]
    rw [ih hbody, List.length_cons, Nat.add_assoc offset 1, Nat.add_comm 1]

/-- Without a closing brace the cursor goes back to the opening one. -/
theorem skipFrom_unclosed {body : List Char} (h : '}' ∉ body) (brace : Cursor) (offset : Nat) :
    skipFrom (some brace) offset body = brace := by
  induction body generalizing offset with
  | nil => rfl
  | cons c body ih =>
    obtain ⟨hc, hbody⟩ := not_or.1 (mt List.mem_cons.2 h)
    rw [skipFrom]
    simp only [if_neg (Ne.symm hc)]
    exact ih hbody _

theorem skipFrom_trivia (h : Trivia gap) (offset : Nat) (rest : List Char) :
    skipFrom none offset (gap ++ rest) = skipFrom none (offset + gap.length) rest := by
  induction h generalizing offset with
  | nil => rfl
  | blank hblank _ ih =>
    rw [List.cons_append, skipFrom]
    simp only [hblank, if_true]
    rw [ih, List.length_cons, Nat.add_assoc, Nat.add_comm 1]
  | comment hbody _ ih =>
    rw [List.cons_append, List.append_assoc, List.cons_append, skipFrom]
    simp only [show isBlank '{' = false by decide, Bool.false_eq_true, if_false, if_true]
    rw [skipFrom_comment hbody, ih, List.length_cons, List.length_append, List.length_cons]
    congr 1
    omega

theorem skipFrom_clear (h : Clear rest) (offset : Nat) :
    skipFrom none offset rest = ⟨offset, rest⟩ := by
  cases rest with
  | nil => rfl
  | cons c rest =>
    obtain ⟨hblank, hcomment⟩ := h
    rw [skipFrom]
    simp only [hblank, Bool.false_eq_true, if_false]
    split
    · next hbrace => exact skipFrom_unclosed (hcomment hbrace) _ _
    · rfl

/-! ## Items behind gaps -/

/-- What is read depends on where the cursor stands behind the gap. -/
theorem items_of_skip {cursor other : Cursor} (h : cursor.skip = other.skip) :
    cursor.items = other.items := by
  rw [items_eq cursor, items_eq other, next?, next?, h]

/-- **The items behind a gap are those of the text behind it.** -/
theorem items_trivia (h : Trivia gap) (offset : Nat) (rest : List Char) :
    items ⟨offset, gap ++ rest⟩ = items ⟨offset + gap.length, rest⟩ :=
  items_of_skip (skipFrom_trivia h offset rest)

theorem items_nil (offset : Nat) : items ⟨offset, []⟩ = [] := by
  rw [items_eq]
  rfl

/-- **The item at a lexeme, and then those behind it.** -/
theorem items_lexeme {l : Lexeme} (h : l.Fits) (offset : Nat) :
    items ⟨offset, l.text ++ l.rest⟩ =
      itemAt offset l :: items ⟨offset + l.text.length, l.rest⟩ := by
  obtain ⟨c, tail, htext, hfirst⟩ := h.isFirst
  have hskip : skip ⟨offset, l.text ++ l.rest⟩ = ⟨offset, c :: (tail ++ l.rest)⟩ := by
    rw [← List.cons_append, ← htext]
    exact skipFrom_clear h.clear offset
  rw [items_eq, next?, hskip]
  simp only [hfirst]

end Cursor

end MiniPascal
