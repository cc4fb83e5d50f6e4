/-
# Classes of characters

Which characters may stand where is settled by classes that exclude each other: no digit is a
letter, nothing that parts two tokens can be a part of either, and every symbol is told by its first
character.  For classes given by tables this is a comparison of ranges, made once for each pair of
tables.  Main statements:

* `CodePoints.contains_eq_false_of_apart` : ranges that lie apart have no code point in common;
* `Symbol.ofChar?_eq_some_iff` : the symbols of one character;
* `classes_of_parts` : what parts two tokens is a part of neither.
-/
import MiniPascal.Lexeme
import MiniPascal.Text.Blank

namespace MiniPascal

/-! ## Tables that lie apart -/

namespace CodePoints

/-- Whether each range of the one table ends before or starts behind each range of the other. -/
def apart (ranges others : CodePoints) : Bool :=
  ranges.all fun r => others.all fun q => r.2 < q.1 || q.2 < r.1

/-- **Ranges that lie apart have no code point in common.** -/
theorem contains_eq_false_of_apart {ranges others : CodePoints} (hranges : ranges.ascend = true)
    (hothers : others.ascend = true) (hapart : ranges.apart others = true) {n : Nat}
    (h : ranges.contains n = true) : others.contains n = false := by
  rw [← Bool.not_eq_true]
  intro hother
  obtain ⟨r, hr, hrn⟩ := (contains_iff hranges n).1 h
  obtain ⟨q, hq, hqn⟩ := (contains_iff hothers n).1 hother
  have hrq := List.all_eq_true.1 (List.all_eq_true.1 hapart r hr) q hq
  simp only [Bool.or_eq_true, decide_eq_true_eq] at hrq
  omega

/-- The decimal digits. -/
def digit : CodePoints := [(0x30, 0x39)]

end CodePoints

/-- Whether a character is a digit can be looked up like the other classes. -/
theorem isDigit_eq_contains (c : Char) : c.isDigit = CodePoints.digit.contains c.toNat := by
  rw [Bool.eq_iff_iff, CodePoints.contains_iff (by decide)]
  simp only [CodePoints.digit, List.mem_singleton, exists_eq_left, Char.isDigit,
    Bool.and_eq_true, decide_eq_true_eq, ge_iff_le, UInt32.le_iff_toNat_le]
  exact Iff.rfl

/-! ## Digits and letters -/

/-- What excludes another thing is excluded by it. -/
theorem eq_false_comm {a b : Bool} (h : a = true → b = false) (hb : b = true) : a = false := by
  rw [← Bool.not_eq_true]
  intro ha
  rw [h ha] at hb
  cases hb

/-- No digit is a letter. -/
theorem isLetter_of_isDigit {c : Char} (h : c.isDigit = true) : isLetter c = false := by
  rw [isDigit_eq_contains] at h
  exact CodePoints.contains_eq_false_of_apart (by decide) CodePoints.alphabetic_ascend
    (by decide +kernel) h

/-- No letter is a digit. -/
theorem isDigit_of_isLetter {c : Char} (h : isLetter c = true) : c.isDigit = false :=
  eq_false_comm isLetter_of_isDigit h

/-- A digit may stand in a word. -/
theorem isWordPart_of_isDigit {c : Char} (h : c.isDigit = true) : isWordPart c = true := by
  have hnumeric : isNumeric c = true := by
    rw [isDigit_eq_contains, CodePoints.contains_iff (by decide)] at h
    rw [isNumeric, CodePoints.contains_iff CodePoints.numeric_ascend]
    obtain ⟨range, hrange, hc⟩ := h
    obtain rfl := List.mem_singleton.1 hrange
    exact ⟨_, List.mem_cons_self, hc⟩
  rw [isWordPart, hnumeric, Bool.or_true]

/-! ## Blanks -/

/-- No blank is a digit. -/
theorem isDigit_of_isBlank {c : Char} (h : isBlank c = true) : c.isDigit = false := by
  rw [isDigit_eq_contains]
  exact CodePoints.contains_eq_false_of_apart CodePoints.blank_ascend (by decide)
    (by decide +kernel) h

/-- No blank is a letter. -/
theorem isLetter_of_isBlank {c : Char} (h : isBlank c = true) : isLetter c = false :=
  CodePoints.contains_eq_false_of_apart CodePoints.blank_ascend CodePoints.alphabetic_ascend
    (by decide +kernel) h

/-- No blank is a part of a word. -/
theorem isWordPart_of_isBlank {c : Char} (h : isBlank c = true) : isWordPart c = false := by
  have hnumeric : isNumeric c = false :=
    CodePoints.contains_eq_false_of_apart CodePoints.blank_ascend CodePoints.numeric_ascend
      (by decide +kernel) h
  rw [isWordPart, isLetter_of_isBlank h, hnumeric]
  rfl

/-! ## Symbols -/

namespace Symbol

/-- **The symbols of one character.** -/
theorem ofChar?_eq_some_iff {c : Char} {s : Symbol} :
    ofChar? c = some s ↔ s.text = String.ofList [c] := by
  constructor
  · exact text_of_ofChar?
  · intro h
    have hlist : s.text.toList = [c] := by rw [h, String.toList_ofList]
    cases s <;> cases hlist <;> rfl

/-- A symbol of one character is no blank, no letter, no digit and no brace. -/
theorem classes_of_ofChar? {c : Char} {s : Symbol} (h : ofChar? c = some s) :
    isBlank c = false ∧ isLetter c = false ∧ c.isDigit = false ∧ c ≠ '{' := by
  unfold ofChar? at h
  split at h <;> cases h
  all_goals decide +kernel

/-- No letter is a symbol. -/
theorem ofChar?_of_isLetter {c : Char} (h : isLetter c = true) : ofChar? c = none := by
  rw [Option.eq_none_iff_forall_ne_some]
  intro s hs
  rw [(classes_of_ofChar? hs).2.1] at h
  cases h

/-- No digit is a symbol. -/
theorem ofChar?_of_isDigit {c : Char} (h : c.isDigit = true) : ofChar? c = none := by
  rw [Option.eq_none_iff_forall_ne_some]
  intro s hs
  rw [(classes_of_ofChar? hs).2.2.1] at h
  cases h

end Symbol

/-! ## What parts two tokens -/

/-- Whether the character parts two tokens: it is a blank, or it opens a comment. -/
def parts (c : Char) : Bool := isBlank c || c == '{'

/-- **What parts two tokens is a part of neither.** -/
theorem classes_of_parts {c : Char} (h : parts c = true) :
    isWordPart c = false ∧ c.isDigit = false ∧ c ≠ '=' ∧ c ≠ '.' := by
  rw [parts, Bool.or_eq_true, beq_iff_eq] at h
  rcases h with h | rfl
  · refine ⟨isWordPart_of_isBlank h, isDigit_of_isBlank h, ?_, ?_⟩ <;> rintro rfl <;>
      exact absurd h (by decide)
  · decide +kernel

end MiniPascal
