/-
# A text inside a longer one

Tokens are read alike wherever the text that they make up stands, and whatever stands behind it, as
long as that cannot be a part of the last one.  So the tokens of a longer text are those of its
parts, one behind another, each moved to where its part stands.  Main statements:

* `Cursor.items_append` : tokens with more text behind the last one, at another offset;
* `Cursor.items_word` : a token with a blank behind it;
* `Cursor.items_symbol` : a symbol with any text behind it;
* `Cursor.items_alone` : a lexeme with nothing behind it.
-/
import MiniPascal.Proofs.Lexical.Trimming

namespace MiniPascal

variable {text rest behind : List Char} {ts : List Token}

/-- A blank parts two tokens. -/
theorem parted_blank {c : Char} (h : isBlank c = true) (rest : List Char) : Parted (c :: rest) :=
  (Trivia.blank h .nil).parted (List.cons_ne_nil c []) rest

namespace Cursor

/-- **Tokens are read alike at another offset**, and with more text behind the last one. -/
theorem items_append (hbehind : Cut behind) (front : Nat) {offset : Nat}
    (h : items ⟨offset, text⟩ = ts.map .token) :
    items ⟨front + offset, text ++ behind⟩ =
      (ts.map (Token.relocate (front + ·))).map .token ++
        items ⟨front + (offset + text.length), behind⟩ := by
  -- A gap and the token behind it are read at once, so the text shrinks by more than a character.
  induction hn : text.length using Nat.strongRecOn generalizing text offset ts with
  | ind n ih =>
    obtain ⟨gap, rest, rfl, hgap, hclear⟩ := exists_trivia text
    rw [items_trivia hgap] at h
    rw [List.append_assoc, items_trivia hgap, Nat.add_assoc front]
    rw [List.length_append] at hn
    subst hn
    rw [← Nat.add_assoc offset]
    generalize offset + gap.length = start at h ⊢
    rcases hclear.exists_fits with rfl | ⟨⟨reading, word, rest⟩, hfits, rfl⟩
    · rw [items_nil] at h
      rw [List.map_eq_nil_iff.1 h.symm]
      rfl
    · have hnonempty : 0 < word.length := by
        obtain ⟨c, tail, rfl, -⟩ := hfits.isFirst
        exact Nat.succ_pos _
      have hitems := items_lexeme hfits start
      cases hfits with
      | fault hspoils =>
        rw [hitems] at h
        obtain ⟨t, -, -, ht, -⟩ := List.map_eq_cons_iff.1 h.symm
        cases ht
      | @token kind _ _ hwritten =>
        have hitems' := items_lexeme (.token (hwritten.append hbehind)) (front + start)
        dsimp only at hitems hitems' h ⊢
        rw [hitems] at h
        obtain ⟨t, us, rfl, ht, hus⟩ := List.map_eq_cons_iff.1 h.symm
        obtain rfl := Item.token.inj ht
        have hlength : rest.length < gap.length + (word ++ rest).length := by
          rw [List.length_append]
          omega
        rw [List.append_assoc, hitems', Nat.add_assoc front, ih _ hlength hus.symm rfl,
          List.length_append, ← Nat.add_assoc start]
        simp only [itemAt, List.map_cons, List.cons_append, Token.relocate, Span.relocate,
          Nat.add_assoc]

/-- A token with a blank behind it, and then what is read behind the blank. -/
theorem items_word {kind : Kind} {c : Char} (hblank : isBlank c = true)
    (h : kind.Written text (c :: rest)) (offset : Nat) :
    items ⟨offset, text ++ c :: rest⟩ =
      .token ⟨kind, String.ofList text, ⟨offset, offset + text.length⟩⟩ ::
        items ⟨offset + text.length + 1, rest⟩ := by
  have hitems := items_lexeme (.token h) offset
  dsimp only at hitems
  rw [hitems]
  have hskip := items_trivia (.blank hblank .nil) (offset + text.length) rest
  exact congrArg (List.cons _) hskip

/-- A symbol, whatever is behind it, unless an equals sign behind a colon would prolong it. -/
theorem items_symbol {s : Symbol} (hs : s ≠ .colon) (offset : Nat) (rest : List Char) :
    items ⟨offset, s.text.toList ++ rest⟩ =
      .token ⟨.symbol s, s.text, ⟨offset, offset + s.text.length⟩⟩ ::
        items ⟨offset + s.text.length, rest⟩ := by
  have hwritten : Kind.Written s.text.toList rest (.symbol s) := ⟨rfl, fun h => absurd h hs⟩
  have hitems := items_lexeme (.token hwritten) offset
  simpa only [itemAt, String.ofList_toList, String.length_toList] using hitems

/-- A lexeme with nothing behind it. -/
theorem items_alone {reading : Except Cause Kind} (h : Lexeme.Fits ⟨reading, text, []⟩)
    (offset : Nat) : items ⟨offset, text⟩ = [itemAt offset ⟨reading, text, []⟩] := by
  have hitems := items_lexeme h offset
  dsimp only at hitems
  rwa [List.append_nil, items_nil] at hitems

end Cursor

end MiniPascal
