/-
# Other blanks and comments

The same tokens can be written with other blanks and comments between them, as long as something
stands between any two of them: no two tokens run together and none falls apart.  The new source has
the same tokens at their new places, so it means the same.  Main statements:

* `Cursor.items_spaced` : the tokens that are read where tokens are written with gaps between them;
* `trivia_independent` : what a source means does not depend on its blanks and comments.
-/
import MiniPascal.Proofs.Lexical.Tiling
import MiniPascal.Proofs.Places.Running

namespace MiniPascal

/-! ## Tokens with gaps -/

/-- A token together with the gap behind it. -/
structure Piece where
  /-- The token, wherever it was read. -/
  token : Token
  /-- What is written behind the token. -/
  gap : List Char

namespace Piece

/-- The pieces as they are written one behind another. -/
def written (pieces : List Piece) : List Char :=
  pieces.flatMap fun piece => piece.token.text.toList ++ piece.gap

/-- The tokens of the pieces, at the places that they have when written from the offset on. -/
def placed (offset : Nat) : List Piece → List Token
  | [] => []
  | piece :: pieces =>
    let stop := offset + piece.token.text.length
    ⟨piece.token.kind, piece.token.text, ⟨offset, stop⟩⟩ :: placed (stop + piece.gap.length) pieces

/-- The source that starts with a gap and goes on with the pieces. -/
def source (front : List Char) (pieces : List Piece) : String :=
  String.ofList (front ++ written pieces)

/-- The gaps are made of blanks and closed comments, and those between two tokens are not empty. -/
structure Spaced (front : List Char) (pieces : List Piece) : Prop where
  /-- What is in front of the first token is a gap. -/
  front : Trivia front
  /-- What is behind each token is a gap. -/
  gaps : ∀ piece ∈ pieces, Trivia piece.gap
  /-- Something is between any two tokens. -/
  parted : ∀ piece ∈ pieces.dropLast, piece.gap ≠ []

/-- The placed tokens are those of the pieces, up to their places. -/
theorem placed_relocate (offset : Nat) (pieces : List Piece) :
    (placed offset pieces).map (Token.relocate fun _ => 0) =
      (pieces.map token).map (Token.relocate fun _ => 0) := by
  induction pieces generalizing offset with
  | nil => rfl
  | cons piece pieces ih =>
    rw [placed, List.map_cons, ih]
    rfl

/-- Behind the token of a piece stands what parts it from the next one. -/
theorem parted_gap {piece : Piece} {pieces : List Piece} (hgap : Trivia piece.gap)
    (hparted : ∀ p ∈ (piece :: pieces).dropLast, p.gap ≠ []) :
    Parted (piece.gap ++ written pieces) := by
  by_cases hempty : piece.gap = []
  · cases pieces with
    | nil =>
      rw [hempty]
      intro c hc
      cases hc
    | cons next pieces => exact absurd hempty (hparted piece List.mem_cons_self)
  · exact hgap.parted hempty _

end Piece

open Piece

/-- **The tokens that are read where tokens are written with gaps between them.** -/
theorem Cursor.items_spaced {pieces : List Piece}
    (htokens : ∀ p ∈ pieces, ∃ rest, p.token.kind.Written p.token.text.toList rest)
    (hgaps : ∀ p ∈ pieces, Trivia p.gap) (hparted : ∀ p ∈ pieces.dropLast, p.gap ≠ [])
    (offset : Nat) : items ⟨offset, written pieces⟩ = (placed offset pieces).map .token := by
  induction pieces generalizing offset with
  | nil => exact items_nil offset
  | cons piece pieces ih =>
    obtain ⟨⟨rest, htoken⟩, htokens⟩ := List.forall_mem_cons.1 htokens
    have hbehind := parted_gap (hgaps piece List.mem_cons_self) hparted
    have hparted' : ∀ p ∈ pieces.dropLast, p.gap ≠ [] := by
      intro p hp
      refine hparted p ?_
      cases pieces with
      | nil => cases hp
      | cons next pieces => exact List.mem_cons_of_mem _ hp
    obtain ⟨hgap, hgaps⟩ := List.forall_mem_cons.1 hgaps
    have hwritten : written (piece :: pieces) =
        piece.token.text.toList ++ (piece.gap ++ written pieces) := by
      rw [written, List.flatMap_cons, List.append_assoc]
      rfl
    -- In the old source another text may stand behind the token; here it is the gap that ends it.
    have hitems := items_lexeme (.token (htoken.of_cut hbehind.cut)) offset
    dsimp only at hitems
    rw [hwritten, hitems, items_trivia hgap, ih htokens hgaps hparted', placed, itemAt]
    simp only [String.ofList_toList, String.length_toList, List.map_cons]

section

variable {source : String} {front : List Char} {pieces : List Piece}

/-- The tokens of a source, written with other gaps, are its tokens at their new places. -/
theorem tokens_respaced (h : tokens source = .ok (pieces.map token))
    (hspaced : Spaced front pieces) :
    tokens (Piece.source front pieces) = .ok (placed front.length pieces) := by
  have htiling := tokens_eq_ok_iff_tiling.1 h
  have htokens : ∀ p ∈ pieces, ∃ rest, p.token.kind.Written p.token.text.toList rest :=
    fun p hp => ⟨_, (htiling.tokens _ (List.mem_map_of_mem hp)).written⟩
  rw [tokens_eq_ok_iff, Cursor.ofSource, Piece.source, String.toList_ofList,
    Cursor.items_trivia hspaced.front, Nat.zero_add]
  exact Cursor.items_spaced htokens hspaced.gaps hspaced.parted _

/-- A source written with other gaps has the same items, up to their places. -/
theorem items_respaced (h : tokens source = .ok (pieces.map token))
    (hspaced : Spaced front pieces) :
    (Cursor.ofSource source).items.map (Item.relocate fun _ => 0) =
      (Cursor.ofSource (Piece.source front pieces)).items.map (Item.relocate fun _ => 0) := by
  have hmap : ∀ ts : List Token, (ts.map Item.token).map (Item.relocate fun _ => 0) =
      (ts.map (Token.relocate fun _ => 0)).map Item.token := by
    intro ts
    rw [List.map_map, List.map_map]
    rfl
  rw [tokens_eq_ok_iff.1 h, tokens_eq_ok_iff.1 (tokens_respaced h hspaced), hmap, hmap,
    placed_relocate]

/-- **What a source means does not depend on its blanks and comments.**  Written with other ones, as
long as no two tokens touch, a source has the same tokens at their new places.  It is parsed to a
tree that differs in its places only, or fails for the same cause; it runs to the same outcome, or
fails for the same cause; and it asks for the same mode. -/
theorem trivia_independent (h : tokens source = .ok (pieces.map token))
    (hspaced : Spaced front pieces) :
    tokens (Piece.source front pieces) = .ok (placed front.length pieces) ∧
    (∀ mode limit,
      (∀ tree, parse source mode limit = .ok tree →
        ∃ other, parse (Piece.source front pieces) mode limit = .ok other ∧
          other.unplaced = tree.unplaced ∧ other.text = tree.text) ∧
      (∀ fault, parse source mode limit = .error fault →
        ∃ other, parse (Piece.source front pieces) mode limit = .error other ∧
          other.cause = fault.cause) ∧
      (∀ outcome, run source mode limit = .ok outcome →
        run (Piece.source front pieces) mode limit = .ok outcome) ∧
      ∀ fault, run source mode limit = .error fault →
        ∃ other, run (Piece.source front pieces) mode limit = .error other ∧
          other.cause = fault.cause) ∧
    Mode.detect (Piece.source front pieces) = Mode.detect source := by
  have hitems := items_respaced h hspaced
  refine ⟨tokens_respaced h hspaced, fun mode limit => ?_, (Mode.detect_relocate hitems).symm⟩
  have hstop : (Span.single source.length).relocate (fun _ => 0) =
      (Span.single (Piece.source front pieces).length).relocate fun _ => 0 := rfl
  have hparse := parse_relocate monotone_const monotone_const hstop hitems mode limit
  have hrun := run_relocate monotone_const monotone_const hstop hitems mode limit
  refine ⟨?_, ?_, fun outcome houtcome => relocateFault_ok hrun houtcome, ?_⟩
  · intro tree htree
    obtain ⟨other, hother, hunplaced⟩ := relocateResult_ok hparse htree
    exact ⟨other, hother, hunplaced, Tree.text_of_unplaced hunplaced⟩
  · intro fault hfault
    obtain ⟨other, hother, hmoved⟩ := relocateResult_error hparse hfault
    exact ⟨other, hother, Fault.cause_of_relocate hmoved⟩
  · intro fault hfault
    obtain ⟨other, hother, hmoved⟩ := relocateFault_error hrun hfault
    exact ⟨other, hother, Fault.cause_of_relocate hmoved⟩

end

/-- The tokens of `1+x`, the first one with a blank behind it and the second one with a comment. -/
def spacedSum : List Piece :=
  [⟨⟨.integer ⟨1, by decide, by decide⟩, "1", ⟨0, 1⟩⟩, [' ']⟩,
    ⟨⟨.symbol .plus, "+", ⟨1, 2⟩⟩, ['{', '}']⟩,
    ⟨⟨.identifier, "x", ⟨2, 3⟩⟩, []⟩]

/-- The sum `1+x` has the same tokens as `{ { }1 +{}x`, and fails for the same cause. -/
theorem trivia_independent_sum :
    tokens "\x7b \x7b \x7d1 +\x7b\x7dx" = .ok [⟨.integer ⟨1, by decide, by decide⟩, "1", ⟨5, 6⟩⟩,
      ⟨.symbol .plus, "+", ⟨7, 8⟩⟩, ⟨.identifier, "x", ⟨10, 11⟩⟩] ∧
    ∃ fault, run "\x7b \x7b \x7d1 +\x7b\x7dx" .expression 0 = .error fault ∧
      fault.cause = .undefinedVariable "x" := by
  have hsource :
      Piece.source ['{', ' ', '{', ' ', '}'] spacedSum = "\x7b \x7b \x7d1 +\x7b\x7dx" := by
    decide +kernel
  have hcomment : ∀ body, '}' ∉ body → Trivia ('{' :: (body ++ ['}'])) :=
    fun body hbody => .comment hbody .nil
  have hspaced : Spaced ['{', ' ', '{', ' ', '}'] spacedSum := by
    refine ⟨hcomment [' ', '{', ' '] (by decide), ?_, by simp [spacedSum]⟩
    simp only [spacedSum, List.forall_mem_cons]
    exact ⟨.blank (by decide) .nil, hcomment [] (by decide), .nil, by simp⟩
  have htokens : tokens "1+x" = .ok (spacedSum.map Piece.token) := by decide +kernel
  obtain ⟨hplaced, hmeaning, -⟩ := trivia_independent htokens hspaced
  rw [hsource] at hplaced hmeaning
  exact ⟨hplaced, (hmeaning .expression 0).2.2.2 ⟨.undefinedVariable "x", ⟨2, 3⟩⟩
    (by decide +kernel)⟩

end MiniPascal
