/-
# What the parser accepts

A source whose tokens have room below the limit is accepted if the grammar derives them, and the
tree is the one of their derivation, of which there is one at most.  A source with a lexical fault
is not accepted at all.  Main statement:

* `parse_iff_derivation` : what is parsed, and to which tree.
-/
import MiniPascal.Proofs.Parser.Run
import Mathlib.Control.Monad.Basic

namespace MiniPascal

open Config Grammar

/-- There are never more groups open than there are tokens. -/
theorem Grammar.Derivation.depths_le_length {mode : Mode} (d : Derivation mode) :
    ∀ n ∈ d.depths, n ≤ d.yield.length := by
  obtain ⟨c, hreads, -⟩ := d.reads
  intro n hn
  have hle := hreads.groups_le.1 n hn
  rwa [groups_start, Nat.zero_add] at hle

/-- **The parser accepts exactly the grammar**, and builds the tree of the derivation. -/
theorem parse_iff_derivation (source : String) (mode : Mode) (limit : Nat) :
    (∀ ts, tokens source = .ok ts → ts.length ≤ limit →
      (∀ tree, parse source mode limit = .ok tree ↔
        ∃ d : Derivation mode, d.yield = ts ∧ d.tree = tree) ∧
      ∀ d e : Derivation mode, d.yield = ts → e.yield = ts → d = e) ∧
    ∀ fault, tokens source = .error fault → ∀ tree, parse source mode limit ≠ .ok tree := by
  constructor
  · intro ts hts hlimit
    rw [tokens_eq_ok_iff] at hts
    constructor
    · intro tree
      rw [parse_eq_ok_iff]
      constructor
      · rintro ⟨d, hitems, -, htree⟩
        rw [hts] at hitems
        exact ⟨d, (Item.map_token_injective hitems).symm, htree⟩
      · rintro ⟨d, rfl, htree⟩
        exact ⟨d, hts, fun n hn => Nat.le_trans (d.depths_le_length n hn) hlimit, htree⟩
    · intro d e hd he
      exact Derivation.yield_injective (hd.trans he.symm)
  · intro fault hfault tree htree
    obtain ⟨ts, rest, hitems⟩ := tokens_eq_error_iff.1 hfault
    obtain ⟨d, hyield, -, -⟩ := parse_eq_ok_iff.1 htree
    rw [hitems] at hyield
    exact Item.map_token_ne _ _ _ _ hyield.symm

/-- A sign applies to the factor behind it, as in `-1+x`; `1+!` is not accepted. -/
theorem parse_iff_derivation_sign :
    (∃ d : Derivation .expression,
      d.yield = [⟨.symbol .minus, "-", ⟨0, 1⟩⟩, ⟨.integer ⟨1, by decide, by decide⟩, "1", ⟨1, 2⟩⟩,
        ⟨.symbol .plus, "+", ⟨2, 3⟩⟩, ⟨.identifier, "x", ⟨3, 4⟩⟩] ∧
      d.tree = .expr (.binary .add
        (.unary .minus (.number ⟨1, by decide, by decide⟩ ⟨1, 2⟩) ⟨0, 2⟩)
        (.var ⟨"x", ⟨3, 4⟩⟩) ⟨0, 4⟩)) ∧
    ∀ tree, parse "1+!" .expression 4 ≠ .ok tree :=
  ⟨(((parse_iff_derivation "-1+x" .expression 4).1 _ (by decide +kernel) (by decide)).1 _).1
      (by decide +kernel),
    (parse_iff_derivation "1+!" .expression 4).2 ⟨.unexpectedCharacter '!', ⟨2, 3⟩⟩
      (by decide +kernel)⟩

end MiniPascal
