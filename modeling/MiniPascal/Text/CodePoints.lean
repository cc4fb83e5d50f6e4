/-
# Sets of code points

A character class is given by the ranges of code points that make it up, each with both ends
included, in ascending order and with a gap between any two neighbours.  The order lets a look-up
stop at the first range that starts beyond the code point, and makes it exact:

* `contains_iff` : a look-up succeeds exactly on the code points that lie in one of the ranges.
-/

namespace MiniPascal

/-- Ranges of code points, both ends included. -/
abbrev CodePoints := List (Nat × Nat)

namespace CodePoints

/-- Whether `n` lies in one of the ranges; the search ends where they pass `n`. -/
def contains : CodePoints → Nat → Bool
  | [], _ => false
  | (first, last) :: rest, n =>
    if n < first then false else if n ≤ last then true else contains rest n

/-- Whether the ranges are non-empty, ascend with gaps, and all start at the bound or later. -/
def ascendFrom (bound : Nat) : CodePoints → Bool
  | [] => true
  | (first, last) :: rest => bound ≤ first && first ≤ last && ascendFrom (last + 2) rest

/-- Whether the ranges are non-empty and ascend with a gap between any two neighbours. -/
def ascend (ranges : CodePoints) : Bool := ascendFrom 0 ranges

/-- Ranges that start at a bound hold no code point below it. -/
theorem le_of_mem_of_ascendFrom {bound : Nat} {ranges : CodePoints}
    (h : ascendFrom bound ranges = true) {range : Nat × Nat} (hr : range ∈ ranges) :
    bound ≤ range.1 := by
  induction ranges generalizing bound with
  | nil => cases hr
  | cons head rest ih =>
    obtain ⟨first, last⟩ := head
    simp only [ascendFrom, Bool.and_eq_true, decide_eq_true_eq] at h
    rcases List.mem_cons.1 hr with rfl | hr
    · exact h.1.1
    · have := ih h.2 hr
      omega

/-- A look-up succeeds exactly on the code points of the ranges. -/
theorem contains_iff {ranges : CodePoints} (h : ranges.ascend = true) (n : Nat) :
    ranges.contains n = true ↔ ∃ range ∈ ranges, range.1 ≤ n ∧ n ≤ range.2 := by
  suffices ∀ bound, ascendFrom bound ranges = true →
      (ranges.contains n = true ↔ ∃ range ∈ ranges, range.1 ≤ n ∧ n ≤ range.2) from this 0 h
  clear h
  induction ranges with
  | nil => simp [contains]
  | cons head rest ih =>
    obtain ⟨first, last⟩ := head
    intro bound h
    simp only [ascendFrom, Bool.and_eq_true, decide_eq_true_eq] at h
    have hrest := ih _ h.2
    simp only [contains, List.mem_cons, exists_eq_or_imp]
    split
    · next hlt =>
      refine iff_of_false (by simp) ?_
      rintro (⟨hle, _⟩ | ⟨range, hr, hle, _⟩)
      · omega
      · have := le_of_mem_of_ascendFrom h.2 hr
        omega
    · next hge =>
      split
      · next hle => simp only [true_iff]; exact Or.inl ⟨by omega, hle⟩
      · next hgt =>
        rw [hrest]
        refine ⟨Or.inr, fun h => h.resolve_left fun h => hgt h.2⟩

end CodePoints

end MiniPascal
