/-
# Values

The numbers that programs compute with: the integers from `-2 ^ 63` up to `2 ^ 63 - 1`.  Arithmetic
is that of the unbounded integers, followed by a test whether the result is still a value:

* `ofInt?_eq_some_iff` : an integer is accepted as the value it is;
* `ofInt?_eq_none_iff` : it is refused exactly outside the limits.
-/

namespace MiniPascal

/-- An integer between `-2 ^ 63` and `2 ^ 63 - 1`. -/
@[ext]
structure Value where
  /-- The value as an unbounded integer. -/
  toInt : Int
  /-- The least value is `-2 ^ 63`. -/
  lower : -9223372036854775808 ≤ toInt
  /-- The greatest value is `2 ^ 63 - 1`. -/
  upper : toInt < 9223372036854775808
  deriving DecidableEq

namespace Value

/-! ## From and to integers -/

/-- The integer as a value, if it is within the limits. -/
def ofInt? (n : Int) : Option Value :=
  if h : -9223372036854775808 ≤ n ∧ n < 9223372036854775808 then some ⟨n, h.1, h.2⟩ else none

/-- An integer is accepted as the value it is. -/
theorem ofInt?_eq_some_iff {n : Int} {v : Value} : ofInt? n = some v ↔ v.toInt = n := by
  unfold ofInt?
  split
  · rw [Option.some.injEq, Value.ext_iff]
    exact eq_comm
  · next h =>
    refine iff_of_false (by simp) ?_
    rintro rfl
    exact h ⟨v.lower, v.upper⟩

/-- An integer is refused exactly outside the limits. -/
theorem ofInt?_eq_none_iff {n : Int} :
    ofInt? n = none ↔ n < -9223372036854775808 ∨ 9223372036854775808 ≤ n := by
  unfold ofInt?
  split <;> simp <;> omega

/-- The value zero. -/
def zero : Value := ⟨0, by decide, by decide⟩

/-- The value in decimal digits, behind a minus sign if it is negative. -/
def text (v : Value) : String := v.toInt.repr

/-! ## Arithmetic -/

/-- The negated value, unless it is beyond the limits. -/
def neg? (v : Value) : Option Value := ofInt? (-v.toInt)

/-- The sum, unless it is beyond the limits. -/
def add? (v w : Value) : Option Value := ofInt? (v.toInt + w.toInt)

/-- The difference, unless it is beyond the limits. -/
def sub? (v w : Value) : Option Value := ofInt? (v.toInt - w.toInt)

/-- The product, unless it is beyond the limits. -/
def mul? (v w : Value) : Option Value := ofInt? (v.toInt * w.toInt)

/-- The quotient truncated toward zero, unless it is beyond the limits. -/
def div? (v w : Value) : Option Value := ofInt? (v.toInt.tdiv w.toInt)

end Value

end MiniPascal
