/-
# Values in decimal digits

A row of digits stands for a number in which each digit counts ten times as much as the one behind
it.  A value is written as the digits of its size, behind a minus sign if it is negative, so its
text tells which value it is.  Main statements:

* `ofDigitChars_eq_decimalValue` : digits are read as the number that they stand for;
* `decimalValue_toDigits` : the digits of a number stand for it;
* `Value.toList_text_of_nonneg`, `Value.toList_text_of_neg` : the text of a value;
* `Value.text_injective` : no two values have the same text.
-/
import MiniPascal.Proofs.Lexical.Lexemes
import Mathlib.Data.List.Induction
import Mathlib.Data.Nat.Digits.Defs

namespace MiniPascal

/-! ## Rows of digits -/

/-- The number that the digits stand for. -/
def decimalValue (digits : List Char) : Nat :=
  Nat.ofDigits 10 (digits.reverse.map fun c => c.toNat - '0'.toNat)

/-- One digit more makes the number ten times as large and adds the digit. -/
theorem decimalValue_concat (digits : List Char) (c : Char) :
    decimalValue (digits ++ [c]) = 10 * decimalValue digits + (c.toNat - '0'.toNat) := by
  rw [decimalValue, List.reverse_append, List.reverse_singleton, List.singleton_append,
    List.map_cons, Nat.ofDigits_cons, Nat.add_comm]
  rfl

/-- **Digits are read as the number that they stand for.** -/
theorem ofDigitChars_eq_decimalValue (digits : List Char) :
    Nat.ofDigitChars 10 digits 0 = decimalValue digits := by
  induction digits using List.reverseRecOn with
  | nil => rfl
  | append_singleton digits c ih =>
    rw [Nat.ofDigitChars_append, ih, decimalValue_concat, Nat.ofDigitChars_cons,
      Nat.ofDigitChars_nil]

/-- **The digits of a number stand for it.** -/
theorem decimalValue_toDigits (n : Nat) : decimalValue (Nat.toDigits 10 n) = n := by
  rw [← ofDigitChars_eq_decimalValue, Nat.ofDigitChars_ten_toDigits]

/-- No two numbers have the same digits. -/
theorem toDigits_injective {m n : Nat} (h : Nat.toDigits 10 m = Nat.toDigits 10 n) : m = n := by
  rw [← decimalValue_toDigits m, h, decimalValue_toDigits]

/-- A number is written in digits. -/
theorem isDigits_toDigits (n : Nat) : IsDigits (Nat.toDigits 10 n) :=
  ⟨Nat.toDigits_ne_nil, fun _ hc => Nat.isDigit_of_mem_toDigits (by decide) (by decide) hc⟩

/-! ## Values -/

namespace Value

variable {v w : Value}

/-- The text of a value that is not negative. -/
theorem toList_text_of_nonneg (h : 0 ≤ v.toInt) :
    v.text.toList = Nat.toDigits 10 v.toInt.natAbs := by
  obtain ⟨n, hn⟩ := Int.eq_ofNat_of_zero_le h
  rw [text, hn]
  exact Nat.toList_repr

/-- The text of a negative value. -/
theorem toList_text_of_neg (h : v.toInt < 0) :
    v.text.toList = '-' :: Nat.toDigits 10 v.toInt.natAbs := by
  obtain ⟨n, hn⟩ := Int.eq_negSucc_of_lt_zero h
  have hrepr : (Int.negSucc n).repr = "-" ++ (n + 1).repr := rfl
  rw [text, hn, hrepr, String.toList_append, Nat.toList_repr]
  rfl

/-- A value is written in digits and a minus sign. -/
theorem char_of_mem_text {c : Char} (h : c ∈ v.text.toList) : c = '-' ∨ c.isDigit = true := by
  by_cases hv : 0 ≤ v.toInt
  · rw [toList_text_of_nonneg hv] at h
    exact Or.inr ((isDigits_toDigits _).2 c h)
  · rw [toList_text_of_neg (Int.not_le.1 hv)] at h
    exact (List.mem_cons.1 h).imp id ((isDigits_toDigits _).2 c)

/-- The digits of a value that is not negative have no minus sign in front. -/
theorem toDigits_ne_cons_minus (n : Nat) (digits : List Char) :
    Nat.toDigits 10 n ≠ '-' :: digits := by
  intro h
  have hminus := (isDigits_toDigits n).2 '-' (h ▸ List.mem_cons_self)
  cases hminus

/-- **No two values have the same text.** -/
theorem text_injective (h : v.text = w.text) : v = w := by
  have hlist : v.text.toList = w.text.toList := congrArg String.toList h
  refine Value.ext ?_
  by_cases hv : 0 ≤ v.toInt <;> by_cases hw : 0 ≤ w.toInt
  · rw [toList_text_of_nonneg hv, toList_text_of_nonneg hw] at hlist
    have := toDigits_injective hlist
    omega
  · rw [toList_text_of_nonneg hv, toList_text_of_neg (Int.not_le.1 hw)] at hlist
    exact absurd hlist (toDigits_ne_cons_minus _ _)
  · rw [toList_text_of_neg (Int.not_le.1 hv), toList_text_of_nonneg hw] at hlist
    exact absurd hlist.symm (toDigits_ne_cons_minus _ _)
  · rw [toList_text_of_neg (Int.not_le.1 hv), toList_text_of_neg (Int.not_le.1 hw)] at hlist
    have := toDigits_injective (List.cons.inj hlist).2
    omega

end Value

end MiniPascal
