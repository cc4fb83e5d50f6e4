/-
# The nearest double

A real literal stands for the binary64 number nearest to its decimal value, a value halfway between
two of them for the one with an even significand.  The number is given by its bit pattern.  For
non-negative numbers the patterns are ordered as the numbers are, and the pattern of
`significand * 2 ^ (shift - 1074)` is `shift * 2 ^ 52 + significand` whether the number is normal or
subnormal, so one formula covers both and a significand rounded up to `2 ^ 53` carries into the
exponent by itself.
-/

namespace MiniPascal

/-- The quotient rounded to the nearest integer, a half to the even neighbour. -/
def roundDiv (num den : Nat) : Nat :=
  let quotient := num / den
  let excess := 2 * (num % den)
  if excess < den then quotient
  else if den < excess then quotient + 1
  else quotient + quotient % 2

namespace Binary64

/-- The bit pattern of positive infinity, above that of every finite number. -/
def infinity : Nat := 2047 <<< 52

/-- The bit pattern of the number nearest to `num / den`; one too large for the format becomes
infinity. -/
def ofRatio (num den : Nat) : UInt64 :=
  let scaled := num <<< 1074
  let shift := (scaled / den).log2 - 52
  UInt64.ofNat (min ((shift <<< 52) + roundDiv scaled (den <<< shift)) infinity)

end Binary64

end MiniPascal
