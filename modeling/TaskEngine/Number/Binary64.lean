/-!
# Finite binary floating-point numbers

A finite double is a sign and the rank of its magnitude among the non-negative finite doubles:
rank 0 is zero, rank 1 the smallest positive one, and the next rank is always the next larger
value. All rounding goes through one function from exact quotients of natural numbers, to the
nearest double and to the even one on a tie.
-/

namespace TaskEngine.Number

/-- One more than the rank of the largest finite double. -/
def rankBound : Nat := 0x7FF * Nat.pow 2 52

/-- A finite double with its sign. Zero keeps its sign too. -/
structure Binary64 where
  /-- The sign bit. -/
  negative : Bool
  /-- The position of the magnitude among the non-negative finite doubles. -/
  rank : Nat
  /-- Infinities and undefined values are left out. -/
  finite : rank < rankBound
  deriving DecidableEq

namespace Binary64

/-- Positive zero. -/
def zero : Binary64 := ⟨false, 0, by decide⟩

instance : Inhabited Binary64 := ⟨zero⟩

/-- The significand of the value `significand * 2 ^ exponent`. -/
def significand (x : Binary64) : Nat :=
  if x.rank < Nat.pow 2 52 then x.rank else x.rank % Nat.pow 2 52 + Nat.pow 2 52

/-- The exponent of the value `significand * 2 ^ exponent`. -/
def exponent (x : Binary64) : Int :=
  if x.rank < Nat.pow 2 52 then -1074 else (x.rank / Nat.pow 2 52 : Nat) - 1075

/-- A quotient rounded to the nearest integer, to the even one when two are equally near. -/
def divRoundEven (num den : Nat) : Nat :=
  let quotient := num / den
  let twice := 2 * (num % den)
  if twice < den then quotient
  else if den < twice then quotient + 1
  else if quotient % 2 = 0 then quotient else quotient + 1

/-- The exponent at which `num / den` is rounded: the least one, not below that of the smallest
doubles, at which the significand stays below `2 ^ 53`. -/
def roundingExponent (num den : Nat) : Int :=
  let guess : Int := max ((num.log2 : Int) - den.log2 - 53) (-1074)
  let tooSmall : Bool :=
    if 0 ≤ guess then den * Nat.pow 2 guess.toNat * Nat.pow 2 53 ≤ num
    else den * Nat.pow 2 53 ≤ num * Nat.pow 2 (-guess).toNat
  if tooSmall then guess + 1 else guess

/-- The rank of the double nearest to `num / den`; overflow shows as a rank out of range. -/
def nearestRank (num den : Nat) : Nat :=
  let e := roundingExponent num den
  let significand :=
    if 0 ≤ e then divRoundEven num (den * Nat.pow 2 e.toNat)
    else divRoundEven (num * Nat.pow 2 (-e).toNat) den
  (e + 1074).toNat * Nat.pow 2 52 + significand

/-- The double nearest to a quotient, or nothing when that exceeds every finite double. -/
def ofRatio? (negative : Bool) (num den : Nat) : Option Binary64 :=
  if num = 0 then some ⟨negative, 0, by decide⟩
  else if h : nearestRank num den < rankBound then some ⟨negative, nearestRank num den, h⟩
  else none

/-- The double nearest to an integer. -/
def ofInt? (n : Int) : Option Binary64 := ofRatio? (n < 0) n.natAbs 1

/-- The double nearest to `digits * 10 ^ scale`. -/
def ofDecimal? (negative : Bool) (digits : Nat) (scale : Int) : Option Binary64 :=
  if 0 ≤ scale then ofRatio? negative (digits * Nat.pow 10 scale.toNat) 1
  else ofRatio? negative digits (Nat.pow 10 (-scale).toNat)

/-- The magnitude as a quotient of natural numbers. -/
def ratio (x : Binary64) : Nat × Nat :=
  if 0 ≤ x.exponent then (x.significand * Nat.pow 2 x.exponent.toNat, 1)
  else (x.significand, Nat.pow 2 (-x.exponent).toNat)

/-- The rounded product. -/
def mul? (x y : Binary64) : Option Binary64 :=
  ofRatio? (x.negative != y.negative) (x.ratio.1 * y.ratio.1) (x.ratio.2 * y.ratio.2)

/-- The rounded quotient; a zero divisor has none. -/
def div? (x y : Binary64) : Option Binary64 :=
  if y.rank = 0 then none
  else ofRatio? (x.negative != y.negative) (x.ratio.1 * y.ratio.2) (x.ratio.2 * y.ratio.1)

/-- The value as a signed numerator over a positive denominator. -/
def signedRatio (x : Binary64) : Int × Nat :=
  (if x.negative then -(x.ratio.1 : Int) else x.ratio.1, x.ratio.2)

/-- Whether the value is a whole number. -/
def isWhole (x : Binary64) : Bool := x.ratio.1 % x.ratio.2 == 0

/-- The value without its fractional part. -/
def truncate (x : Binary64) : Int :=
  let whole := x.ratio.1 / x.ratio.2
  if x.negative then -(whole : Int) else whole

end Binary64

end TaskEngine.Number
