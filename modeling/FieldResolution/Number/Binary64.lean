/-!
# Binary numbers

A number written with a point is kept as the nearest number with a significand of 53 binary digits,
a tie going to the even significand.  `Binary64.ofDecimal?` finds it by exact arithmetic.  Numbers
near zero lie on a fixed grid, and a number beyond the largest of this form is none.
-/

namespace FieldResolution

namespace Number

/-- The natural number nearest to a quotient, a tie going to the even one. -/
def roundHalfEven (num den : Nat) : Nat :=
  let q := num / den
  let r := num % den
  if 2 * r < den then q
  else if den < 2 * r then q + 1
  else q + q % 2

/-- A quotient divided by a power of two, as a numerator and a denominator. -/
def onGrid (num den : Nat) (exponent : Int) : Nat × Nat :=
  (num * Nat.pow 2 (-exponent).toNat, den * Nat.pow 2 exponent.toNat)

end Number

/-- The number `significand * 2 ^ exponent` with a sign. -/
structure Binary64 where
  isNegative : Bool
  significand : Nat
  exponent : Int
  deriving DecidableEq, Repr

namespace Binary64

/-- The exponent of the finest grid. -/
def minExponent : Int := -1074

/-- The exponent of the coarsest grid. -/
def maxExponent : Int := 971

/-- The exponent of the grid on which a quotient lies: the one that leaves 53 binary digits before
the point, or the finest one. -/
def gridExponent (num den : Nat) : Int :=
  let e : Int := (Nat.log2 num : Int) - Nat.log2 den - 53
  let (n, d) := Number.onGrid num den e
  max minExponent (if n / d < Nat.pow 2 53 then e else e + 1)

/-- The number nearest to a quotient, if there is one. -/
def ofQuotient? (isNegative : Bool) (num den : Nat) : Option Binary64 :=
  let e := gridExponent num den
  let (n, d) := Number.onGrid num den e
  let m := Number.roundHalfEven n d
  let x : Binary64 :=
    if m = Nat.pow 2 53 then ⟨isNegative, Nat.pow 2 52, e + 1⟩ else ⟨isNegative, m, e⟩
  if x.exponent ≤ maxExponent then some x else none

/-- Zero with a sign. -/
def zero (isNegative : Bool) : Binary64 := ⟨isNegative, 0, minExponent⟩

/-- The number nearest to `digits * 10 ^ exponent`, if there is one.  The first two cases settle
what lies far outside the grids, so that no large power is computed. -/
def ofDecimal? (isNegative : Bool) (digits : Nat) (exponent : Int) : Option Binary64 :=
  let size : Int := exponent + (toString digits).length
  if digits = 0 ∨ size < -330 then some (zero isNegative)
  else if 310 < size then none
  else ofQuotient? isNegative (digits * Nat.pow 10 exponent.toNat) (Nat.pow 10 (-exponent).toNat)

def isZero (x : Binary64) : Bool := x.significand == 0

/-- The number as an integer, if it is one. -/
def integral? (x : Binary64) : Option Int :=
  let (n, d) := Number.onGrid 1 1 (-x.exponent)
  if x.significand * n % d = 0 then
    let magnitude := x.significand * n / d
    some (if x.isNegative then -(magnitude : Int) else magnitude)
  else none

example : (ofDecimal? false 9223372036854775 3).bind integral? = some 9223372036854774784 := by
  decide +kernel

example : ofDecimal? false 9007199254740993 0 = some ⟨false, Nat.pow 2 52, 1⟩ := by decide +kernel

example : ofDecimal? true 5 (-1) = some ⟨true, Nat.pow 2 52, -53⟩ := by decide +kernel

end Binary64

end FieldResolution
