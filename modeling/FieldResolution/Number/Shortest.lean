import FieldResolution.Number.Binary64

/-!
# Shortest decimals

The decimal text of a binary number: the fewest digits that are rounded back to it, and of those
the nearest to it, a tie going to the even digit.  Numbers from `10 ^ -4` up to `10 ^ 16` are
written with a point, and at least one digit behind it; all others with an exponent.
-/

namespace FieldResolution

/-- The number `digits * 10 ^ exponent`. -/
structure Decimal where
  digits : Nat
  exponent : Int
  deriving DecidableEq, Repr

namespace Number

/-- How `a * 10 ^ i` compares with `b * 2 ^ j`. -/
def compareScaled (a : Nat) (i : Int) (b : Nat) (j : Int) : Ordering :=
  compare (a * Nat.pow 10 i.toNat * Nat.pow 2 (-j).toNat)
    (b * Nat.pow 2 j.toNat * Nat.pow 10 (-i).toNat)

/-- The least exponent from the given one on whose power of ten exceeds `m * 2 ^ q`, looking at
most as many steps ahead as the count says. -/
def scaleFrom (m : Nat) (q : Int) : Nat → Int → Int
  | 0, k => k
  | steps + 1, k => if compareScaled 1 k m q == .gt then k else scaleFrom m q steps (k + 1)

/-- The number of digits of `m * 2 ^ q` before the point, negative if zeros follow the point.  A
binary digit is worth 0.30103 decimal ones. -/
def scale (m : Nat) (q : Int) : Int :=
  scaleFrom m q 4 ((((Nat.log2 m : Int) + q) * 30103).fdiv 100000)

/-- Moves the zeros at the end of some digits into the exponent. -/
def stripZeros : Nat → Nat → Int → Decimal
  | 0, digits, exponent => ⟨digits, exponent⟩
  | steps + 1, digits, exponent =>
    if digits % 10 = 0 then stripZeros steps (digits / 10) (exponent + 1) else ⟨digits, exponent⟩

end Number

namespace Binary64

/-- Is a decimal rounded to the magnitude of this number?  The bounds are half way to the two
neighbours, and belong to the number if its significand is even.  Below a power of two the
neighbours stand twice as close. -/
def readsBack (x : Binary64) (d : Decimal) : Bool :=
  let isNarrow := x.significand == Nat.pow 2 52 && decide (minExponent < x.exponent)
  let low := 4 * x.significand - (if isNarrow then 1 else 2)
  let high := 4 * x.significand + 2
  let isClosed := x.significand % 2 == 0
  let below := Number.compareScaled d.digits d.exponent low (x.exponent - 2)
  let above := Number.compareScaled d.digits d.exponent high (x.exponent - 2)
  (below == .gt || (isClosed && below == .eq)) && (above == .lt || (isClosed && above == .eq))

/-- The magnitude of this number on the grid of a power of ten, rounded down. -/
def floorOn (x : Binary64) (exponent : Int) : Nat :=
  (x.significand * Nat.pow 2 x.exponent.toNat * Nat.pow 10 (-exponent).toNat) /
    (Nat.pow 2 (-x.exponent).toNat * Nat.pow 10 exponent.toNat)

/-- The nearer of two neighbours on the grid of a power of ten, the even one if both are as near. -/
def nearer (x : Binary64) (floor : Nat) (exponent : Int) : Nat :=
  match Number.compareScaled (2 * floor + 1) exponent (2 * x.significand) x.exponent with
  | .gt => floor
  | .lt => floor + 1
  | .eq => floor + floor % 2

/-- The decimal with the given number of digits that is rounded to this number, if there is one. -/
def decimalOf? (x : Binary64) (count : Nat) : Option Decimal :=
  let e := Number.scale x.significand x.exponent - count
  let floor := x.floorOn e
  match x.readsBack ⟨floor, e⟩, x.readsBack ⟨floor + 1, e⟩ with
  | true, true => some ⟨x.nearer floor e, e⟩
  | true, false => some ⟨floor, e⟩
  | false, true => some ⟨floor + 1, e⟩
  | false, false => none

/-- The exact decimal value of this number. -/
def exactDecimal (x : Binary64) : Decimal :=
  ⟨x.significand * Nat.pow 2 x.exponent.toNat * Nat.pow 5 (-x.exponent).toNat, min x.exponent 0⟩

/-- The shortest decimal that is rounded to the magnitude of this number; seventeen digits
suffice. -/
def shortest (x : Binary64) : Decimal :=
  if x.isZero then ⟨0, 0⟩
  else
    let d := ((List.range' 1 17).findSome? x.decimalOf?).getD x.exactDecimal
    Number.stripZeros (toString d.digits).length d.digits d.exponent

end Binary64

namespace Decimal

/-- The exponent of the first digit, with a sign and at least two digits. -/
def exponentText (e : Int) : String :=
  let digits := toString e.natAbs
  (if e < 0 then "e-" else "e+") ++ (if digits.length < 2 then "0" else "") ++ digits

/-- Digits with a point behind the first few of them. -/
def pointed (digits : List Char) (whole : Nat) : String :=
  String.ofList (digits.take whole ++ '.' :: digits.drop whole)

/-- A decimal written out. -/
def text (d : Decimal) : String :=
  let digits := (toString d.digits).toList
  let first : Int := d.exponent + digits.length - 1
  if first < -4 ∨ 16 ≤ first then
    (if digits.length = 1 then String.ofList digits else pointed digits 1) ++ exponentText first
  else if first < 0 then
    "0." ++ String.ofList (List.replicate (-first - 1).toNat '0' ++ digits)
  else if d.exponent < 0 then pointed digits (first + 1).toNat
  else String.ofList (digits ++ List.replicate d.exponent.toNat '0') ++ ".0"

end Decimal

/-- The shortest decimal text of a number. -/
def Binary64.text (x : Binary64) : String :=
  (if x.isNegative then "-" else "") ++ x.shortest.text

example : (Binary64.ofDecimal? true 15 (-1)).map Binary64.text = some "-1.5" := by decide +kernel

example : (Binary64.ofDecimal? false 1 23).map Binary64.text = some "1e+23" := by decide +kernel

example : (Binary64.ofDecimal? false 4 (-324)).map Binary64.text = some "5e-324" := by
  decide +kernel

example : (Binary64.ofDecimal? false 0 0).map Binary64.text = some "0.0" := by decide +kernel

end FieldResolution
