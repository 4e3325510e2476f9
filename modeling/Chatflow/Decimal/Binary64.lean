/-!
# Finite binary floating-point numbers

A finite 64-bit binary number is a sign and a magnitude `significand · 2 ^ exponent` with a
significand below `2 ^ 53` and an exponent from −1074 to 971.  The significand is at least `2 ^ 52`
unless the exponent is the least one, so every magnitude has one representation.

Every operation is one exact rational operation followed by `roundRatio`, which takes a quotient of
natural numbers to the nearest such magnitude, a tie to the even significand.
-/

namespace Chatflow.Decimal

structure Binary64 where
  negative : Bool
  significand : Nat
  exponent : Int
deriving DecidableEq, Repr

namespace Binary64

abbrev normalCount : Nat := 4503599627370496

def minExponent : Int := -1074

def maxExponent : Int := 971

def zero (negative : Bool) : Binary64 := ⟨negative, 0, minExponent⟩

def isZero (x : Binary64) : Bool := x.significand == 0

/-! ## Rounding -/

/-- The quotient of natural numbers nearest to `numerator / denominator`, ties to even. -/
def roundDiv (numerator denominator : Nat) : Nat :=
  let quotient := numerator / denominator
  let remainder := numerator % denominator
  if 2 * remainder < denominator then quotient
  else if denominator < 2 * remainder then quotient + 1
  else if quotient % 2 = 0 then quotient
  else quotient + 1

def scale (numerator denominator : Nat) (exponent : Int) : Nat × Nat :=
  if 0 ≤ exponent then (numerator, denominator * Nat.pow 2 exponent.toNat)
  else (numerator * Nat.pow 2 (-exponent).toNat, denominator)

/-- The exponent at which a quotient has 53 binary digits before the point, but at least the
least exponent. -/
def exponentFor (numerator denominator : Nat) : Int :=
  let guess : Int := Nat.log2 numerator - Nat.log2 denominator - 52
  let (n, d) := scale numerator denominator guess
  let exact := if n < d * normalCount then guess - 1 else guess
  max minExponent exact

/-- The magnitude nearest to a quotient, or nothing if that is beyond the greatest one. -/
def roundRatio (negative : Bool) (numerator denominator : Nat) : Option Binary64 :=
  if numerator = 0 then some (zero negative)
  else
    let exponent := exponentFor numerator denominator
    let (n, d) := scale numerator denominator exponent
    let significand := roundDiv n d
    let rounded : Binary64 :=
      if significand = 2 * normalCount then ⟨negative, normalCount, exponent + 1⟩
      else ⟨negative, significand, exponent⟩
    if rounded.exponent ≤ maxExponent then some rounded else none

def ratio (x : Binary64) : Nat × Nat :=
  if 0 ≤ x.exponent then (x.significand * Nat.pow 2 x.exponent.toNat, 1)
  else (x.significand, Nat.pow 2 (-x.exponent).toNat)

def ofNat? (n : Nat) : Option Binary64 := roundRatio false n 1

def mul? (x y : Binary64) : Option Binary64 :=
  roundRatio (x.negative != y.negative) (x.ratio.1 * y.ratio.1) (x.ratio.2 * y.ratio.2)

def div? (x y : Binary64) : Option Binary64 :=
  roundRatio (x.negative != y.negative) (x.ratio.1 * y.ratio.2) (x.ratio.2 * y.ratio.1)

def ofDecimal? (negative : Bool) (digits : Nat) (power : Int) : Option Binary64 :=
  if 0 ≤ power then roundRatio negative (digits * Nat.pow 10 power.toNat) 1
  else roundRatio negative digits (Nat.pow 10 (-power).toNat)

def roundMagnitude (x : Binary64) : Nat :=
  (2 * x.ratio.1 + x.ratio.2) / (2 * x.ratio.2)

end Binary64

end Chatflow.Decimal
