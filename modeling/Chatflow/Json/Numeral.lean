import Chatflow.Json.Basic

/-!
# Numerals

The value of the text of a JSON number.  An integer without fraction and exponent is exact as long
as it fits; minus zero does not count as an integer.  Every other numeral stands for a binary
number, which is found in two steps: as many leading digits as fit into 64 bits make an integer,
and that integer, rounded to a binary number, is multiplied or divided by a rounded power of ten.
The result can differ from the nearest binary number in the last place.
-/

namespace Chatflow.Json

open Decimal

/-- The parts of the text of a number; `exponent` holds whether the exponent is negative. -/
structure Numeral where
  negative : Bool
  digits : List Nat
  fraction : Option (List Nat) := none
  exponent : Option (Bool × List Nat) := none
deriving DecidableEq, Repr

namespace Numeral

/-- Extends an integer by digits while it fits into 64 bits; the digits left over come second. -/
def absorb (significand : Nat) : List Nat → Nat × List Nat
  | [] => (significand, [])
  | digit :: digits =>
    if significand * 10 + digit < wordCount then absorb (significand * 10 + digit) digits
    else (significand, digit :: digits)

def decimalValue (digits : List Nat) : Nat := digits.foldl (fun value digit => value * 10 + digit) 0

def greatestPower : Nat := 308

/-- Multiplies by a power of ten.  Two divisions by the greatest power take every 64-bit integer to
zero, so three steps are enough. -/
def timesPower : Nat → Binary64 → Int → Option Binary64
  | 0, x, _ => some x
  | steps + 1, x, power =>
    if power.natAbs ≤ greatestPower then
      (Binary64.ofDecimal? false 1 power.natAbs).bind fun factor =>
        if 0 ≤ power then x.mul? factor else x.div? factor
    else if x.isZero then some x
    else if 0 ≤ power then none
    else
      (Binary64.ofDecimal? false 1 greatestPower).bind fun factor =>
        (x.div? factor).bind fun smaller => timesPower steps smaller (power + greatestPower)

def binary? (negative : Bool) (significand : Nat) (power : Int) : Option Binary64 :=
  ((Binary64.ofNat? significand).bind (timesPower 4 · power)).map ({ · with negative })

def greatestExponent : Nat := 2147483647

def withExponent? (negative : Bool) (significand : Nat) (power : Int) :
    Option (Bool × List Nat) → Option Binary64
  | none => binary? negative significand power
  | some (down, digits) =>
    let size := decimalValue digits
    if greatestExponent < size then
      if significand ≠ 0 ∧ !down then none else some (.zero negative)
    else binary? negative significand (if down then power - size else power + size)

def integerValue? (negative : Bool) (magnitude : Nat) : Option Number :=
  if negative && (magnitude == 0 || 9223372036854775808 < magnitude) then
    (Binary64.ofNat? magnitude).map fun x => .binary { x with negative := true }
  else (Whole.ofInt? (if negative then -magnitude else magnitude)).map .whole

def value? (numeral : Numeral) : Option Number :=
  let (whole, dropped) := absorb 0 numeral.digits
  match numeral.fraction, numeral.exponent, dropped with
  | none, none, [] => integerValue? numeral.negative whole
  | fraction, exponent, dropped =>
    let places := fraction.getD []
    let (significand, ignored) := absorb whole places
    let power : Int := dropped.length - (places.length - ignored.length : Nat)
    (withExponent? numeral.negative significand power exponent).map .binary

end Numeral

end Chatflow.Json
