import Chatflow.Decimal.Binary64

/-!
# Shortest decimals

The shortest decimal of a floating-point number is the one with the fewest digits among those that
read back as the number; of several with as few digits it is the one nearest to the number.  All
numbers between two boundaries read back as the number; the boundaries lie half way to the
neighbouring numbers and read back as the number if its significand is even.
-/

namespace Chatflow.Decimal

structure Scientific where
  digits : Nat
  power : Int
deriving DecidableEq, Repr

namespace Binary64

/-- Four times the significand, and the distance to the two boundaries on that scale.  The lower
boundary of a power of two is nearer, since its lower neighbours are closer together. -/
def boundaries (x : Binary64) : Nat × Nat × Nat :=
  (4 * x.significand, if x.significand = normalCount ∧ minExponent < x.exponent then 1 else 2, 2)

/-- A comparison of `digits · 10 ^ power` with `quarter · 2 ^ (exponent − 2)`. -/
def compareDecimal (digits : Nat) (power : Int) (quarter : Nat) (exponent : Int) : Ordering :=
  let left := digits * Nat.pow 10 power.toNat * Nat.pow 2 (2 - exponent).toNat
  let right := quarter * Nat.pow 10 (-power).toNat * Nat.pow 2 (exponent - 2).toNat
  compare left right

def readsBack (x : Binary64) (digits : Nat) (power : Int) : Bool :=
  let (middle, below, above) := x.boundaries
  let even := x.significand % 2 == 0
  let low := compareDecimal digits power (middle - below) x.exponent
  let high := compareDecimal digits power (middle + above) x.exponent
  (low == .gt || (even && low == .eq)) && (high == .lt || (even && high == .eq))

def floorAt (x : Binary64) (power : Int) : Nat :=
  (x.ratio.1 * Nat.pow 10 (-power).toNat) / (x.ratio.2 * Nat.pow 10 power.toNat)

def lowerIsNearer (x : Binary64) (digits : Nat) (power : Int) : Bool :=
  match compareDecimal (2 * digits + 1) power (8 * x.significand) x.exponent with
  | .gt => true
  | .lt => false
  | .eq => digits % 2 == 0

/-- The neighbour of the magnitude on the grid of `10 ^ power` that reads back, if there is one. -/
def onGrid? (x : Binary64) (power : Int) : Option Scientific :=
  let lower := x.floorAt power
  match x.readsBack lower power, x.readsBack (lower + 1) power with
  | true, true => some ⟨if x.lowerIsNearer lower power then lower else lower + 1, power⟩
  | true, false => some ⟨lower, power⟩
  | false, true => some ⟨lower + 1, power⟩
  | false, false => none

def digitCount (n : Nat) : Nat := (Nat.toDigits 10 n).length

def leadingPower (x : Binary64) : Int :=
  let (n, d) := x.ratio
  if d ≤ n then digitCount (n / d) - 1
  else
    let guess : Int := (digitCount n : Int) - digitCount d
    if d ≤ n * Nat.pow 10 (-guess).toNat then guess else guess - 1

def shortestFrom (x : Binary64) (power : Int) : Nat → Scientific
  | 0 => ⟨x.floorAt power, power⟩
  | steps + 1 =>
    match x.onGrid? power with
    | some found => found
    | none => shortestFrom x (power - 1) steps

def dropZeros : Nat → Scientific → Scientific
  | 0, x => x
  | steps + 1, x =>
    if x.digits ≠ 0 ∧ x.digits % 10 = 0 then dropZeros steps ⟨x.digits / 10, x.power + 1⟩ else x

/-- The shortest decimal of the magnitude; seventeen digits always read back. -/
def shortest (x : Binary64) : Scientific :=
  if x.isZero then ⟨0, 0⟩
  else dropZeros 20 (shortestFrom x (x.leadingPower + 1) 19)

end Binary64

/-! ## Writing -/

def Scientific.positional (x : Scientific) : String :=
  let digits := Nat.toDigits 10 x.digits
  if 0 ≤ x.power then String.ofList (digits ++ List.replicate x.power.toNat '0')
  else
    let places := (-x.power).toNat
    let padded := List.replicate (places + 1 - digits.length) '0' ++ digits
    let whole := padded.length - places
    String.ofList (padded.take whole ++ '.' :: padded.drop whole)

def Scientific.exponential (x : Scientific) : String :=
  let digits := Nat.toDigits 10 x.digits
  let exponent := x.power + (digits.length - 1)
  let mantissa :=
    match digits with
    | first :: second :: rest => first :: '.' :: second :: rest
    | short => short
  String.ofList mantissa ++ "e" ++ (if exponent < 0 then "-" else "+") ++
    toString exponent.natAbs

end Chatflow.Decimal
