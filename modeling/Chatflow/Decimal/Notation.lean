import Chatflow.Decimal.Shortest
import Chatflow.Decimal.Word

/-!
# Written numbers

Numbers as people type them: integers with a sign, and real numbers with a point, an exponent or a
name.  A real number too large for a finite binary number counts as infinite.
-/

namespace Chatflow.Decimal

/-! ## Integers -/

def splitSign : List Char → Bool × List Char
  | '-' :: rest => (true, rest)
  | '+' :: rest => (false, rest)
  | cs => (false, cs)

def splitDigits (cs : List Char) : List Char × List Char :=
  (cs.takeWhile Char.isDigit, cs.dropWhile Char.isDigit)

def digitsValue (digits : List Char) : Nat :=
  digits.foldl (fun value c => value * 10 + (c.toNat - '0'.toNat)) 0

def digits? (cs : List Char) : Option Nat :=
  if !cs.isEmpty && cs.all Char.isDigit then some (digitsValue cs) else none

def natural? : List Char → Option Nat
  | '+' :: rest => digits? rest
  | cs => digits? cs

def integer? (cs : List Char) : Option Int :=
  let (negative, rest) := splitSign cs
  (digits? rest).map fun magnitude => if negative then -magnitude else magnitude

def int64? (cs : List Char) : Option Int64 :=
  (integer? cs).bind int64OfInt?

/-! ## Real numbers -/

inductive RealNumber where
  | finite (x : Binary64)
  | infinite (negative : Bool)
  | notANumber
deriving DecidableEq, Repr

namespace RealNumber

/-- The number nearest to `digits · 10 ^ power`.  Powers far out of range are not evaluated. -/
def ofDecimal (negative : Bool) (digits : Nat) (power : Int) : RealNumber :=
  let size := Binary64.digitCount digits + power
  if digits = 0 ∨ size < -400 then finite (.zero negative)
  else if 400 < size then infinite negative
  else
    match Binary64.ofDecimal? negative digits power with
    | some x => finite x
    | none => infinite negative

def exponent? : List Char → Option Int
  | [] => some 0
  | 'e' :: rest | 'E' :: rest => integer? rest
  | _ => none

/-- Reads digits, a point, digits and an exponent; most of them may be missing. -/
def ofDigits? (negative : Bool) (cs : List Char) : Option RealNumber :=
  let (whole, rest) := splitDigits cs
  let (fraction, rest) :=
    match rest with
    | '.' :: rest => splitDigits rest
    | rest => ([], rest)
  if whole.isEmpty && fraction.isEmpty then none
  else
    (exponent? rest).map fun exponent =>
      ofDecimal negative (digitsValue (whole ++ fraction)) (exponent - fraction.length)

def ofChars? (cs : List Char) : Option RealNumber :=
  let (negative, rest) := splitSign cs
  let name := String.ofList (rest.map Char.toLower)
  if name = "inf" ∨ name = "infinity" then some (infinite negative)
  else if name = "nan" then some notANumber
  else ofDigits? negative rest

def text : RealNumber → String
  | finite x => (if x.negative then "-" else "") ++ x.shortest.positional
  | infinite negative => if negative then "-inf" else "inf"
  | notANumber => "NaN"

/-- The nearest natural number that does not exceed a bound, halves away from zero. -/
def toNatural (bound : Nat) : RealNumber → Nat
  | finite x => if x.negative then 0 else min bound x.roundMagnitude
  | infinite negative => if negative then 0 else bound
  | notANumber => 0

end RealNumber

end Chatflow.Decimal
