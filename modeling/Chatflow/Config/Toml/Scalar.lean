import Chatflow.Calendar
import Chatflow.Config.Value
import Chatflow.Text.Hexadecimal

/-!
# Scalars of TOML

The values that are written as one word: truth values, numbers, and dates and times, which count as
texts.  Underscores may stand between the digits of a number.
-/

namespace Chatflow.Config.Toml

open Decimal

/-! ## Numbers -/

def groupedDigits? (isDigit : Char → Bool) (cs : List Char) : Option (List Char) :=
  let groups := Text.splitChars '_' cs
  if groups.all fun group => !group.isEmpty && group.all isDigit then some groups.flatten else none

def leadingDigits? (cs : List Char) : Option (List Char) :=
  (groupedDigits? Char.isDigit cs).filter fun digits => digits == ['0'] || digits.head? != some '0'

def inRange? (n : Int) : Option Value :=
  if FitsSigned n then some (.integer n) else none

def based? (base : Nat) (cs : List Char) : Option Value :=
  let digit? (c : Char) : Option Nat := (Text.hexValue? c).filter (· < base)
  (groupedDigits? (fun c => (digit? c).isSome) cs).bind fun digits =>
    let magnitude : Nat := digits.foldl (fun value c => value * base + (digit? c).getD 0) 0
    inRange? magnitude

def integer? (cs : List Char) : Option Value :=
  match cs with
  | '0' :: 'x' :: rest => based? 16 rest
  | '0' :: 'o' :: rest => based? 8 rest
  | '0' :: 'b' :: rest => based? 2 rest
  | cs =>
    let (negative, rest) := splitSign cs
    (leadingDigits? rest).bind fun digits =>
      let magnitude : Int := digitsValue digits
      inRange? (if negative then -magnitude else magnitude)

def isGrouped (c : Char) : Bool := c.isDigit || c == '_'

def exponent? : List Char → Option Int
  | [] => some 0
  | c :: rest =>
    if c = 'e' ∨ c = 'E' then
      let (negative, rest) := splitSign rest
      (groupedDigits? Char.isDigit rest).map fun digits =>
        let magnitude : Int := digitsValue digits
        if negative then -magnitude else magnitude
    else none

def fraction? : List Char → Option (List Char × List Char)
  | '.' :: rest =>
    (groupedDigits? Char.isDigit (rest.takeWhile isGrouped)).map fun digits =>
      (digits, rest.dropWhile isGrouped)
  | rest => some ([], rest)

def real? (cs : List Char) : Option Value :=
  let (negative, rest) := splitSign cs
  if rest = "inf".toList then some (.real (.infinite negative))
  else if rest = "nan".toList then some (.real .notANumber)
  else
    (leadingDigits? (rest.takeWhile isGrouped)).bind fun whole =>
      (fraction? (rest.dropWhile isGrouped)).bind fun (fraction, rest) =>
        (exponent? rest).bind fun exponent =>
          let value := RealNumber.ofDecimal negative (digitsValue (whole ++ fraction))
            (exponent - fraction.length)
          if value = .infinite false then none else some (.real value)

/-! ## Dates and times -/

def fixedNumber? (width : Nat) (cs : List Char) : Option (Nat × List Char) :=
  if (cs.take width).length = width then
    (digits? (cs.take width)).map fun value => (value, cs.drop width)
  else none

def fixedNumbers? (separator : Char) : List Nat → List Char → Option (List Nat × List Char)
  | [], cs => some ([], cs)
  | [width], cs => (fixedNumber? width cs).map fun (value, rest) => ([value], rest)
  | width :: widths, cs =>
    match fixedNumber? width cs with
    | some (value, c :: rest) =>
      if c = separator then
        (fixedNumbers? separator widths rest).map fun (values, rest) => (value :: values, rest)
      else none
    | _ => none

def date? (cs : List Char) : Option (List Char × List Char) :=
  match fixedNumbers? '-' [4, 2, 2] cs with
  | some ([year, month, day], rest) =>
    if Calendar.IsDate ⟨year, month, day⟩ then some (cs.take 10, rest) else none
  | _ => none

/-- The text of the fraction of a second: nine digits without the zeros at their end. -/
def fractionText (digits : List Char) : List Char :=
  let kept := ((digits.take 9).reverse.dropWhile (· == '0')).reverse
  if kept.isEmpty then [] else '.' :: kept

def time? (cs : List Char) : Option (List Char × List Char) :=
  match fixedNumbers? ':' [2, 2, 2] cs with
  | some ([hour, minute, second], rest) =>
    if hour < 24 ∧ minute < 60 ∧ second ≤ 60 then
      match rest with
      | '.' :: rest =>
        let (digits, rest) := splitDigits rest
        if digits.isEmpty then none else some (cs.take 8 ++ fractionText digits, rest)
      | rest => some (cs.take 8, rest)
    else none
  | _ => none

def offset? : List Char → Option (List Char)
  | [] => some []
  | ['Z'] | ['z'] => some ['Z']
  | c :: rest =>
    if c = '+' ∨ c = '-' then
      match fixedNumbers? ':' [2, 2] rest with
      | some ([hour, minute], []) => if hour < 24 ∧ minute < 60 then some (c :: rest) else none
      | _ => none
    else none

/-- A date, a time of day, or both with or without an offset, as text. -/
def moment? (cs : List Char) : Option Value :=
  let found :=
    match date? cs with
    | some (date, []) => some date
    | some (date, c :: rest) =>
      if c = 'T' ∨ c = 't' ∨ c = ' ' then
        (time? rest).bind fun (time, rest) =>
          (offset? rest).map fun offset => date ++ 'T' :: time ++ offset
      else none
    | none =>
      match time? cs with
      | some (time, []) => some time
      | _ => none
  found.map fun text => .text (String.ofList text)

/-! ## Words -/

def scalar? (word : List Char) : Option Value :=
  if word = "true".toList then some (.boolean true)
  else if word = "false".toList then some (.boolean false)
  else ((integer? word).or (real? word)).or (moment? word)

def isWordChar (c : Char) : Bool :=
  c.isAlphanum || c == '_' || c == '+' || c == '-' || c == '.' || c == ':'

/-- Reads a word.  A date may be followed by a space and a time. -/
def readScalar (cs : List Char) : Option (Value × List Char) :=
  let word := cs.takeWhile isWordChar
  match cs.dropWhile isWordChar with
  | ' ' :: d :: rest =>
    if word.length = 10 ∧ (date? word).isSome ∧ d.isDigit then
      let time := (d :: rest).takeWhile isWordChar
      (scalar? (word ++ ' ' :: time)).map fun value => (value, (d :: rest).dropWhile isWordChar)
    else (scalar? word).map fun value => (value, ' ' :: d :: rest)
  | rest => (scalar? word).map fun value => (value, rest)

end Chatflow.Config.Toml
