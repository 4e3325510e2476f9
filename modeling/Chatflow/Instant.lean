import Chatflow.Calendar
import Chatflow.Json.Record
import Chatflow.Text.Blank

/-!
# Instants

A point in time in UTC: a day, a second of the day and a nanosecond.  A leap second is the last
second of a minute with nanoseconds from `10 ^ 9` on.  Instants are written as in RFC 3339, with as
many groups of three fraction digits as are needed, and read with any offset from UTC, with
blanks around the separators and with numbers that are not padded.
-/

namespace Chatflow

structure Instant where
  /-- The day, counted from the first of January of the year 1. -/
  day : Int
  second : Nat
  nanosecond : Nat
  second_lt : second < 86400
  nanosecond_lt : nanosecond < 2000000000
deriving DecidableEq

namespace Instant

open Text

def isAtMost (a b : Instant) : Bool :=
  decide (a.day < b.day ∨ a.day = b.day ∧
    (a.second < b.second ∨ a.second = b.second ∧ a.nanosecond ≤ b.nanosecond))

def ofUnixNanoseconds (nanoseconds : Int) : Instant where
  day := Calendar.dayNumber ⟨1970, 1, 1⟩ + nanoseconds / (86400000000000)
  second := (nanoseconds / 1000000000 % 86400).toNat
  nanosecond := (nanoseconds % 1000000000).toNat
  second_lt := by omega
  nanosecond_lt := by omega

/-! ## Writing -/

def padded : Nat → Nat → List Char
  | 0, _ => []
  | count + 1, n => padded count (n / 10) ++ [Nat.digitChar (n % 10)]

/-- Years of four digits stand as they are; other years have a sign. -/
def yearText (year : Int) : List Char :=
  if 0 ≤ year ∧ year ≤ 9999 then padded 4 year.toNat
  else
    let digits := Nat.toDigits 10 year.natAbs
    (if year < 0 then '-' else '+') :: (List.replicate (4 - digits.length) '0' ++ digits)

def fractionText (nanosecond : Nat) : List Char :=
  if nanosecond = 0 then []
  else if nanosecond % 1000000 = 0 then '.' :: padded 3 (nanosecond / 1000000)
  else if nanosecond % 1000 = 0 then '.' :: padded 6 (nanosecond / 1000)
  else '.' :: padded 9 nanosecond

def textChars (instant : Instant) : List Char :=
  let date := Calendar.dateOf instant.day
  let leap := 1000000000 ≤ instant.nanosecond
  let second := instant.second % 60 + if leap then 1 else 0
  yearText date.year ++ '-' :: padded 2 date.month ++ '-' :: padded 2 date.day ++
    'T' :: padded 2 (instant.second / 3600) ++ ':' :: padded 2 (instant.second / 60 % 60) ++
    ':' :: padded 2 second ++ fractionText (instant.nanosecond % 1000000000) ++ ['Z']

def text (instant : Instant) : String := String.ofList (textChars instant)

/-! ## Reading -/

def digitsValue (digits : List Char) : Nat :=
  digits.foldl (fun value c => value * 10 + (c.toNat - '0'.toNat)) 0

def readNumber (width : Nat) (cs : List Char) : Option (Nat × List Char) :=
  let digits := (cs.take width).takeWhile Char.isDigit
  if digits.isEmpty then none else some (digitsValue digits, cs.drop digits.length)

def readLongNumber (cs : List Char) : Option (Nat × List Char) := readNumber cs.length cs

def readYear (cs : List Char) : Option (Int × List Char) :=
  match trimLeft cs with
  | '-' :: rest => (readLongNumber rest).map fun (n, rest) => (-n, rest)
  | '+' :: rest => (readLongNumber rest).map fun (n, rest) => (n, rest)
  | rest => (readNumber 4 rest).map fun (n, rest) => (n, rest)

def readPart (separator : Char) (cs : List Char) : Option (Nat × List Char) :=
  match trimLeft cs with
  | c :: rest => if c = separator then readNumber 2 (trimLeft rest) else none
  | [] => none

/-- Reads the fraction of a second in nanoseconds; digits after the ninth do not count. -/
def readNanosecond : List Char → Option (Nat × List Char)
  | '.' :: cs =>
    (readNumber 9 cs).map fun (n, rest) =>
      (n * Nat.pow 10 (9 - (cs.length - rest.length)), rest.dropWhile Char.isDigit)
  | cs => some (0, cs)

def isSeparator (c : Char) : Bool := c == ':' || isBlank c

def readTwoDigits (bound : Nat) : List Char → Option (Nat × List Char)
  | a :: b :: rest =>
    if a.isDigit && b.isDigit && a.toNat - '0'.toNat ≤ bound then
      some (digitsValue [a, b], rest)
    else none
  | _ => none

def readHoursMinutes (cs : List Char) : Option (Nat × List Char) :=
  (readTwoDigits 9 cs).bind fun (hours, rest) =>
    (readTwoDigits 5 (rest.dropWhile isSeparator)).map fun (minutes, rest) =>
      (hours * 3600 + minutes * 60, rest)

def toLowerAscii (c : Char) : Char := c.toLower

def readOffset (cs : List Char) : Option (Int × List Char) :=
  if (cs.take 3).map toLowerAscii = "utc".toList then some (0, cs.drop 3)
  else
    match cs with
    | 'Z' :: rest | 'z' :: rest => some (0, rest)
    | '+' :: rest => (readHoursMinutes rest).map fun (n, rest) => (n, rest)
    | '-' :: rest | '−' :: rest => (readHoursMinutes rest).map fun (n, rest) => (-n, rest)
    | _ => none

def yearRange (year : Int) : Bool := decide (-262143 ≤ year ∧ year ≤ 262142)

/-- The instant of a local date and time at an offset; the sixtieth second of a minute is a leap
second. -/
def ofLocal? (date : Date) (hour minute second nanosecond : Nat) (offset : Int) :
    Option Instant :=
  if Calendar.IsDate date ∧ yearRange date.year ∧ hour < 24 ∧ minute < 60 ∧ second ≤ 60 ∧
      nanosecond < 1000000000 ∧ offset.natAbs < 86400 then
    let leap := second = 60
    let secondOfDay : Int :=
      hour * 3600 + minute * 60 + (if leap then 59 else second) - offset
    let day := Calendar.dayNumber date + secondOfDay / 86400
    let nanosecond := if leap then nanosecond + 1000000000 else nanosecond
    if h : (secondOfDay % 86400).toNat < 86400 ∧ nanosecond < 2000000000 then
      if yearRange (Calendar.dateOf day).year then
        some ⟨day, (secondOfDay % 86400).toNat, nanosecond, h.1, h.2⟩
      else none
    else none
  else none

def dropDateTimeMark : List Char → Option (List Char)
  | 'T' :: rest | 't' :: rest | ' ' :: rest => some rest
  | _ => none

def ofChars? (cs : List Char) : Option Instant := do
  let (year, cs) ← readYear cs
  let (month, cs) ← readPart '-' cs
  let (day, cs) ← readPart '-' cs
  let cs ← dropDateTimeMark cs
  let (hour, cs) ← readNumber 2 (trimLeft cs)
  let (minute, cs) ← readPart ':' cs
  let (second, cs) ← readPart ':' cs
  let (nanosecond, cs) ← readNanosecond cs
  let (offset, cs) ← readOffset (trimLeft cs)
  if (trimLeft cs).isEmpty then
    ofLocal? ⟨year, month, day⟩ hour minute second nanosecond offset
  else none

def ofText? (text : String) : Option Instant := ofChars? text.toList

/-! ## JSON -/

def toJson (instant : Instant) : Json := .string instant.text

def ofDocument? (document : Json.Document) : Option Instant := document.string?.bind ofText?

end Instant

end Chatflow
