import Chatflow.Config.Value
import Chatflow.Text.Hexadecimal

/-!
# Scalars of YAML

A plain word can be null, a truth value, a number or a text; a quoted one is always a text.  Quoted
texts go over several lines, which are folded: a single line end counts as a space, and each further
one as a line end.
-/

namespace Chatflow.Config.Yaml

open Decimal

/-! ## Plain words -/

def based? (base : Nat) (cs : List Char) : Option Value :=
  let (negative, rest) := splitSign cs
  if rest.isEmpty then none
  else
    (rest.mapM fun c => (Text.hexValue? c).filter (· < base)).bind fun digits =>
      let magnitude : Nat := digits.foldl (fun value digit => value * base + digit) 0
      let value : Int := if negative then -magnitude else magnitude
      if FitsSigned value then some (.integer value) else none

def integer? (cs : List Char) : Option Value :=
  match cs with
  | '0' :: 'x' :: rest => based? 16 rest
  | '0' :: 'o' :: rest => based? 8 rest
  | cs => (int64? cs).map fun n => .integer n.toInt

/-- Words that stand for numbers which no setting can have. -/
def beyondNumbers : List String :=
  [".inf", ".Inf", ".INF", "+.inf", "+.Inf", "+.INF", "-.inf", "-.Inf", "-.INF", ".nan", ".NaN",
   ".NAN"]

def real? (cs : List Char) : Option Value :=
  if cs.any Char.isDigit then (RealNumber.ofChars? cs).map .real else none

def plain? (cs : List Char) : Option Value :=
  let word := String.ofList cs
  if word = "~" ∨ word = "null" ∨ word = "" then some .null
  else if word = "true" then some (.boolean true)
  else if word = "false" then some (.boolean false)
  else if beyondNumbers.contains word then none
  else some (((integer? cs).or (real? cs)).getD (.text word))

def keyText? : Value → Option String
  | .text key => some key
  | .integer key => some (toString key)
  | _ => none

/-! ## Quoted texts -/

def isBlank (c : Char) : Bool := c == ' ' || c == '\t'

/-- The blanks and line ends at the start of a text as one folded line end, and what follows. -/
def foldLines (cs : List Char) : List Char × List Char :=
  let isSpace (c : Char) : Bool := isBlank c || c == '\n' || c == '\r'
  let ends := ((cs.takeWhile isSpace).filter (· == '\n')).length
  (if ends ≤ 1 then [' '] else List.replicate (ends - 1) '\n', cs.dropWhile isSpace)

def endsLine (cs : List Char) : Bool :=
  match cs.dropWhile isBlank with
  | '\n' :: _ | '\r' :: '\n' :: _ => true
  | _ => false

theorem foldLines_length (cs : List Char) : (foldLines cs).2.length ≤ cs.length :=
  (List.dropWhile_sublist _).length_le

def readSingleQuoted : List Char → Option (List Char × List Char)
  | [] => none
  | '\'' :: '\'' :: rest => (readSingleQuoted rest).map fun (text, rest) => ('\'' :: text, rest)
  | '\'' :: rest => some ([], rest)
  | c :: rest =>
    if endsLine (c :: rest) then
      (readSingleQuoted (foldLines rest).2).map fun (text, more) =>
        ((foldLines (c :: rest)).1 ++ text, more)
    else (readSingleQuoted rest).map fun (text, rest) => (c :: text, rest)
termination_by cs => cs.length
decreasing_by
  all_goals simp only [List.length_cons]
  any_goals omega
  have := foldLines_length rest
  omega

def shortEscapes : List (Char × Char) :=
  [('0', '\x00'), ('a', '\x07'), ('b', '\x08'), ('t', '\t'), ('n', '\n'), ('v', '\x0b'),
   ('f', '\x0c'), ('r', '\r'), ('e', '\x1b'), (' ', ' '), ('"', '"'), ('/', '/'), ('\\', '\\'),
   ('N', '\u0085'), ('_', '\u00a0'), ('L', '\u2028'), ('P', '\u2029')]

def codeWidths : List (Char × Nat) := [('x', 2), ('u', 4), ('U', 8)]

def codedChar? (width : Nat) (digits : List Char) : Option Char :=
  if digits.length = width then
    (digits.mapM Text.hexValue?).bind fun values =>
      Text.scalarValue? (values.foldl (fun code value => 16 * code + value) 0)
  else none

def readDoubleQuoted : List Char → Option (List Char × List Char)
  | [] => none
  | '"' :: rest => some ([], rest)
  | '\\' :: '\n' :: rest => readDoubleQuoted (rest.dropWhile isBlank)
  | '\\' :: c :: rest =>
    match shortEscapes.lookup c, codeWidths.lookup c with
    | some char, _ => (readDoubleQuoted rest).map fun (text, rest) => (char :: text, rest)
    | none, some width =>
      match codedChar? width (rest.take width), readDoubleQuoted (rest.drop width) with
      | some char, some (text, rest) => some (char :: text, rest)
      | _, _ => none
    | none, none => none
  | c :: rest =>
    if endsLine (c :: rest) then
      (readDoubleQuoted (foldLines rest).2).map fun (text, more) =>
        ((foldLines (c :: rest)).1 ++ text, more)
    else (readDoubleQuoted rest).map fun (text, rest) => (c :: text, rest)
termination_by cs => cs.length
decreasing_by
  all_goals simp only [List.length_cons, List.length_drop]
  any_goals omega
  · have := (List.dropWhile_sublist isBlank (l := rest)).length_le
    omega
  · have := foldLines_length rest
    omega

end Chatflow.Config.Yaml
