import Chatflow.Pattern.Basic

/-!
# Searching

A search follows all ways to match at once.  It keeps one mark per position of the text, the end
included, and each pattern maps the marks of the positions where it may begin to the marks of the
positions where it may then end.  A text has a match if some mark is left when every position was
marked at first.
-/

namespace Chatflow.Pattern

/-- One mark per position of a text. -/
abbrev Marks := List Bool

/-! ## Single steps -/

def borders (before : Option Char) : List Char → List (Option Char × Option Char)
  | [] => [(before, none)]
  | c :: rest => (before, some c) :: borders (some c) rest

def advance (set : CharSet) (text : List Char) (marks : Marks) : Marks :=
  false :: List.zipWith (fun mark c => mark && set.contains c) marks text

def keepAt (place : Place) (text : List Char) (marks : Marks) : Marks :=
  List.zipWith (fun mark border => mark && place.holds border.1 border.2) marks (borders none text)

def merge (a b : Marks) : Marks := List.zipWith (· || ·) a b

/-! ## Repetition -/

def applyTimes (step : Marks → Marks) : Nat → Marks → Marks
  | 0, marks => marks
  | count + 1, marks =>
    let next := step marks
    if next = marks then marks else applyTimes step count next

def spread (step : Marks → Marks) (count : Nat) (marks : Marks) : Marks :=
  applyTimes (fun marks => merge marks (step marks)) count marks

/-! ## Following a pattern -/

/-- The positions where a pattern may end if it begins at the marked positions.  Each round of an
unlimited repetition marks a new position or is the last. -/
def follow (text : List Char) : Pattern → Marks → Marks
  | .empty, marks => marks
  | .chars set, marks => advance set text marks
  | .place kind, marks => keepAt kind text marks
  | .marked body, marks => follow text body marks
  | .andThen first second, marks => follow text second (follow text first marks)
  | .orElse first second, marks => merge (follow text first marks) (follow text second marks)
  | .repeated least most body, marks =>
    let step := follow text body
    spread step (most.elim (text.length + 1) (· - least)) (applyTimes step least marks)

def finds (pattern : Pattern) (text : List Char) : Bool :=
  (follow text pattern (List.replicate (text.length + 1) true)).any id

end Chatflow.Pattern
