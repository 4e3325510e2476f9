/-!
# Runs of code points

Sets of scalar values are tabulated as runs: the code points from a first to a last one at a fixed
step.  A step of two covers the alternating capital and small letters of many scripts in one run.
The written form of a run is its bounds in hexadecimal, `41-5A`, followed by `/2` if the step is
not one.
-/

namespace Chatflow.Unicode

/-- The code points `first`, `first + step`, … that do not exceed `last`. -/
structure Run where
  first : Nat
  last : Nat
  step : Nat := 1
deriving DecidableEq, Repr

namespace Run

def contains (run : Run) (code : Nat) : Bool :=
  run.first ≤ code && code ≤ run.last && (code - run.first) % run.step == 0

theorem contains_iff (run : Run) (code : Nat) :
    run.contains code = true ↔
      run.first ≤ code ∧ code ≤ run.last ∧ (code - run.first) % run.step = 0 := by
  simp [contains, and_assoc]

/-! ## Written form -/

def hexDigit? (c : Char) : Option Nat :=
  if '0' ≤ c ∧ c ≤ '9' then some (c.toNat - '0'.toNat)
  else if 'A' ≤ c ∧ c ≤ 'F' then some (c.toNat - 'A'.toNat + 10)
  else none

def readHex (value : Nat) : List Char → Nat × List Char
  | [] => (value, [])
  | c :: rest =>
    match hexDigit? c with
    | some digit => readHex (16 * value + digit) rest
    | none => (value, c :: rest)

def ofWord (word : List Char) : Run :=
  match readHex 0 word with
  | (first, '-' :: rest) =>
    match readHex 0 rest with
    | (last, '/' :: step) => ⟨first, last, (readHex 0 step).1⟩
    | (last, _) => ⟨first, last, 1⟩
  | (first, _) => ⟨first, first, 1⟩

/-- The words of a text, with the reversed beginning of the first word.  Words are separated by
spaces and line ends. -/
def words (word : List Char) : List Char → List (List Char)
  | [] => if word.isEmpty then [] else [word.reverse]
  | c :: rest =>
    if c == ' ' || c == '\n' then
      if word.isEmpty then words [] rest else word.reverse :: words [] rest
    else words (c :: word) rest

def ofText (text : String) : List Run :=
  (words [] text.toList).map ofWord

end Run

def inRuns (runs : List Run) (c : Char) : Bool :=
  runs.any (·.contains c.toNat)

structure NamedSet where
  names : List String
  members : List Run

def membersNamed? (sets : List NamedSet) (name : String) : Option (List Run) :=
  (sets.find? fun set => set.names.contains name).map (·.members)

end Chatflow.Unicode
