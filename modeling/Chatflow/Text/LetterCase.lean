import Chatflow.Text.LetterCase.Table

/-!
# Lower case

Lower-casing replaces every capital letter by its small form.  Two letters need more than a look
at themselves: the dotted capital I becomes an `i` with a combining dot, and the capital sigma
becomes the final sigma at the end of a word, that is, when a letter with case stands before it
and none after it, ignorable marks passed over.
-/

namespace Chatflow.Text

open Chatflow.Unicode LetterCase

def isCased (c : Char) : Bool := inRuns casedRuns c

def isCaseIgnorable (c : Char) : Bool := inRuns caseIgnorableRuns c

def smallCode (code : Nat) : Nat :=
  match capitals.find? (·.members.contains code) with
  | some row => (code + row.distance).toNat
  | none => code

def dottedCapitalI : Char := 'İ'

def capitalSigma : Char := 'Σ'

def smallForm (c : Char) : List Char :=
  if c = dottedCapitalI then ['i', '\u0307'] else [Char.ofNat (smallCode c.toNat)]

def meetsCased (cs : List Char) : Bool :=
  match cs.dropWhile isCaseIgnorable with
  | [] => false
  | c :: _ => isCased c

/-- Whether a sigma is the last letter of its word; what stands before it is given backwards. -/
def isWordEnd (before after : List Char) : Bool := meetsCased before && !meetsCased after

/-- The small form of a letter in its place; what stands before it is given backwards. -/
def smallFormIn (before : List Char) (c : Char) (after : List Char) : List Char :=
  if c = capitalSigma then [if isWordEnd before after then 'ς' else 'σ'] else smallForm c

def lowerAfter (before : List Char) : List Char → List Char
  | [] => []
  | c :: after => smallFormIn before c after ++ lowerAfter (c :: before) after

def lowerChars (cs : List Char) : List Char := lowerAfter [] cs

def lower (text : String) : String := String.ofList (lowerChars text.toList)

@[simp] theorem toList_lower (text : String) : (lower text).toList = lowerChars text.toList := by
  simp [lower]

end Chatflow.Text
