import Chatflow.Unicode.Folding

/-!
# Sets of scalar values

A set is kept as it is put together: runs of code points, the operations on sets, and the closure
under the writings of the same letter.  Membership is decided along that structure, so each
operation has the membership law that its name promises.
-/

namespace Chatflow.Pattern

open Unicode

inductive CharSet where
  | runs (runs : List Run)
  | union (a b : CharSet)
  | inter (a b : CharSet)
  | complement (a : CharSet)
  /-- All writings of the letters in the set. -/
  | folded (a : CharSet)
deriving DecidableEq, Repr, Inhabited

namespace CharSet

/-! ## Membership -/

def containsCode : CharSet → Nat → Bool
  | runs list, code => list.any (·.contains code)
  | union a b, code => a.containsCode code || b.containsCode code
  | inter a b, code => a.containsCode code && b.containsCode code
  | complement a, code => !a.containsCode code
  | folded a, code => a.containsCode code || (foldPartners code).any a.containsCode

def contains (set : CharSet) (c : Char) : Bool := set.containsCode c.toNat

/-! ## Sets by name -/

def none : CharSet := runs []

def any : CharSet := complement none

def ascii : CharSet := runs [⟨0, 0x7F, 1⟩]

def single (c : Char) : CharSet := runs [⟨c.toNat, c.toNat, 1⟩]

def range (first last : Char) : CharSet := runs [⟨first.toNat, last.toNat, 1⟩]

/-- All writings of one letter. -/
def writings (c : Char) : CharSet :=
  runs ((c.toNat :: foldPartners c.toNat).map fun code => ⟨code, code, 1⟩)

def difference (a b : CharSet) : CharSet := inter a (complement b)

def symmetricDifference (a b : CharSet) : CharSet := union (difference a b) (difference b a)

@[simp] theorem contains_none (c : Char) : none.contains c = false := rfl

end CharSet

end Chatflow.Pattern
