import Chatflow.Pattern.Meaning
import Chatflow.Pattern.Reader
import Chatflow.Pattern.Search
import Chatflow.Pattern.Size

/-!
# Patterns from text

A text is accepted as a pattern if it can be read, if it means something, and if the pattern is
not too large.
-/

namespace Chatflow.Pattern

def ofText? (text : String) : Option Pattern := do
  let expression ← Expression.read? text.toList
  let (pattern, _) ← expression.meaning? {}
  if isWithinLimit pattern then some pattern else none

def isFoundIn (pattern : Pattern) (text : String) : Bool := pattern.finds text.toList

end Chatflow.Pattern
