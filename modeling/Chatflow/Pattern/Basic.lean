import Chatflow.Pattern.CharSet

/-!
# Patterns

What a pattern looks for: scalar values, places, and combinations of patterns.  A piece of text
matches a pattern in its surroundings, since places are told by the scalar values on both sides.
-/

namespace Chatflow

open Pattern

inductive Place where
  | textStart
  | textEnd
  /-- At the start or after a line feed. -/
  | lineStart
  | lineEnd
  /-- Like `lineStart`, with a carriage return, a line feed or both in this order as line ends. -/
  | mixedLineStart
  | mixedLineEnd
  /-- Between a word and something else; the set tells what words are made of. -/
  | wordBorder (word : CharSet)
  | noWordBorder (word : CharSet)
  | wordStart (word : CharSet)
  | wordEnd (word : CharSet)
  /-- Not behind a part of a word. -/
  | noWordBefore (word : CharSet)
  | noWordAfter (word : CharSet)
deriving DecidableEq, Repr

inductive Pattern where
  | empty
  | chars (set : CharSet)
  | place (place : Place)
  /-- A part that is marked as a group of its own, which makes no difference to what matches. -/
  | marked (body : Pattern)
  | andThen (first second : Pattern)
  | orElse (first second : Pattern)
  | repeated (least : Nat) (most : Option Nat) (body : Pattern)
deriving DecidableEq, Repr, Inhabited

namespace Place

/-- Whether a place between two scalar values, either of which may be missing, is of the kind. -/
def holds (place : Place) (before after : Option Char) : Bool :=
  let inWord (word : CharSet) (side : Option Char) : Bool := side.any word.contains
  match place with
  | textStart => before.isNone
  | textEnd => after.isNone
  | lineStart => before.isNone || before == some '\n'
  | lineEnd => after.isNone || after == some '\n'
  | mixedLineStart =>
    before.isNone || before == some '\n' || (before == some '\r' && after != some '\n')
  | mixedLineEnd =>
    after.isNone || after == some '\r' || (after == some '\n' && before != some '\r')
  | wordBorder word => inWord word before != inWord word after
  | noWordBorder word => inWord word before == inWord word after
  | wordStart word => !inWord word before && inWord word after
  | wordEnd word => inWord word before && !inWord word after
  | noWordBefore word => !inWord word before
  | noWordAfter word => !inWord word after

end Place

namespace Pattern

def never : Pattern := .chars .none

def sequence : List Pattern → Pattern
  | [] => .empty
  | [pattern] => pattern
  | pattern :: next :: patterns => .andThen pattern (sequence (next :: patterns))

def anyOf : List Pattern → Pattern
  | [] => never
  | [pattern] => pattern
  | pattern :: next :: patterns => .orElse pattern (anyOf (next :: patterns))

end Pattern

end Chatflow
