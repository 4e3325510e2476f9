import Chatflow.Pattern.Property

/-!
# Expressions

What the text of a pattern says, before its flags are taken into account.  An expression is limited
in how deep its parts nest; scalar values, places and sets with a name do not count.
-/

namespace Chatflow.Pattern

open Unicode

inductive Flag where
  | caseless
  | multiLine
  | dotMeetsAll
  | shortestFirst
  | unicode
  | mixedLineEnds
  | spaced
deriving DecidableEq, Repr

abbrev FlagChange := List (Flag × Bool)

/-- A scalar value; `isByte` tells that it is written as two hexadecimal digits. -/
structure Letter where
  char : Char
  isByte : Bool := false
deriving DecidableEq, Repr

inductive Assertion where
  | lineStart
  | lineEnd
  | textStart
  | textEnd
  | wordBorder
  | noWordBorder
  | wordStart
  | wordEnd
  | noWordBefore
  | noWordAfter
deriving DecidableEq, Repr

/-- A Unicode set, told by a name or by a property and its value. -/
structure SetName where
  name : String
  value : Option String
deriving DecidableEq, Repr

inductive SetOperation where
  | inter
  | difference
  | symmetricDifference
deriving DecidableEq, Repr

inductive SetExpression where
  | letter (letter : Letter)
  | range (first last : Letter)
  | asciiClass (members : List Run) (negated : Bool)
  | shorthand (shorthand : Shorthand) (negated : Bool)
  | named (name : SetName) (negated : Bool)
  | bracket (negated : Bool) (content : SetExpression)
  | union (items : List SetExpression)
  | combined (operation : SetOperation) (a b : SetExpression)
deriving Repr, Inhabited

inductive Expression where
  | letter (letter : Letter)
  | dot
  | assertion (assertion : Assertion)
  | shorthand (shorthand : Shorthand) (negated : Bool)
  | named (name : SetName) (negated : Bool)
  | bracket (negated : Bool) (content : SetExpression)
  /-- Switches flags up to the end of the group. -/
  | flags (change : FlagChange)
  | group (marked : Bool) (change : FlagChange) (body : Expression)
  | repeated (least : Nat) (most : Option Nat) (body : Expression)
  | sequence (items : List Expression)
  | alternatives (branches : List Expression)
deriving Repr, Inhabited

def SetExpression.ofItems : List SetExpression → SetExpression
  | [item] => item
  | items => .union items

def Expression.ofItems : List Expression → Expression
  | [item] => item
  | items => .sequence items

def Expression.ofBranches : List Expression → Expression
  | [branch] => branch
  | branches => .alternatives branches

/-! ## Nesting -/

mutual

def SetExpression.depth : SetExpression → Nat
  | .bracket _ content => content.depth + 1
  | .union [] => 0
  | .union (item :: items) => SetExpression.greatestDepth (item :: items) + 1
  | .combined _ a b => max a.depth b.depth + 1
  | .letter _ | .range _ _ | .asciiClass _ _ | .shorthand _ _ | .named _ _ => 0

def SetExpression.greatestDepth : List SetExpression → Nat
  | [] => 0
  | item :: items => max item.depth (greatestDepth items)

end

mutual

def Expression.depth : Expression → Nat
  | .bracket _ content => content.depth + 1
  | .group _ _ body => body.depth + 1
  | .repeated _ _ body => body.depth + 1
  | .sequence [] => 0
  | .sequence (item :: items) => Expression.greatestDepth (item :: items) + 1
  | .alternatives branches => Expression.greatestDepth branches + 1
  | .letter _ | .dot | .assertion _ | .shorthand _ _ | .named _ _ | .flags _ => 0

def Expression.greatestDepth : List Expression → Nat
  | [] => 0
  | item :: items => max item.depth (greatestDepth items)

end

def depthLimit : Nat := 250

end Chatflow.Pattern
