import Chatflow.Pattern.Basic
import Chatflow.Pattern.Expression

/-!
# The meaning of expressions

An expression means a pattern under the flags that hold where it stands.  A change of flags inside
a group holds up to the end of the group, across its alternatives.  Without the flag `unicode` only
what never takes a scalar value apart has a meaning: ASCII sets, and scalar values as themselves.
-/

namespace Chatflow.Pattern

open Unicode

/-! ## Flags -/

structure Flags where
  caseless : Bool := false
  multiLine : Bool := false
  dotMeetsAll : Bool := false
  unicode : Bool := true
  mixedLineEnds : Bool := false
deriving DecidableEq, Repr

/-- Switches one flag.  Which match is preferred and how the text was laid out do not matter
here. -/
def Flags.set (flags : Flags) (flag : Flag) (value : Bool) : Flags :=
  match flag with
  | .caseless => { flags with caseless := value }
  | .multiLine => { flags with multiLine := value }
  | .dotMeetsAll => { flags with dotMeetsAll := value }
  | .unicode => { flags with unicode := value }
  | .mixedLineEnds => { flags with mixedLineEnds := value }
  | .shortestFirst | .spaced => flags

def Flags.change (flags : Flags) (change : FlagChange) : Flags :=
  change.foldl (fun flags (flag, value) => flags.set flag value) flags

/-! ## Sets -/

def asciiWritings (c : Char) : CharSet := .inter (.writings c) .ascii

def letterSet? (flags : Flags) (letter : Letter) : Option CharSet :=
  let c := letter.char
  if flags.unicode then some (if flags.caseless then .writings c else .single c)
  else if letter.isByte && 0x80 ≤ c.toNat then none
  else if flags.caseless && c.toNat < 0x80 then some (asciiWritings c)
  else some (.single c)

/-- A scalar value between brackets, which has to be ASCII without the flag `unicode`. -/
def setLetter? (flags : Flags) (letter : Letter) : Option Char :=
  if flags.unicode || letter.char.toNat < 0x80 then some letter.char else none

def foldIf (flags : Flags) (set : CharSet) : CharSet :=
  if !flags.caseless then set
  else if flags.unicode then .folded set
  else .inter (.folded set) .ascii

def negate? (flags : Flags) (negated : Bool) (set : CharSet) : Option CharSet :=
  if !negated then some set
  else if flags.unicode then some (.complement set)
  else none

def shorthandSet? (flags : Flags) (shorthand : Shorthand) (negated : Bool) : Option CharSet :=
  negate? flags negated (if flags.unicode then shorthand.members else shorthand.asciiMembers)

def namedSet? (flags : Flags) (name : SetName) (negated : Bool) : Option CharSet :=
  if flags.unicode then
    let set :=
      match name.value with
      | some value => setWithValue? name.name value
      | none => setNamed? name.name
    set.bind fun set => negate? flags negated (foldIf flags set)
  else none

def SetOperation.apply : SetOperation → CharSet → CharSet → CharSet
  | inter, a, b => .inter a b
  | difference, a, b => .difference a b
  | symmetricDifference, a, b => .symmetricDifference a b

mutual

/-- The set of the content of brackets.  Case is looked at when a set is closed, and in the
operands of an operation. -/
def SetExpression.set? (flags : Flags) : SetExpression → Option CharSet
  | .letter written => (setLetter? flags written).map .single
  | .range first last =>
    match setLetter? flags first, setLetter? flags last with
    | some first, some last => some (.range first last)
    | _, _ => none
  | .asciiClass members negated => negate? flags negated (foldIf flags (.runs members))
  | .shorthand kind negated => shorthandSet? flags kind negated
  | .named name negated => namedSet? flags name negated
  | .bracket negated content =>
    (content.set? flags).bind fun set => negate? flags negated (foldIf flags set)
  | .union items => SetExpression.unionSet? flags items
  | .combined operation a b =>
    match a.set? flags, b.set? flags with
    | some a, some b => some (operation.apply (foldIf flags a) (foldIf flags b))
    | _, _ => none

def SetExpression.unionSet? (flags : Flags) : List SetExpression → Option CharSet
  | [] => some .none
  | item :: items =>
    match item.set? flags, unionSet? flags items with
    | some set, some rest => some (.union set rest)
    | _, _ => none

end

/-! ## Places -/

def Assertion.place (flags : Flags) (assertion : Assertion) : Place :=
  let word := if flags.unicode then wordSet else Shorthand.word.asciiMembers
  match assertion with
  | lineStart =>
    if !flags.multiLine then .textStart
    else if flags.mixedLineEnds then .mixedLineStart
    else .lineStart
  | lineEnd =>
    if !flags.multiLine then .textEnd
    else if flags.mixedLineEnds then .mixedLineEnd
    else .lineEnd
  | textStart => .textStart
  | textEnd => .textEnd
  | wordBorder => .wordBorder word
  | noWordBorder => .noWordBorder word
  | wordStart => .wordStart word
  | wordEnd => .wordEnd word
  | noWordBefore => .noWordBefore word
  | noWordAfter => .noWordAfter word

/-! ## Expressions -/

def dotSet? (flags : Flags) : Option CharSet :=
  if !flags.unicode then none
  else if flags.dotMeetsAll then some .any
  else if flags.mixedLineEnds then some (.complement (.runs [⟨0xA, 0xA, 1⟩, ⟨0xD, 0xD, 1⟩]))
  else some (.complement (.runs [⟨0xA, 0xA, 1⟩]))

mutual

def Expression.meaning? (flags : Flags) : Expression → Option (Pattern × Flags)
  | .letter written => (letterSet? flags written).map fun set => (.chars set, flags)
  | .dot => (dotSet? flags).map fun set => (.chars set, flags)
  | .assertion kind => some (.place (kind.place flags), flags)
  | .shorthand kind negated =>
    (shorthandSet? flags kind negated).map fun set => (.chars set, flags)
  | .named name negated => (namedSet? flags name negated).map fun set => (.chars set, flags)
  | .bracket negated content =>
    ((content.set? flags).bind fun set => negate? flags negated (foldIf flags set)).map
      fun set => (.chars set, flags)
  | .flags change => some (.empty, flags.change change)
  | .group isMarked change body =>
    (body.meaning? (flags.change change)).map fun (pattern, _) =>
      (if isMarked then .marked pattern else pattern, flags)
  | .repeated least most body =>
    (body.meaning? flags).map fun (pattern, flags) => (.repeated least most pattern, flags)
  | .sequence items =>
    (Expression.meanings? flags items).map fun (patterns, flags) => (Pattern.sequence patterns, flags)
  | .alternatives branches =>
    (Expression.meanings? flags branches).map fun (patterns, flags) => (Pattern.anyOf patterns, flags)

def Expression.meanings? (flags : Flags) : List Expression → Option (List Pattern × Flags)
  | [] => some ([], flags)
  | item :: items =>
    match item.meaning? flags with
    | none => none
    | some (pattern, flags) =>
      (meanings? flags items).map fun (patterns, flags) => (pattern :: patterns, flags)

end

end Chatflow.Pattern
