import Chatflow.Pattern.Expression
import Chatflow.Text.Hexadecimal

/-!
# Reading expressions

The reader takes the text of a pattern apart.  Every function reads from the front of a text and
gives back what is left, or nothing if the text is no pattern.  While the flag `spaced` is on,
blanks and comments, which run from a number sign to the end of the line, are passed over between
the parts of an expression.
-/

namespace Chatflow.Pattern

open Unicode Text

/-! ## Blanks and comments -/

def skipSpace (inComment : Bool) : List Char → List Char
  | [] => []
  | c :: rest =>
    if inComment then skipSpace (c != '\n') rest
    else if isBlank c then skipSpace false rest
    else if c = '#' then skipSpace true rest
    else c :: rest

def skip (spaced : Bool) (cs : List Char) : List Char := if spaced then skipSpace false cs else cs

def readBraced (spaced inComment : Bool) : List Char → Option (List Char × List Char)
  | [] => none
  | c :: rest =>
    if inComment then readBraced spaced (c != '\n') rest
    else if spaced && isBlank c then readBraced spaced false rest
    else if spaced && c == '#' then readBraced spaced true rest
    else if c = '}' then some ([], rest)
    else (readBraced spaced false rest).map fun (inner, rest) => (c :: inner, rest)

/-! ## Escapes -/

def hexNumber? : List Char → Option Nat
  | [] => none
  | digits => (digits.mapM hexValue?).map (·.foldl (fun value digit => 16 * value + digit) 0)

def readHexDigits (spaced : Bool) : Nat → List Char → Option (List Char × List Char)
  | 0, cs => some ([], cs)
  | count + 1, cs =>
    match skip spaced cs with
    | [] => none
    | c :: rest =>
      (readHexDigits spaced count rest).map fun (digits, rest) => (c :: digits, rest)

def readByNumber (spaced : Bool) (width : Nat) (cs : List Char) : Option (Letter × List Char) :=
  match skip spaced cs with
  | '{' :: rest => do
    let (digits, rest) ← readBraced spaced false rest
    let c ← (hexNumber? digits).bind scalarValue?
    some (⟨c, false⟩, rest)
  | cs => do
    let (digits, rest) ← readHexDigits spaced width cs
    let c ← (hexNumber? digits).bind scalarValue?
    some (⟨c, width == 2⟩, rest)

def splitAtMark? (mark : List Char) : List Char → Option (List Char × List Char)
  | [] => none
  | c :: rest =>
    if mark.isPrefixOf (c :: rest) then some ([], (c :: rest).drop mark.length)
    else (splitAtMark? mark rest).map fun (before, after) => (c :: before, after)

/-- The set that a name in braces tells.  What stands between the property and its value makes no
difference. -/
def setNameOf (name : List Char) : SetName :=
  let split :=
    (splitAtMark? ['!', '='] name).or ((splitAtMark? [':'] name).or (splitAtMark? ['='] name))
  match split with
  | some (property, value) => ⟨String.ofList property, some (String.ofList value)⟩
  | none => ⟨String.ofList name, none⟩

def readSetName (spaced : Bool) (cs : List Char) : Option (SetName × List Char) :=
  match skip spaced cs with
  | [] => none
  | '{' :: rest => (readBraced spaced false rest).map fun (name, rest) => (setNameOf name, rest)
  | '\\' :: _ => none
  | c :: rest => some (⟨c.toString, none⟩, rest)

/-- The shorthands, each with the letter that means it and the one that means its complement. -/
def shorthandLetters : List (Char × Shorthand × Bool) :=
  [('d', .digit, false), ('D', .digit, true), ('s', .blank, false), ('S', .blank, true),
   ('w', .word, false), ('W', .word, true)]

def controlLetters : List (Char × Char) :=
  [('a', '\x07'), ('f', '\x0c'), ('t', '\t'), ('n', '\n'), ('r', '\r'), ('v', '\x0b')]

def assertionLetters : List (Char × Assertion) :=
  [('A', .textStart), ('z', .textEnd), ('B', .noWordBorder), ('<', .wordStart), ('>', .wordEnd)]

def borderNames : List (List Char × Assertion) :=
  [("start".toList, .wordStart), ("end".toList, .wordEnd), ("start-half".toList, .noWordBefore),
   ("end-half".toList, .noWordAfter)]

def standsForItself (c : Char) : Bool := c.toNat < 0x80 && !c.isAlphanum && c != '<' && c != '>'

def readWordBorder (spaced : Bool) : List Char → Option (Assertion × List Char)
  | '{' :: rest =>
    match skip spaced rest with
    | [] => none
    | c :: _ =>
      if c.isAlpha || c == '-' then do
        let (name, rest) ← readBraced spaced false rest
        let assertion ← borderNames.lookup name
        some (assertion, rest)
      else some (.wordBorder, '{' :: rest)
  | cs => some (.wordBorder, cs)

def readEscape (spaced : Bool) : List Char → Option (Expression × List Char)
  | [] => none
  | c :: rest =>
    match c with
    | 'x' => (readByNumber spaced 2 rest).map fun (letter, rest) => (.letter letter, rest)
    | 'u' => (readByNumber spaced 4 rest).map fun (letter, rest) => (.letter letter, rest)
    | 'U' => (readByNumber spaced 8 rest).map fun (letter, rest) => (.letter letter, rest)
    | 'p' => (readSetName spaced rest).map fun (name, rest) => (.named name false, rest)
    | 'P' => (readSetName spaced rest).map fun (name, rest) => (.named name true, rest)
    | 'b' => (readWordBorder spaced rest).map fun (border, rest) => (.assertion border, rest)
    | c =>
      if standsForItself c then some (.letter ⟨c, false⟩, rest)
      else
        match shorthandLetters.lookup c, controlLetters.lookup c, assertionLetters.lookup c with
        | some (shorthand, negated), _, _ => some (.shorthand shorthand negated, rest)
        | _, some control, _ => some (.letter ⟨control, false⟩, rest)
        | _, _, some assertion => some (.assertion assertion, rest)
        | none, none, none => none

/-! ## Sets in brackets -/

def readSetAtom (spaced : Bool) : List Char → Option (Expression × List Char)
  | [] => none
  | '\\' :: rest => readEscape spaced rest
  | c :: rest => some (.letter ⟨c, false⟩, rest)

def setItem? : Expression → Option SetExpression
  | .letter letter => some (.letter letter)
  | .shorthand shorthand negated => some (.shorthand shorthand negated)
  | .named name negated => some (.named name negated)
  | _ => none

/-- The scalar value that decides whether a hyphen before it makes a range.  Where blanks do not
count, neither do they here, nor does the first number sign. -/
def afterHyphen (spaced : Bool) (cs : List Char) : Option Char :=
  if spaced then
    match cs.filter fun c => !isBlank c with
    | '#' :: rest => rest.head?
    | rest => rest.head?
  else cs.head?

def readSetItem (spaced : Bool) (cs : List Char) : Option (SetExpression × List Char) := do
  let (first, rest) ← readSetAtom spaced cs
  match skip spaced rest with
  | '-' :: after =>
    if afterHyphen spaced after = some ']' ∨ afterHyphen spaced after = some '-' then
      (setItem? first).map fun item => (item, '-' :: after)
    else
      let (last, rest) ← readSetAtom spaced (skip spaced after)
      match first, last with
      | .letter first, .letter last =>
        if first.char ≤ last.char then some (.range first last, rest) else none
      | _, _ => none
  | rest => (setItem? first).map fun item => (item, rest)

def readClassName (negated : Bool) (cs : List Char) : Option (SetExpression × List Char) :=
  match cs.dropWhile (· != ':') with
  | ':' :: ']' :: rest =>
    (membersNamed? asciiClasses (String.ofList (cs.takeWhile (· != ':')))).map fun members =>
      (.asciiClass members negated, rest)
  | _ => none

def readAsciiClass : List Char → Option (SetExpression × List Char)
  | ':' :: '^' :: rest => readClassName true rest
  | ':' :: rest => readClassName false rest
  | _ => none

def operationOf? (a b : Char) : Option SetOperation :=
  if a ≠ b then none
  else if a = '&' then some .inter
  else if a = '-' then some .difference
  else if a = '~' then some .symmetricDifference
  else none

def combine (before : Option (SetOperation × SetExpression)) (items : List SetExpression) :
    SetExpression :=
  let content := SetExpression.ofItems items
  match before with
  | some (operation, left) => .combined operation left content
  | none => content

def readHyphens (spaced : Bool) : Nat → List Char → List SetExpression × List Char
  | 0, cs => ([], cs)
  | steps + 1, cs =>
    match cs with
    | '-' :: rest =>
      let (items, rest) := readHyphens spaced steps (skip spaced rest)
      (.letter ⟨'-', false⟩ :: items, rest)
    | cs => ([], cs)

/-- Reads the beginning of a set: a caret that negates it, and hyphens or a closing bracket that
stand for themselves there. -/
def readSetStart (spaced : Bool) (cs : List Char) : Bool × List SetExpression × List Char :=
  let (negated, cs) :=
    match skip spaced cs with
    | '^' :: rest => (true, skip spaced rest)
    | cs => (false, cs)
  match readHyphens spaced cs.length cs with
  | ([], ']' :: rest) => (negated, [.letter ⟨']', false⟩], rest)
  | (items, rest) => (negated, items, rest)

mutual

def readBracket (spaced : Bool) : Nat → List Char → Option ((Bool × SetExpression) × List Char)
  | 0, _ => none
  | steps + 1, cs =>
    let (negated, items, rest) := readSetStart spaced cs
    (readSetItems spaced steps none items.reverse rest).map fun (content, rest) =>
      ((negated, content), rest)

/-- Reads the items of a set up to its closing bracket; the items so far come last first. -/
def readSetItems (spaced : Bool) : Nat → Option (SetOperation × SetExpression) →
    List SetExpression → List Char → Option (SetExpression × List Char)
  | 0, _, _, _ => none
  | steps + 1, before, items, cs =>
    match skip spaced cs with
    | [] => none
    | ']' :: rest => some (combine before items.reverse, rest)
    | '[' :: rest =>
      match readAsciiClass rest with
      | some (item, rest) => readSetItems spaced steps before (item :: items) rest
      | none =>
        match readBracket spaced steps rest with
        | some ((negated, content), rest) =>
          readSetItems spaced steps before (.bracket negated content :: items) rest
        | none => none
    | c :: rest =>
      match rest.head?.bind (operationOf? c) with
      | some operation =>
        readSetItems spaced steps (some (operation, combine before items.reverse)) [] (rest.drop 1)
      | none =>
        match readSetItem spaced (c :: rest) with
        | some (item, rest) => readSetItems spaced steps before (item :: items) rest
        | none => none

end

/-! ## Repetition -/

def readCountDigits (spaced inComment : Bool) : List Char → List Char × List Char
  | [] => ([], [])
  | c :: rest =>
    if inComment then readCountDigits spaced (c != '\n') rest
    else if c.isDigit then
      let (digits, rest) := readCountDigits spaced false rest
      (c :: digits, rest)
    else if spaced && isBlank c then readCountDigits spaced false rest
    else if spaced && c == '#' then readCountDigits spaced true rest
    else ([], c :: rest)

def readCount (spaced : Bool) (cs : List Char) : Option Nat × List Char :=
  let (digits, rest) := readCountDigits spaced false (trimLeft cs)
  let value := digits.foldl (fun value c => value * 10 + (c.toNat - '0'.toNat)) 0
  (if digits.isEmpty ∨ 4294967296 ≤ value then none else some value, trimLeft rest)

def readLimits (spaced : Bool) (cs : List Char) : Option ((Nat × Option Nat) × List Char) :=
  match readCount spaced (skip spaced cs) with
  | (least, '}' :: rest) => least.map fun count => ((count, some count), rest)
  | (least, ',' :: rest) =>
    match skip spaced rest with
    | '}' :: rest => least.map fun count => ((count, none), rest)
    | rest =>
      match least, readCount spaced rest with
      | some least, (some most, '}' :: rest) =>
        if least ≤ most then some ((least, some most), rest) else none
      | _, _ => none
  | _ => none

def dropShortestMark : List Char → List Char
  | '?' :: rest => rest
  | cs => cs

/-- Repeats the last of the items so far, which has to be there and to match something. -/
def repeatLast? (least : Nat) (most : Option Nat) : List Expression → Option (List Expression)
  | [] => none
  | .flags _ :: _ => none
  | item :: items => some (.repeated least most item :: items)

/-! ## Groups -/

def flagLetters : List (Char × Flag) :=
  [('i', .caseless), ('m', .multiLine), ('s', .dotMeetsAll), ('U', .shortestFirst),
   ('u', .unicode), ('R', .mixedLineEnds), ('x', .spaced)]

/-- Reads flags up to a colon or a closing parenthesis.  Flags behind a hyphen are switched off;
no flag may be repeated and a hyphen needs a flag behind it. -/
def readFlags (value : Bool) (afterSign : Bool) (done : FlagChange) :
    List Char → Option (FlagChange × List Char)
  | [] => none
  | c :: rest =>
    if c = ':' ∨ c = ')' then if afterSign then none else some (done.reverse, c :: rest)
    else if c = '-' then if value then readFlags false true done rest else none
    else
      match flagLetters.lookup c with
      | some flag =>
        if done.any (·.1 == flag) then none else readFlags value false ((flag, value) :: done) rest
      | none => none

def isGroupNameChar (first : Bool) (c : Char) : Bool :=
  if first then c == '_' || inRuns Property.alphabetic c
  else
    c == '_' || c == '.' || c == '[' || c == ']' || inRuns Property.alphabetic c ||
      inRuns Category.number c

def readGroupName (first : Bool) : List Char → Option (List Char × List Char)
  | [] => none
  | c :: rest =>
    if c = '>' then some ([], rest)
    else if isGroupNameChar first c then
      (readGroupName false rest).map fun (name, rest) => (c :: name, rest)
    else none

inductive GroupStart where
  | flags (change : FlagChange)
  | plain (change : FlagChange)
  | marked
  | named (name : List Char)
deriving DecidableEq, Repr

def readNamedStart (cs : List Char) : Option (GroupStart × List Char) :=
  match readGroupName true cs with
  | some (c :: name, rest) => some (.named (c :: name), rest)
  | _ => none

def readGroupStart : List Char → Option (GroupStart × List Char)
  | '?' :: 'P' :: '<' :: rest => readNamedStart rest
  | '?' :: '<' :: '=' :: _ => none
  | '?' :: '<' :: '!' :: _ => none
  | '?' :: '<' :: rest => readNamedStart rest
  | '?' :: rest =>
    match readFlags true false [] rest with
    | some (change, ')' :: rest) => if change.isEmpty then none else some (.flags change, rest)
    | some (change, _ :: rest) => some (.plain change, rest)
    | _ => none
  | cs => some (.marked, cs)

/-! ## Expressions -/

structure ReaderState where
  spaced : Bool := false
  groupNames : List (List Char) := []
deriving DecidableEq, Repr

def ReaderState.change (state : ReaderState) (change : FlagChange) : ReaderState :=
  { state with spaced := (change.lookup .spaced).getD state.spaced }

def ReaderState.enter? (state : ReaderState) : GroupStart → Option ReaderState
  | .flags _ | .marked => some state
  | .plain change => some (state.change change)
  | .named name =>
    if state.groupNames.contains name then none
    else some { state with groupNames := name :: state.groupNames }

def GroupStart.around (start : GroupStart) (body : Expression) : Expression :=
  match start with
  | .plain change => .group false change body
  | .flags _ | .marked | .named _ => .group true [] body

def readAtom (spaced : Bool) (c : Char) (rest : List Char) : Option (Expression × List Char) :=
  match c with
  | '\\' => readEscape spaced rest
  | '.' => some (.dot, rest)
  | '^' => some (.assertion .lineStart, rest)
  | '$' => some (.assertion .lineEnd, rest)
  | c => some (.letter ⟨c, false⟩, rest)

mutual

def readBranches : Nat → ReaderState → List Char →
    Option (List Expression × ReaderState × List Char)
  | 0, _, _ => none
  | steps + 1, state, cs =>
    match readItems steps state [] cs with
    | some (branch, state, '|' :: rest) =>
      (readBranches steps state rest).map fun (branches, state, rest) =>
        (branch :: branches, state, rest)
    | some (branch, state, rest) => some ([branch], state, rest)
    | none => none

def readItems : Nat → ReaderState → List Expression → List Char →
    Option (Expression × ReaderState × List Char)
  | 0, _, _, _ => none
  | steps + 1, state, items, cs =>
    match skip state.spaced cs with
    | [] => some (.ofItems items.reverse, state, [])
    | c :: rest =>
      match c with
      | '|' => some (.ofItems items.reverse, state, '|' :: rest)
      | ')' => some (.ofItems items.reverse, state, ')' :: rest)
      | '(' =>
        match readGroupStart (skip state.spaced rest) with
        | none => none
        | some (.flags change, rest) =>
          readItems steps (state.change change) (.flags change :: items) rest
        | some (start, rest) =>
          match state.enter? start with
          | none => none
          | some inner =>
            match readBranches steps inner rest with
            | some (branches, inner, ')' :: rest) =>
              readItems steps { inner with spaced := state.spaced }
                (start.around (.ofBranches branches) :: items) rest
            | _ => none
      | '[' =>
        match readBracket state.spaced steps rest with
        | some ((negated, content), rest) =>
          readItems steps state (.bracket negated content :: items) rest
        | none => none
      | '?' =>
        match repeatLast? 0 (some 1) items with
        | some items => readItems steps state items (dropShortestMark rest)
        | none => none
      | '*' =>
        match repeatLast? 0 none items with
        | some items => readItems steps state items (dropShortestMark rest)
        | none => none
      | '+' =>
        match repeatLast? 1 none items with
        | some items => readItems steps state items (dropShortestMark rest)
        | none => none
      | '{' =>
        match readLimits state.spaced rest with
        | some ((least, most), rest) =>
          match repeatLast? least most items with
          | some items =>
            readItems steps state items (dropShortestMark (skip state.spaced rest))
          | none => none
        | none => none
      | c =>
        match readAtom state.spaced c rest with
        | some (item, rest) => readItems steps state (item :: items) rest
        | none => none

end

/-- Reads a whole text as one expression whose parts do not nest too deep.  Every step reads on or
enters a group that it has read the beginning of, so twice as many steps as there are characters
are enough. -/
def Expression.read? (text : List Char) : Option Expression :=
  match readBranches (2 * text.length + 2) {} text with
  | some (branches, _, []) =>
    let expression := Expression.ofBranches branches
    if expression.depth ≤ depthLimit then some expression else none
  | _ => none

end Chatflow.Pattern
