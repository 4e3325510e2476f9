import Chatflow.Pattern.Basic

/-!
# The size of patterns

A pattern counts by the memory that an automaton for it takes, which reads the bytes of UTF-8 text
forward or backward.  The parts of a sequence are joined without states between them, a repeated
part is copied as often as its count asks, and within a set the automaton shares what its scalar
values have in common: the ends of their bytes if it reads forward, the beginnings if backward.
-/

namespace Chatflow.Pattern

open Unicode

/-! ## Sets as spans -/

abbrev Span := Nat × Nat

def joinSpans : List Span → List Span
  | [] => []
  | [span] => [span]
  | (first, last) :: (nextFirst, nextLast) :: rest =>
    if nextFirst ≤ last + 1 then joinSpans ((first, max last nextLast) :: rest)
    else (first, last) :: joinSpans ((nextFirst, nextLast) :: rest)
termination_by spans => spans.length

def normalSpans (spans : List Span) : List Span :=
  joinSpans (spans.mergeSort fun a b => a.1 ≤ b.1)

def gaps (first : Nat) : List Span → List Span
  | [] => if first ≤ 0x10FFFF then [(first, 0x10FFFF)] else []
  | (low, high) :: rest => if first < low then (first, low - 1) :: gaps (high + 1) rest
    else gaps (high + 1) rest

def runSpans (run : Run) (span : Span) : List Span :=
  let low := max run.first span.1
  let high := min run.last span.2
  if high < low then []
  else if run.step = 1 then [(low, high)]
  else ((List.range (high - low + 1)).map (low + ·)).filterMap fun code =>
    if run.contains code then some (code, code) else none

def partnerSpans (span : Span) : List Span :=
  Folding.table.flatMap fun row =>
    let moved : Run := ⟨row.members.first + row.distance, row.members.last + row.distance,
      row.members.step⟩
    (runSpans row.members span).map (fun s => (s.1 + row.distance, s.2 + row.distance)) ++
      (runSpans moved span).map fun s => (s.1 - row.distance, s.2 - row.distance)

def CharSet.spans : CharSet → List Span
  | .runs list => normalSpans (list.flatMap fun run => runSpans run (0, 0x10FFFF))
  | .union a b => normalSpans (a.spans ++ b.spans)
  | .inter a b => gaps 0 (normalSpans (gaps 0 a.spans ++ gaps 0 b.spans))
  | .complement a => gaps 0 a.spans
  | .folded a => normalSpans (a.spans ++ a.spans.flatMap partnerSpans)

/-! ## Spans as bytes -/

abbrev ByteRanges := List Span

/-- The byte ranges of the numbers between two numbers of base-64 digits, the first digit being
raised by a lead. -/
def byteRanges (lead : Nat) : Nat → Nat → Nat → List ByteRanges
  | 0, low, high => [[(lead + low, lead + high)]]
  | count + 1, low, high =>
    let block := Nat.pow 64 (count + 1)
    let a := low / block
    let b := high / block
    let after (digit : Nat) (low high : Nat) : List ByteRanges :=
      (byteRanges 0x80 count low high).map ((lead + digit, lead + digit) :: ·)
    if a = b then after a (low % block) (high % block)
    else
      let firstPart := if low % block = 0 then [] else after a (low % block) (block - 1)
      let lastPart := if high % block = block - 1 then [] else after b 0 (high % block)
      let c := if low % block = 0 then a else a + 1
      let d := if high % block = block - 1 then b else b - 1
      let middle :=
        if c ≤ d then
          [(lead + c, lead + d) :: List.replicate (count + 1) (0x80, 0xBF)]
        else []
      firstPart ++ middle ++ lastPart

/-- The scalar values that take the same number of bytes: the smallest, the largest, the lead of
the first byte and the number of the bytes after it. -/
def byteClasses : List (Nat × Nat × Nat × Nat) :=
  [(0, 0x7F, 0, 0), (0x80, 0x7FF, 0xC0, 1), (0x800, 0xD7FF, 0xE0, 2), (0xE000, 0xFFFF, 0xE0, 2),
   (0x10000, 0x10FFFF, 0xF0, 3)]

def spanBytes (span : Span) : List ByteRanges :=
  byteClasses.flatMap fun (low, high, lead, count) =>
    if max low span.1 ≤ min high span.2 then
      byteRanges lead count (max low span.1) (min high span.2)
    else []

/-! ## Sets in automata -/

/-- The memory of a state, of a way out of a state to another under a range of bytes, and of one
under no condition. -/
def stateSize : Nat := 32

def rangeSize : Nat := 8

def choiceSize : Nat := 4

def groupByFirst : List ByteRanges → List (Span × List ByteRanges)
  | [] => []
  | [] :: rest => groupByFirst rest
  | (range :: ranges) :: rest =>
    match groupByFirst rest with
    | (next, group) :: groups =>
      if next = range then (range, ranges :: group) :: groups
      else (range, [ranges]) :: (next, group) :: groups
    | [] => [(range, [ranges])]

abbrev Branching := List (Span × Nat)

/-- Adds the states for byte ranges to those there are, unless an equal state is there already, and
gives the number of the first of them.  Number 0 is the end. -/
def shareStates : Nat → List ByteRanges → List Branching → Nat × List Branching
  | 0, _, states => (0, states)
  | depth + 1, sequences, states =>
    match groupByFirst sequences with
    | [] => (0, states)
    | groups =>
      let (ways, states) := groups.foldl
        (fun (ways, states) (range, rest) =>
          let (target, states) := shareStates depth rest states
          (ways ++ [(range, target)], states))
        (([] : Branching), states)
      match states.idxOf? ways with
      | some index => (index + 1, states)
      | none => (states.length + 1, states ++ [ways])

def countBeginnings : Nat → List ByteRanges → Nat
  | 0, _ => 0
  | depth + 1, sequences =>
    ((groupByFirst sequences).map fun group => countBeginnings depth group.2 + 1).foldl (· + ·) 0

def byteCount (code : Nat) : Nat :=
  if code < 0x80 then 1 else if code < 0x800 then 2 else if code < 0x10000 then 3 else 4

def CharSet.size (backward : Bool) (set : CharSet) : Nat :=
  let spans := set.spans
  let isSingle := match spans with
    | [(a, b)] => a == b
    | _ => false
  if spans.isEmpty then stateSize
  else if isSingle then stateSize * byteCount (spans.headD (0, 0)).1
  else if spans.all (·.2 < 0x80) then 2 * stateSize + rangeSize * spans.length
  else
    let sequences := spans.flatMap spanBytes
    if backward then
      2 * stateSize + choiceSize * sequences.length + stateSize * countBeginnings 4 sequences
    else
      let states := (shareStates 4 sequences []).2
      stateSize + (states.map fun ways => stateSize + rangeSize * ways.length).foldl (· + ·) 0

/-! ## Patterns in automata -/

/-- What has to be known of a part to tell the size of the whole. -/
structure Extent where
  /-- The size of the part alone, as a part of a sequence, and as branches of a choice. -/
  size : Nat
  partSize : Nat
  branchSize : Nat
  branches : Nat := 1
  /-- The set, if the part is a set or a choice of sets. -/
  set : Option CharSet := none
  /-- Bounds for the length of a match; none of the least means that there is no match. -/
  shortest : Option Nat
  longest : Option Nat

namespace Extent

def ofSize (size : Nat) (shortest longest : Option Nat) : Extent :=
  { size, partSize := size, branchSize := size, shortest, longest }

def empty : Extent := { ofSize stateSize (some 0) (some 0) with partSize := 0 }

def ofSet (backward : Bool) (set : CharSet) : Extent :=
  let length := if set.spans.isEmpty then none else some 1
  { ofSize (set.size backward) length length with set := some set }

def marked (backward : Bool) (body : Extent) : Extent :=
  ofSize (body.size + if backward then 0 else 2 * stateSize) body.shortest body.longest

def both (combine : Nat → Nat → Nat) (a b : Option Nat) : Option Nat :=
  a.bind fun a => b.map (combine a)

def andThen (a b : Extent) : Extent :=
  let total := a.partSize + b.partSize
  let size := if total = 0 then stateSize else total
  { size, partSize := total, branchSize := size,
    shortest := both (· + ·) a.shortest b.shortest
    longest := both (· + ·) a.longest b.longest }

def orElse (backward : Bool) (a b : Extent) : Extent :=
  let branches := a.branches + b.branches
  let branchSize := a.branchSize + b.branchSize
  let set := a.set.bind fun a => b.set.map (CharSet.union a)
  let size := match set with
    | some set => set.size backward
    | none => 2 * stateSize + choiceSize * branches + branchSize
  { size, partSize := size, branchSize, branches, set,
    shortest := both min a.shortest b.shortest
    longest := both max a.longest b.longest }

def copiesSize (body : Extent) (least : Nat) (most : Option Nat) : Nat :=
  match least, most with
  | 0, some 1 => 2 * stateSize + 2 * choiceSize + body.size
  | 0, none =>
    if body.shortest.any (0 < ·) then stateSize + 2 * choiceSize + body.size
    else 3 * stateSize + 4 * choiceSize + body.size
  | least, none => least * body.size + stateSize + 2 * choiceSize
  | least, some most =>
    if least = most then least * body.size
    else
      let needed := if least = 0 then stateSize else least * body.size
      needed + stateSize + (most - least) * (stateSize + 2 * choiceSize + body.size)

/-- Repeating what only matches the empty text is the same as to have it once. -/
def repeated (least : Nat) (most : Option Nat) (body : Extent) : Extent :=
  let isBlank := body.longest == some 0
  let least := if isBlank then min least 1 else least
  let most := if isBlank then some (min (most.getD 1) 1) else most
  if most = some 0 then empty
  else if least = 1 ∧ most = some 1 then body
  else
    ofSize (copiesSize body least most) (body.shortest.map (· * least))
      (most.bind fun most => body.longest.map (· * most))

end Extent

def extent (backward : Bool) : Pattern → Extent
  | .empty => .empty
  | .chars set => .ofSet backward set
  | .place _ => .ofSize stateSize (some 0) (some 0)
  | .marked body => .marked backward (extent backward body)
  | .andThen a b => .andThen (extent backward a) (extent backward b)
  | .orElse a b => .orElse backward (extent backward a) (extent backward b)
  | .repeated least most body => .repeated least most (extent backward body)

def automatonSize (backward : Bool) (pattern : Pattern) : Nat :=
  let around := 3 * stateSize + 2 * choiceSize + if backward then 0 else 2 * stateSize
  around + (extent backward pattern).size

def sizeLimit : Nat := 10 * 1024 * 1024

def isWithinLimit (pattern : Pattern) : Bool :=
  automatonSize false pattern ≤ sizeLimit && automatonSize true pattern ≤ sizeLimit

end Chatflow.Pattern
