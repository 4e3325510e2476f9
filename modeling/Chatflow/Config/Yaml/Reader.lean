import Chatflow.Config.Yaml.Scalar

/-!
# Reading YAML

The part of YAML in which configurations are written: one document of nested mappings and sequences,
in blocks told apart by their indentation or in brackets, with plain and quoted scalars and texts in
block form.  Anchors, tags and keys that are no scalars are refused.
-/

namespace Chatflow.Config.Yaml

/-! ## Lines -/

structure Line where
  indent : Nat
  content : List Char

namespace Line

def ofChars (cs : List Char) : Line :=
  let text := (cs.reverse.dropWhile fun c => c == '\r').reverse
  ⟨(text.takeWhile (· == ' ')).length, text.dropWhile (· == ' ')⟩

def isEmpty (line : Line) : Bool :=
  match line.content.dropWhile isBlank with
  | [] | '#' :: _ => true
  | _ => false

def raw (line : Line) : List Char := List.replicate line.indent ' ' ++ line.content

end Line

def linesOf (cs : List Char) : List Line := (Text.splitChars '\n' cs).map Line.ofChars

def skipEmpty (lines : List Line) : List Line := lines.dropWhile Line.isEmpty

def joinLines (first : List Char) (lines : List Line) : List Char :=
  first ++ lines.flatMap fun line => '\n' :: line.raw

def linesAfter? (cs : List Char) : Option (List Line) :=
  match Text.splitChars '\n' cs with
  | rest :: more => if (Line.ofChars rest).isEmpty then some (more.map Line.ofChars) else none
  | [] => some []

/-! ## Plain scalars -/

def startsPlain (c : Char) (next : Option Char) : Bool :=
  if c == '-' || c == '?' || c == ':' then next.any fun c => !(isBlank c || c == '\n')
  else !(",[]{}#&*!|>'\"%@".toList.contains c || c.toNat == 0x60 || isBlank c)

/-- The plain scalar at the start of a text, in brackets or not, and what follows it. -/
def takePlain (inBrackets : Bool) : List Char → List Char × List Char
  | [] => ([], [])
  | c :: rest =>
    let ends :=
      match c, rest with
      | '\n', _ => true
      | ':', [] => true
      | ':', d :: _ => isBlank d || d == '\n' || d == '\r' || (inBrackets && ",[]{}".toList.contains d)
      | ' ', '#' :: _ => true
      | '\t', '#' :: _ => true
      | c, _ => inBrackets && ",[]{}".toList.contains c
    if ends then ([], c :: rest)
    else
      let (plain, rest) := takePlain inBrackets rest
      (c :: plain, rest)

def readPlain (inBrackets : Bool) (cs : List Char) : Option (List Char × List Char) :=
  match cs with
  | c :: rest =>
    if startsPlain c rest.head? then
      let (plain, rest) := takePlain inBrackets cs
      some (((plain.reverse.dropWhile fun c => isBlank c || c == '\r').reverse), rest)
    else none
  | [] => none

/-! ## Values in brackets -/

def skipSpace : (inComment : Bool) → List Char → List Char
  | _, [] => []
  | inComment, c :: rest =>
    if c == '\n' then skipSpace false rest
    else if inComment || isBlank c || c == '\r' then skipSpace inComment rest
    else if c == '#' then skipSpace true rest
    else c :: rest

def readFlowScalar (cs : List Char) : Option (Value × List Char) :=
  match cs with
  | '"' :: rest => (readDoubleQuoted rest).map fun (text, rest) => (.text (String.ofList text), rest)
  | '\'' :: rest => (readSingleQuoted rest).map fun (text, rest) => (.text (String.ofList text), rest)
  | cs =>
    (readPlain true cs).bind fun (plain, rest) => (plain? plain).map fun value => (value, rest)

def addNew? (key : Value) (value : Value) (entries : Value.Entries) : Option Value.Entries :=
  (keyText? key).bind fun key =>
    if (entries.lookup key).isSome then none else some ((key, value) :: entries)

mutual

def readFlow : Nat → List Char → Option (Value × List Char)
  | 0, _ => none
  | steps + 1, cs =>
    match cs with
    | '[' :: rest =>
      (readFlowItems steps (skipSpace false rest)).map fun (items, rest) => (.list items, rest)
    | '{' :: rest =>
      (readFlowEntries steps (skipSpace false rest)).map fun (entries, rest) => (.table entries, rest)
    | cs => readFlowScalar cs

def readFlowItems : Nat → List Char → Option (List Value × List Char)
  | 0, _ => none
  | steps + 1, cs =>
    match cs with
    | ']' :: rest => some ([], rest)
    | cs =>
      match readFlow steps cs with
      | none => none
      | some (item, rest) =>
        match skipSpace false rest with
        | ',' :: rest =>
          (readFlowItems steps (skipSpace false rest)).map fun (items, rest) => (item :: items, rest)
        | ']' :: rest => some ([item], rest)
        | _ => none

def readFlowEntries : Nat → List Char → Option (Value.Entries × List Char)
  | 0, _ => none
  | steps + 1, cs =>
    match cs with
    | '}' :: rest => some ([], rest)
    | cs =>
      match readFlowScalar cs with
      | none => none
      | some (key, rest) =>
        let found :=
          match skipSpace false rest with
          | ':' :: rest =>
            match skipSpace false rest with
            | ',' :: _ | '}' :: _ => some (.null, skipSpace false rest)
            | rest => readFlow steps rest
          | rest => some (.null, rest)
        match found with
        | none => none
        | some (value, rest) =>
          match skipSpace false rest with
          | ',' :: rest =>
            match readFlowEntries steps (skipSpace false rest) with
            | some (entries, rest) => (addNew? key value entries).map fun entries => (entries, rest)
            | none => none
          | '}' :: rest => (addNew? key value []).map fun entries => (entries, rest)
          | _ => none

end

/-! ## Texts in block form -/

inductive Chomping where
  | clip
  | strip
  | keep
deriving DecidableEq, Repr

/-- Reads the marks behind the sign of a block text: how its end is treated and how far its lines
are indented. -/
def blockMarks? : List Char → Option (Chomping × Option Nat)
  | [] => some (.clip, none)
  | ' ' :: rest | '\t' :: rest =>
    match rest.dropWhile isBlank with
    | [] | '#' :: _ => some (.clip, none)
    | _ => none
  | '+' :: rest => (blockMarks? rest).map fun (_, indent) => (.keep, indent)
  | '-' :: rest => (blockMarks? rest).map fun (_, indent) => (.strip, indent)
  | c :: rest =>
    if '1' ≤ c ∧ c ≤ '9' then
      (blockMarks? rest).map fun (chomping, _) => (chomping, some (c.toNat - '0'.toNat))
    else none

def blockLines (floor : Nat) (indent : Option Nat) (lines : List Line) :
    List (List Char) × List Line :=
  let isBlankLine (line : Line) : Bool := line.content.isEmpty
  let width :=
    match indent with
    | some extra => floor - 1 + extra
    | none => ((lines.find? fun line => !isBlankLine line).map (·.indent)).getD floor
  let width := max width floor
  let belongs (line : Line) : Bool := isBlankLine line || width ≤ line.indent
  ((lines.takeWhile belongs).map fun line => line.raw.drop width, lines.dropWhile belongs)

/-- Joins lines where a single line end between lines that are not indented counts as a space. -/
def foldBlock : List (List Char) → List Char
  | [] => []
  | [line] => line
  | line :: next :: rest =>
    let isProse (line : List Char) : Bool := line.head?.any fun c => !isBlank c
    if isProse line && isProse next then line ++ ' ' :: foldBlock (next :: rest)
    else if isProse line && next.isEmpty && rest.any isProse then line ++ foldBlock (next :: rest)
    else line ++ '\n' :: foldBlock (next :: rest)

def blockText (folded : Bool) (chomping : Chomping) (lines : List (List Char)) : String :=
  let body := (lines.reverse.dropWhile List.isEmpty).reverse
  let blanks := lines.length - body.length
  let text := if folded then foldBlock body else ['\n'].intercalate body
  let ending :=
    match chomping with
    | .strip => 0
    | .clip => if body.isEmpty then 0 else 1
    | .keep => if body.isEmpty then blanks else 1 + blanks
  String.ofList (text ++ List.replicate ending '\n')

/-! ## Blocks -/

def readKey (cs : List Char) : Option (Value × List Char) :=
  let found : Option (Value × List Char) :=
    match cs with
    | '"' :: rest =>
      (readDoubleQuoted rest).map fun (text, rest) => (.text (String.ofList text), rest)
    | '\'' :: rest =>
      (readSingleQuoted rest).map fun (text, rest) => (.text (String.ofList text), rest)
    | cs =>
      (readPlain false cs).bind fun (plain, rest) => (plain? plain).map fun value => (value, rest)
  match found with
  | some (key, rest) =>
    match rest.dropWhile isBlank with
    | [':'] => some (key, [])
    | ':' :: c :: rest => if isBlank c then some (key, rest.dropWhile isBlank) else none
    | _ => none
  | none => none

def itemRest? (line : Line) : Option Line :=
  match line.content with
  | ['-'] => some ⟨line.indent + 1, []⟩
  | '-' :: c :: rest =>
    if isBlank c then
      some ⟨line.indent + 2 + (rest.takeWhile isBlank).length, rest.dropWhile isBlank⟩
    else none
  | _ => none

def readPlainLines (floor : Nat) (first : List Char) (lines : List Line) :
    Option (Value × List Line) :=
  match readPlain false first with
  | none => none
  | some (plain, rest) =>
    if !(Line.ofChars rest).isEmpty then none
    else
      let continued := lines.takeWhile fun line => line.content.isEmpty || floor ≤ line.indent
      let kept := (continued.reverse.dropWhile Line.isEmpty).reverse
      if kept.isEmpty then (plain? plain).map fun value => (value, lines)
      else if kept.any fun line => (readKey line.content).isSome || line.content.head? == some '#' then
        none
      else
        let text := foldBlock (plain :: kept.map (·.content))
        some (.text (String.ofList text), lines.drop kept.length)

/-- Reads a value that starts on a line: everything but a block of mappings or sequences. -/
def readInline (floor : Nat) (first : List Char) (lines : List Line) : Option (Value × List Line) :=
  match first with
  | '|' :: marks | '>' :: marks =>
    (blockMarks? marks).map fun (chomping, indent) =>
      let (body, rest) := blockLines floor indent lines
      (.text (blockText (first.head? == some '>') chomping body), rest)
  | c :: _ =>
    if c == '[' || c == '{' || c == '"' || c == '\'' then
      let cs := joinLines first lines
      (readFlow (2 * cs.length + 2) cs).bind fun (value, rest) =>
        (linesAfter? rest).map fun lines => (value, lines)
    else readPlainLines floor first lines
  | [] => none

mutual

/-- Reads the block at the start of some lines that is indented at least as far as a floor; if there
is none the value is null.  Every step consumes a line or descends once. -/
def readBlock : Nat → (floor : Nat) → List Line → Option (Value × List Line)
  | 0, _, _ => none
  | steps + 1, floor, lines =>
    match skipEmpty lines with
    | [] => some (.null, [])
    | line :: rest =>
      if line.indent < floor then some (.null, line :: rest)
      else if (itemRest? line).isSome then
        (readItems steps line.indent (line :: rest)).map fun (items, rest) => (.list items, rest)
      else if (readKey line.content).isSome then
        (readEntries steps line.indent (line :: rest)).map fun (entries, rest) =>
          (.table entries, rest)
      else readInline floor line.content rest

def readItems : Nat → (indent : Nat) → List Line → Option (List Value × List Line)
  | 0, _, _ => none
  | steps + 1, indent, lines =>
    match skipEmpty lines with
    | [] => some ([], [])
    | line :: rest =>
      if line.indent < indent then some ([], line :: rest)
      else if indent < line.indent then none
      else
        match itemRest? line with
        | none => some ([], line :: rest)
        | some first =>
          match readBlock steps (indent + 1) (if first.isEmpty then rest else first :: rest) with
          | none => none
          | some (item, rest) =>
            (readItems steps indent rest).map fun (items, rest) => (item :: items, rest)

def readEntries : Nat → (indent : Nat) → List Line → Option (Value.Entries × List Line)
  | 0, _, _ => none
  | steps + 1, indent, lines =>
    match skipEmpty lines with
    | [] => some ([], [])
    | line :: rest =>
      if line.indent < indent then some ([], line :: rest)
      else if indent < line.indent then none
      else
        match readKey line.content with
        | none => none
        | some (key, first) =>
          let isSequence := (skipEmpty rest).head?.any fun next =>
            next.indent == indent && (itemRest? next).isSome
          let found :=
            if !(Line.mk 0 first).isEmpty then readInline (indent + 1) first rest
            else readBlock steps (if isSequence then indent else indent + 1) rest
          match found with
          | none => none
          | some (value, rest) =>
            match readEntries steps indent rest with
            | none => none
            | some (entries, rest) =>
              (addNew? key value entries).map fun entries => (entries, rest)

end

/-! ## Documents -/

def isMark (mark : String) (line : Line) : Bool :=
  line.indent == 0 && (line.content.reverse.dropWhile isBlank).reverse == mark.toList

def documentLines? (lines : List Line) : Option (List Line) :=
  let lines := skipEmpty lines
  let lines := if lines.head?.any (isMark "---") then lines.drop 1 else lines
  let body := lines.takeWhile fun line => !(isMark "..." line)
  let rest := lines.drop (body.length + 1)
  if (skipEmpty rest).isEmpty && !body.any (isMark "---") then some body else none

def read? (text : String) : Option Value :=
  let cs := text.toList
  let lines := linesOf cs
  if (skipEmpty lines).isEmpty then some (.table [])
  else
    (documentLines? lines).bind fun lines =>
      match readBlock (2 * cs.length + 4) 0 lines with
      | some (value, rest) => if (skipEmpty rest).isEmpty then some value else none
      | none => none

end Chatflow.Config.Yaml
