import Chatflow.Config.Toml.Scalar
import Chatflow.Config.Toml.Table

/-!
# Reading TOML

A document is a sequence of lines with a header or an assignment each.  Arrays and texts in three
quotes go over several lines.
-/

namespace Chatflow.Config.Toml

/-! ## Blanks and lines -/

def isBlank (c : Char) : Bool := c == ' ' || c == '\t'

def skipBlanks (cs : List Char) : List Char := cs.dropWhile isBlank

def isAllowed (c : Char) : Bool := c == '\t' || (0x20 ≤ c.toNat && c.toNat != 0x7F)

def skipLineEnd? (cs : List Char) : Option (List Char) :=
  let rest :=
    match skipBlanks cs with
    | '#' :: comment => comment.dropWhile isAllowed
    | rest => rest
  match rest with
  | [] => some []
  | '\n' :: rest | '\r' :: '\n' :: rest => some rest
  | _ => none

def skipLines : Nat → List Char → List Char
  | 0, cs => cs
  | lines + 1, cs =>
    match skipBlanks cs with
    | '#' :: rest => skipLines lines (rest.dropWhile isAllowed)
    | '\n' :: rest | '\r' :: '\n' :: rest => skipLines lines rest
    | rest => rest

def skipSpace (cs : List Char) : List Char := skipLines (2 * cs.length) cs

/-! ## Texts -/

def shortEscape? : Char → Option Char
  | 'b' => some '\x08'
  | 't' => some '\t'
  | 'n' => some '\n'
  | 'f' => some '\x0c'
  | 'r' => some '\r'
  | '"' => some '"'
  | '\\' => some '\\'
  | _ => none

def codedChar? (digits : List Char) : Option Char :=
  (digits.mapM Text.hexValue?).bind fun values =>
    Text.scalarValue? (values.foldl (fun code value => 16 * code + value) 0)

def readQuoted : List Char → Option (List Char × List Char)
  | [] => none
  | '"' :: rest => some ([], rest)
  | '\\' :: 'u' :: a :: b :: c :: d :: rest =>
    match codedChar? [a, b, c, d], readQuoted rest with
    | some char, some (text, rest) => some (char :: text, rest)
    | _, _ => none
  | '\\' :: 'U' :: a :: b :: c :: d :: e :: f :: g :: h :: rest =>
    match codedChar? [a, b, c, d, e, f, g, h], readQuoted rest with
    | some char, some (text, rest) => some (char :: text, rest)
    | _, _ => none
  | '\\' :: c :: rest =>
    match shortEscape? c, readQuoted rest with
    | some char, some (text, rest) => some (char :: text, rest)
    | _, _ => none
  | c :: rest =>
    if isAllowed c then (readQuoted rest).map fun (text, rest) => (c :: text, rest) else none

def readLiteral : List Char → Option (List Char × List Char)
  | [] => none
  | '\'' :: rest => some ([], rest)
  | c :: rest =>
    if isAllowed c then (readLiteral rest).map fun (text, rest) => (c :: text, rest) else none

def isAllowedInLines (c : Char) : Bool := isAllowed c || c == '\n'

def endsLine (cs : List Char) : Bool :=
  match skipBlanks cs with
  | '\n' :: _ | '\r' :: '\n' :: _ => true
  | _ => false

def isLineSpace (c : Char) : Bool := isBlank c || c == '\n' || c == '\r'

/-- Reads a text in three double quotes after these; two more may stand before the closing ones.  A
backslash at the end of a line continues the text where the next word begins. -/
def readQuotedLines : List Char → Option (List Char × List Char)
  | [] => none
  | '"' :: '"' :: '"' :: '"' :: '"' :: rest => some (['"', '"'], rest)
  | '"' :: '"' :: '"' :: '"' :: rest => some (['"'], rest)
  | '"' :: '"' :: '"' :: rest => some ([], rest)
  | '\\' :: 'u' :: a :: b :: c :: d :: rest =>
    match codedChar? [a, b, c, d], readQuotedLines rest with
    | some char, some (text, rest) => some (char :: text, rest)
    | _, _ => none
  | '\\' :: 'U' :: a :: b :: c :: d :: e :: f :: g :: h :: rest =>
    match codedChar? [a, b, c, d, e, f, g, h], readQuotedLines rest with
    | some char, some (text, rest) => some (char :: text, rest)
    | _, _ => none
  | '\\' :: c :: rest =>
    if endsLine (c :: rest) then readQuotedLines (rest.dropWhile isLineSpace)
    else
      match shortEscape? c, readQuotedLines rest with
      | some char, some (text, rest) => some (char :: text, rest)
      | _, _ => none
  | '\r' :: '\n' :: rest => (readQuotedLines rest).map fun (text, rest) => ('\n' :: text, rest)
  | c :: rest =>
    if isAllowedInLines c then (readQuotedLines rest).map fun (text, rest) => (c :: text, rest)
    else none
termination_by cs => cs.length
decreasing_by
  all_goals simp only [List.length_cons]
  any_goals omega
  have := (List.dropWhile_sublist isLineSpace (l := rest)).length_le
  omega

def readLiteralLines : List Char → Option (List Char × List Char)
  | [] => none
  | '\'' :: '\'' :: '\'' :: '\'' :: '\'' :: rest => some (['\'', '\''], rest)
  | '\'' :: '\'' :: '\'' :: '\'' :: rest => some (['\''], rest)
  | '\'' :: '\'' :: '\'' :: rest => some ([], rest)
  | '\r' :: '\n' :: rest => (readLiteralLines rest).map fun (text, rest) => ('\n' :: text, rest)
  | c :: rest =>
    if isAllowedInLines c then (readLiteralLines rest).map fun (text, rest) => (c :: text, rest)
    else none

def dropLineEnd : List Char → List Char
  | '\n' :: rest | '\r' :: '\n' :: rest => rest
  | cs => cs

def readText : List Char → Option (List Char × List Char)
  | '"' :: '"' :: '"' :: rest => readQuotedLines (dropLineEnd rest)
  | '\'' :: '\'' :: '\'' :: rest => readLiteralLines (dropLineEnd rest)
  | '"' :: rest => readQuoted rest
  | '\'' :: rest => readLiteral rest
  | _ => none

/-! ## Keys -/

def readKey : List Char → Option (String × List Char)
  | '"' :: rest => (readQuoted rest).map fun (text, rest) => (String.ofList text, rest)
  | '\'' :: rest => (readLiteral rest).map fun (text, rest) => (String.ofList text, rest)
  | cs =>
    let key := cs.takeWhile Value.isKeyChar
    if key.isEmpty then none else some (String.ofList key, cs.dropWhile Value.isKeyChar)

def readPath : Nat → List Char → Option (List String × List Char)
  | 0, _ => none
  | keys + 1, cs =>
    match readKey (skipBlanks cs) with
    | none => none
    | some (key, rest) =>
      match skipBlanks rest with
      | '.' :: rest => (readPath keys rest).map fun (path, rest) => (key :: path, rest)
      | rest => some ([key], rest)

/-! ## Values -/

mutual

/-- Reads a value.  Every step consumes a character or descends once. -/
def readValue : Nat → List Char → Option (Value × List Char)
  | 0, _ => none
  | steps + 1, cs =>
    match cs with
    | '[' :: rest =>
      (readItems steps (skipSpace rest)).map fun (items, rest) => (.list items, rest)
    | '{' :: rest =>
      match skipBlanks rest with
      | '}' :: rest => some (.table [], rest)
      | rest =>
        match readAssignments steps rest with
        | some (statements, rest) =>
          (entriesOf? statements).map fun entries => (.table entries, rest)
        | none => none
    | '"' :: _ | '\'' :: _ =>
      (readText cs).map fun (text, rest) => (.text (String.ofList text), rest)
    | cs => readScalar cs

def readItems : Nat → List Char → Option (List Value × List Char)
  | 0, _ => none
  | steps + 1, cs =>
    match cs with
    | ']' :: rest => some ([], rest)
    | cs =>
      match readValue steps cs with
      | none => none
      | some (item, rest) =>
        match skipSpace rest with
        | ',' :: rest =>
          (readItems steps (skipSpace rest)).map fun (items, rest) => (item :: items, rest)
        | ']' :: rest => some ([item], rest)
        | _ => none

def readAssignments : Nat → List Char → Option (List Statement × List Char)
  | 0, _ => none
  | steps + 1, cs =>
    match readPath (cs.length + 1) cs with
    | some (path, '=' :: rest) =>
      match readValue steps (skipBlanks rest) with
      | none => none
      | some (value, rest) =>
        match skipBlanks rest with
        | ',' :: rest =>
          (readAssignments steps rest).map fun (statements, rest) =>
            (.assignment path value :: statements, rest)
        | '}' :: rest => some ([.assignment path value], rest)
        | _ => none
    | _ => none

end

/-! ## Documents -/

def readStatement (cs : List Char) : Option (Statement × List Char) :=
  match cs with
  | '[' :: '[' :: rest =>
    match readPath (rest.length + 1) rest with
    | some (path, ']' :: ']' :: rest) => some (.itemHeader path, rest)
    | _ => none
  | '[' :: rest =>
    match readPath (rest.length + 1) rest with
    | some (path, ']' :: rest) => some (.header path, rest)
    | _ => none
  | cs =>
    match readPath (cs.length + 1) cs with
    | some (path, '=' :: rest) =>
      (readValue (2 * rest.length + 2) (skipBlanks rest)).map fun (value, rest) =>
        (.assignment path value, rest)
    | _ => none

def readStatements : Nat → List Char → Option (List Statement)
  | 0, _ => none
  | statements + 1, cs =>
    match skipSpace cs with
    | [] => some []
    | cs =>
      match readStatement cs with
      | none => none
      | some (statement, rest) =>
        match skipLineEnd? rest with
        | none => none
        | some rest => (readStatements statements rest).map (statement :: ·)

def read? (text : String) : Option Value.Entries :=
  let cs := text.toList
  (readStatements (cs.length + 1) cs).bind entriesOf?

end Chatflow.Config.Toml
