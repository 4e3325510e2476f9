import Chatflow.Unicode.Category
import Chatflow.Unicode.Property

/-!
# Quoted text

Text between quotes as it is shown to people who look for errors.  Line ends, tabs, quotes and
backslashes are written as escapes, and so is, by its number, everything that cannot be seen: what
has no glyph of its own, blanks other than the space, and marks that extend the letter before them.
-/

namespace Chatflow.Text

open Unicode

def invisibleRuns : List Run :=
  Category.control ++ Category.format ++ Category.privateUse ++ Category.unassigned ++
    Category.separator

def isVisible (c : Char) : Bool :=
  c == ' ' || !(inRuns Property.graphemeExtend c || inRuns invisibleRuns c)

/-- The escape that tells a scalar value by its number. -/
def numberEscape (c : Char) : List Char :=
  ['\\', 'u', '{'] ++ Nat.toDigits 16 c.toNat ++ ['}']

def quoteChar (c : Char) : List Char :=
  if c = '\x00' then ['\\', '0']
  else if c = '\t' then ['\\', 't']
  else if c = '\r' then ['\\', 'r']
  else if c = '\n' then ['\\', 'n']
  else if c = '"' then ['\\', '"']
  else if c = '\\' then ['\\', '\\']
  else if isVisible c then [c]
  else numberEscape c

def quote (text : String) : String :=
  String.ofList ('"' :: text.toList.flatMap quoteChar ++ ['"'])

end Chatflow.Text
