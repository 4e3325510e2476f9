import Chatflow.Pattern.CharSet
import Chatflow.Text.Blank
import Chatflow.Unicode.Category
import Chatflow.Unicode.Property
import Chatflow.Unicode.Script

/-!
# Sets with a name

The sets that a pattern can name: Unicode properties, categories and scripts, the shorthands for
digits, blanks and parts of words, and the classes of ASCII characters.
-/

namespace Chatflow.Pattern

open Unicode

/-! ## Loose names -/

def startsWithIs : List Char → Bool
  | a :: b :: _ => a.toLower == 'i' && b.toLower == 's'
  | _ => false

/-- The letters that count in a name: capitals are as good as small letters, and spaces, hyphens,
underscores and all beyond ASCII are left out. -/
def looseLetters (name : List Char) : List Char :=
  (name.filter fun c => c.toNat < 0x80 && c != ' ' && c != '_' && c != '-').map Char.toLower

/-- The loose form of a name.  The name of the property ISO_Comment keeps its first letters. -/
def looseName (name : String) : String :=
  let chars := name.toList
  if startsWithIs chars then
    let letters := looseLetters (chars.drop 2)
    if letters = ['c'] then "isc" else String.ofList letters
  else String.ofList (looseLetters chars)

/-! ## Unicode sets -/

def category? (name : String) : Option CharSet :=
  if name = "any" then some .any
  else if name = "assigned" then some (.complement (.runs Category.unassigned))
  else if name = "ascii" then some .ascii
  else (membersNamed? Category.all name).map .runs

def script? (name : String) : Option CharSet := (membersNamed? Script.all name).map .runs

def scriptExtensions? (name : String) : Option CharSet :=
  (Script.all.find? fun script => script.names.contains name).map fun script =>
    let longName := script.names.headD name
    let added := (membersNamed? Script.extensions longName).getD []
    let lost := (membersNamed? Script.exclusions longName).getD []
    .union (CharSet.difference (.runs script.members) (.runs lost)) (.runs added)

/-- Names that stand for a category although a property has them too. -/
def categoryNames : List String := ["cf", "sc", "lc"]

/-- The set with a name in any form: a property, or else a category, or else a script. -/
def setNamed? (name : String) : Option CharSet :=
  let name := looseName name
  let property :=
    if categoryNames.contains name then none else (membersNamed? Property.all name).map .runs
  property.or ((category? name).or (script? name))

def setWithValue? (property value : String) : Option CharSet :=
  let property := looseName property
  let value := looseName value
  if property = "gc" ∨ property = "generalcategory" then category? value
  else if property = "sc" ∨ property = "script" then script? value
  else if property = "scx" ∨ property = "scriptextensions" then scriptExtensions? value
  else none

/-! ## Shorthands -/

inductive Shorthand where
  | digit
  | blank
  | word
deriving DecidableEq, Repr

def wordSet : CharSet :=
  .runs (Property.alphabetic ++ Category.mark ++ Category.decimalNumber ++
    Category.connectorPunctuation ++ Property.joinControl)

def asciiDigits : List Run := [⟨0x30, 0x39, 1⟩]

def asciiBlanks : List Run := [⟨0x9, 0xD, 1⟩, ⟨0x20, 0x20, 1⟩]

def asciiLetters : List Run := [⟨0x41, 0x5A, 1⟩, ⟨0x61, 0x7A, 1⟩]

def asciiWord : List Run := ⟨0x5F, 0x5F, 1⟩ :: asciiDigits ++ asciiLetters

def Shorthand.members : Shorthand → CharSet
  | digit => .runs Category.decimalNumber
  | blank => .runs Text.blankRuns
  | word => wordSet

def Shorthand.asciiMembers : Shorthand → CharSet
  | digit => .runs asciiDigits
  | blank => .runs asciiBlanks
  | word => .runs asciiWord

/-! ## Classes of ASCII characters -/

def asciiPunctuation : List Run :=
  [⟨0x21, 0x2F, 1⟩, ⟨0x3A, 0x40, 1⟩, ⟨0x5B, 0x60, 1⟩, ⟨0x7B, 0x7E, 1⟩]

def asciiClasses : List NamedSet :=
  [⟨["alnum"], asciiDigits ++ asciiLetters⟩,
   ⟨["alpha"], asciiLetters⟩,
   ⟨["ascii"], [⟨0, 0x7F, 1⟩]⟩,
   ⟨["blank"], [⟨0x9, 0x9, 1⟩, ⟨0x20, 0x20, 1⟩]⟩,
   ⟨["cntrl"], [⟨0, 0x1F, 1⟩, ⟨0x7F, 0x7F, 1⟩]⟩,
   ⟨["digit"], asciiDigits⟩,
   ⟨["graph"], [⟨0x21, 0x7E, 1⟩]⟩,
   ⟨["lower"], [⟨0x61, 0x7A, 1⟩]⟩,
   ⟨["print"], [⟨0x20, 0x7E, 1⟩]⟩,
   ⟨["punct"], asciiPunctuation⟩,
   ⟨["space"], asciiBlanks⟩,
   ⟨["upper"], [⟨0x41, 0x5A, 1⟩]⟩,
   ⟨["word"], asciiWord⟩,
   ⟨["xdigit"], asciiDigits ++ [⟨0x41, 0x46, 1⟩, ⟨0x61, 0x66, 1⟩]⟩]

end Chatflow.Pattern
