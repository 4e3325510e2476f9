import Chatflow.Json.Record

/-!
# Record ids

Bots, workflows and execution logs are known by 128-bit numbers.  The bare text of an id is its 26
digits in base 32, most significant first, in an alphabet without the letters I, L, O and U; the
display text puts the kind of the record and an underscore before it.  Since the alphabet ascends
and the width is fixed, texts sort as the numbers do.
-/

namespace Chatflow

inductive RecordKind where
  | bot
  | workflow
  | log
deriving DecidableEq, Repr

namespace RecordKind

def label : RecordKind → String
  | bot => "bot_"
  | workflow => "wf_"
  | log => "log_"

def idName : RecordKind → String
  | bot => "BotId"
  | workflow => "WorkflowId"
  | log => "ExecutionLogId"

end RecordKind

abbrev idCount : Nat := 340282366920938463463374607431768211456

structure RecordId (kind : RecordKind) where
  value : Fin idCount
deriving DecidableEq, Repr

abbrev BotId := RecordId .bot

abbrev WorkflowId := RecordId .workflow

abbrev LogId := RecordId .log

namespace RecordId

/-! ## Base 32 -/

def alphabet : List Char := "0123456789ABCDEFGHJKMNPQRSTVWXYZ".toList

def width : Nat := 26

def digitChar (digit : Nat) : Char := alphabet.getD digit '0'

def digitValue? (c : Char) : Option Nat :=
  let capital := if 'a' ≤ c ∧ c ≤ 'z' then Char.ofNat (c.toNat - 32) else c
  alphabet.idxOf? capital

/-- The last digits of a number, most significant first. -/
def digitsOf : Nat → Nat → List Char
  | 0, _ => []
  | count + 1, n => digitsOf count (n / 32) ++ [digitChar (n % 32)]

def valueAfter? (value : Nat) : List Char → Option Nat
  | [] => some value
  | c :: cs => (digitValue? c).bind fun digit => valueAfter? (32 * value + digit) cs

/-! ## Texts -/

variable {kind : RecordKind}

def bare (id : RecordId kind) : String := String.ofList (digitsOf width id.value)

def display (id : RecordId kind) : String := kind.label ++ id.bare

inductive ParseCause where
  | invalidLength
  | invalidCharacter
deriving DecidableEq, Repr

def ParseCause.message : ParseCause → String
  | invalidLength => "invalid length"
  | invalidCharacter => "invalid character"

structure ParseError where
  kind : RecordKind
  cause : ParseCause
deriving DecidableEq, Repr

def ParseError.message (error : ParseError) : String :=
  "failed to parse " ++ error.kind.idName ++ ": " ++ error.cause.message

/-- The id with a number; what exceeds 128 bits is dropped. -/
def ofNat (number : Nat) : RecordId kind := ⟨Fin.ofNat idCount number⟩

/-- Reads a bare text.  The length in bytes is looked at first; digits beyond 128 bits are
dropped. -/
def ofBare (text : String) : Except ParseCause (RecordId kind) :=
  if text.utf8ByteSize ≠ width then .error .invalidLength
  else
    match valueAfter? 0 text.toList with
    | none => .error .invalidCharacter
    | some value => .ok (ofNat value)

/-- The text after the label of the kind, or the whole text if it does not start with one. -/
def dropLabel (kind : RecordKind) (text : String) : String :=
  let label := kind.label.toList
  if label.isPrefixOf text.toList then String.ofList (text.toList.drop label.length) else text

def parse (kind : RecordKind) (text : String) : Except ParseError (RecordId kind) :=
  (ofBare (dropLabel kind text)).mapError (⟨kind, ·⟩)

/-! ## JSON -/

def toJson (id : RecordId kind) : Json := .string id.bare

def ofDocument? (document : Json.Document) : Option (RecordId kind) :=
  document.string?.bind fun text => (ofBare text).toOption

end RecordId

end Chatflow
