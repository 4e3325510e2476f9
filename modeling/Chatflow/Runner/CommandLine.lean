import Chatflow.Decimal.Notation
import Chatflow.Message
import Chatflow.Text.Occurrence

/-!
# Command lines of the runner

A command line either asks what the program is or says which definition to run on which message.  A
setting is given as two words, as one word with an equals sign, or by its letter with the value
right behind it.  Everything that is not understood makes the whole line wrong, and the first
question or mistake in it decides.
-/

namespace Chatflow.Runner.CommandLine

/-! ## Words -/

inductive Setting where
  | definition
  | text
  | chatId
  | userName
  | config
deriving DecidableEq, Repr

inductive Switch where
  | callback
  | dryRun
deriving DecidableEq, Repr

inductive Item where
  | set (setting : Setting) (value : String)
  | turnOn (switch : Switch)
  | askVersion
  | askHelp
  | mistake
deriving DecidableEq, Repr

def settings : List (String × Setting) :=
  [("definition", .definition), ("text", .text), ("chat-id", .chatId), ("user-name", .userName),
   ("config", .config)]

def switches : List (String × Item) :=
  [("callback", .turnOn .callback), ("dry-run", .turnOn .dryRun), ("version", .askVersion),
   ("help", .askHelp)]

def settingLetters : List (Char × Setting) := [('d', .definition), ('t', .text), ('c', .config)]

def switchLetters : List (Char × Item) := [('V', .askVersion), ('h', .askHelp)]

/-- Whether a text consists of digits with at most one point and at most one exponent, neither of
them at its start and the exponent not at its end. -/
def isNumber (cs : List Char) : Bool :=
  let mantissa := cs.takeWhile (· != 'e')
  let whole := mantissa.takeWhile Char.isDigit
  let rest := mantissa.dropWhile Char.isDigit
  let mantissaOk :=
    match rest with
    | [] => true
    | '.' :: fraction => !whole.isEmpty && fraction.all Char.isDigit
    | _ => false
  let exponentOk :=
    match cs.dropWhile (· != 'e') with
    | [] => true
    | _ :: exponent => !mantissa.isEmpty && !exponent.isEmpty && exponent.all Char.isDigit
  mantissaOk && exponentOk

def isValueOf (setting : Setting) (word : String) : Bool :=
  match word.toList with
  | '-' :: '-' :: _ => false
  | ['-'] => true
  | '-' :: rest => setting == .chatId && isNumber rest
  | _ => true

/-- What a word says that starts with a dash; a setting without a value takes it from the next
word. -/
inductive Word where
  | item (item : Item)
  | needsValue (setting : Setting)
deriving DecidableEq, Repr

def longWord (name : String) (value : Option String) : Word :=
  match settings.lookup name, switches.lookup name, value with
  | some setting, _, some value => .item (.set setting value)
  | some setting, _, none => .needsValue setting
  | none, some item, none => .item item
  | none, _, _ => .item .mistake

def shortWord (letter : Char) (rest : List Char) : Word :=
  match settingLetters.lookup letter, switchLetters.lookup letter with
  | some setting, _ =>
    match rest with
    | [] => .needsValue setting
    | '=' :: value => .item (.set setting (String.ofList value))
    | value => .item (.set setting (String.ofList value))
  | none, some item => .item item
  | none, none => .item .mistake

def wordOf (word : String) : Word :=
  match word.toList with
  | '-' :: '-' :: rest =>
    let name := String.ofList (rest.takeWhile (· != '='))
    match rest.dropWhile (· != '=') with
    | _ :: value => longWord name (some (String.ofList value))
    | [] => longWord name none
  | '-' :: letter :: rest => shortWord letter rest
  | _ => .item .mistake

def itemsOf : List String → List Item
  | [] => []
  | ["--"] => []
  | word :: rest =>
    match wordOf word with
    | .item item => item :: itemsOf rest
    | .needsValue setting =>
      match rest with
      | value :: rest => if isValueOf setting value then .set setting value :: itemsOf rest else [.mistake]
      | [] => [.mistake]

/-! ## Commands -/

structure Draft where
  definition : Option String := none
  text : Option String := none
  chat : Option ChatId := none
  userName : Option String := none
  config : Option String := none
  callback : Bool := false
  dryRun : Bool := false
deriving DecidableEq, Repr

def fresh (current : Option α) (value : Option α) : Option (Option α) :=
  match current, value with
  | none, some value => some (some value)
  | _, _ => none

def path? (value : String) : Option String := if value.isEmpty then none else some value

/-- Takes up a value, unless the setting has one already or the value makes no sense. -/
def Draft.set (draft : Draft) (setting : Setting) (value : String) : Option Draft :=
  match setting with
  | .definition => (fresh draft.definition (path? value)).map ({ draft with definition := · })
  | .text => (fresh draft.text (some value)).map ({ draft with text := · })
  | .chatId => (fresh draft.chat (Decimal.int64? value.toList)).map ({ draft with chat := · })
  | .userName => (fresh draft.userName (some value)).map ({ draft with userName := · })
  | .config => (fresh draft.config (path? value)).map ({ draft with config := · })

def Draft.turnOn (draft : Draft) : Switch → Option Draft
  | .callback => if draft.callback then none else some { draft with callback := true }
  | .dryRun => if draft.dryRun then none else some { draft with dryRun := true }

structure Task where
  definition : String
  text : String
  chat : ChatId
  userName : Option String
  callback : Bool
  dryRun : Bool
  config : Option String
deriving DecidableEq, Repr

inductive Command where
  | run (task : Task)
  | showVersion
  | showHelp
  | refuse
deriving DecidableEq, Repr

def defaultText : String := "/start"

def configVariable : String := "FLOWBOT_CONFIG"

/-- The task that a whole command line sets.  A configuration file may also be named by the
environment. -/
def Draft.command (draft : Draft) (configFromEnvironment : Option String) : Command :=
  let config := draft.config.or configFromEnvironment
  match draft.definition with
  | none => .refuse
  | some definition =>
    if config = some "" then .refuse
    else
      .run {
        definition
        text := draft.text.getD defaultText
        chat := draft.chat.getD 0
        userName := draft.userName
        callback := draft.callback
        dryRun := draft.dryRun
        config }

def commandOf (configFromEnvironment : Option String) (draft : Draft) : List Item → Command
  | [] => draft.command configFromEnvironment
  | .askVersion :: _ => .showVersion
  | .askHelp :: _ => .showHelp
  | .mistake :: _ => .refuse
  | .set setting value :: rest =>
    match draft.set setting value with
    | some draft => commandOf configFromEnvironment draft rest
    | none => .refuse
  | .turnOn switch :: rest =>
    match draft.turnOn switch with
    | some draft => commandOf configFromEnvironment draft rest
    | none => .refuse

def read (words : List String) (configFromEnvironment : Option String) : Command :=
  commandOf configFromEnvironment {} (itemsOf words)

/-! ## Texts -/

def version : String := "flowbot-runner 0.1.0"

def usage : String := "Usage: flowbot-runner [OPTIONS] --definition <DEFINITION>"

def help (configFromEnvironment : Option String) : List String :=
  ["Run a chat workflow definition against a single message", "", usage, "", "Options:",
   "  -d, --definition <DEFINITION>  Path to the workflow definition JSON",
   "  -t, --text <TEXT>              Incoming message text (callback data with --callback) " ++
     "[default: " ++ defaultText ++ "]",
   "      --chat-id <CHAT_ID>        Chat to reply into [default: 0]",
   "      --user-name <USER_NAME>    Display name of the sender",
   "      --callback                 Treat the text as an inline button tap",
   "      --dry-run                  Log outbound messages instead of sending them",
   "  -c, --config <CONFIG>          Path to a config file [env: " ++ configVariable ++ "=" ++
     configFromEnvironment.getD "" ++ "]",
   "  -h, --help                     Print help",
   "  -V, --version                  Print version"]

end Chatflow.Runner.CommandLine
