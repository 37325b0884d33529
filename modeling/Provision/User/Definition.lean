import Provision.Files
import Provision.Json.Fault
import Provision.Text.Hex
import Provision.Value.Display

/-!
# User definitions

A user definition is a JSON file that describes a user of an org. Some of its
keys instruct the installer; all others are fields of the user's record.
-/

namespace Provision.User

def usernameLimit : Nat := 35

def defaultPassword : String := "1HappyCloud"

def instructions : List String :=
  ["permsets", "generatePassword", "profileName", "password", "Username", "Email"]

def wrongValue (text : String) : Fault := .mishap .wrongValue text

def length? : Value → Option Nat
  | .str s => some (Text.size s)
  | .list items => some items.length
  | .dict entries => some entries.length
  | _ => none

/-- A user name that no other installation has: the base and the `serial`
number of this one. The base leaves room for it. -/
def uniqueUsername (serial : Nat) (base : Value) : Except Fault String :=
  if !base.truthy then
    .error (wrongValue "A base username is required to create a unique username")
  else match length? base with
  | none => .error (.mishap .wrongKind s!"object of type '{base.kindName}' has no len()")
  | some n =>
    if usernameLimit < n then
      .error (wrongValue <| s!"Username can not be longer than {usernameLimit} chars " ++
        "to keep room for the unique suffix")
    else .ok (base.text ++ Text.hex 12 serial)

def password (suggested : Value) : Value :=
  if suggested.truthy then suggested else .str defaultPassword

def texts? : List Value → Option (List String)
  | [] => some []
  | .str s :: rest => (texts? rest).map (s :: ·)
  | _ => none

def permissionSets (definition : Entries) : Except Fault (List String) :=
  let fault := wrongValue "'permsets' must be a list of permission set names"
  let v := definition.getD "permsets"
  if !v.truthy then .ok []
  else match v with
  | .list items =>
    match texts? items with
    | some names => .ok names
    | none => .error fault
  | _ => .error fault

/-! ## The record -/

/-- The text of a field. Truth values are spelled as the platform spells them. -/
def fieldText : Value → String
  | .bool b => if b then "true" else "false"
  | v => v.text

def escapeQuote (c : Char) : List Char :=
  if c = Text.singleQuote then [Text.backslash, Text.singleQuote] else [c]

def pairChars (key : String) (value : Value) : List Char :=
  key.toList ++ '=' :: Text.singleQuote ::
    ((fieldText value).toList.flatMap escapeQuote ++ [Text.singleQuote])

def recordFields (definition : Entries) : Entries :=
  definition.filter fun e => !instructions.contains e.1

def recordValues (definition : Entries) : String :=
  String.ofList (Value.joinChars [' '] ((recordFields definition).map fun e => pairChars e.1 e.2))

/-! ## The file -/

def readDefinition (files : Files) (path : Files.Path) : Except Fault Entries :=
  match files.stat path with
  | .error .tooLong => .error (Files.Miss.tooLong.fault path)
  | .ok (.file bytes) =>
    match Text.readTextFile bytes with
    | .error e => .error (Files.badText e)
    | .ok text =>
      match Json.read text with
      | .error e => .error (e.fault text)
      | .ok (.dict entries) => .ok entries
      | .ok _ => .error (wrongValue s!"Expected a JSON object in {path.text}")
  | _ =>
    .error (.mishap .noSuchFile s!"User definition file does not exist - {path.text}")

end Provision.User
